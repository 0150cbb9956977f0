import SerialLink.Host.Thread

/-!
# Reassembly on the host

The bytes of the device's frames arrive in pieces.  `bus_rx_isr` reads headers
and queues `bus_rx_work`, which reads payloads and runs as often as it takes to
have one complete.  Neither the pieces nor the order in which the two run have
an influence on the frames that get past `bus_validate_rx`.

The threads decide in the meantime whether a request is pending and which
handlers are registered; nothing else that they do is read by the receiver.
-/

namespace SerialLink

namespace Bus

/-- A frame that got past `bus_validate_rx`, and what `bus_rx_work` read of the
threads. -/
structure Accepted where
  header : SerialHeader
  payload : List UInt8
  requestPending : Bool
  /-- `handler[type] != NULL` -/
  handler : Bool

namespace Accepted

/-- The header and the contents of `rx_buf`. -/
def frame (accepted : Accepted) : SerialHeader × List UInt8 :=
  (accepted.header, accepted.payload)

def hasPayload (accepted : Accepted) : Bool :=
  accepted.header.length.val != 0

/-- The frame is acknowledged. -/
def acknowledged (accepted : Accepted) : Bool :=
  accepted.hasPayload && !accepted.header.noAck

/-- The frame is looked up in the table of handlers. -/
def lookedUp (accepted : Accepted) : Bool :=
  accepted.hasPayload && !accepted.requestPending

/-- The waiting thread is woken, or the handler called. -/
def dispatched (accepted : Accepted) : Bool :=
  accepted.requestPending || accepted.hasPayload && accepted.handler

/-- The acknowledgement. -/
def ack (accepted : Accepted) : Purpose × SerialHeader × List UInt8 :=
  (.ack, ackHeader accepted.header.type accepted.header.sequenceNumber
    .noError, [])

def disposal (accepted : Accepted) : Fate × SerialType × List UInt8 :=
  (if accepted.handler then .handled else .unhandled, accepted.header.type,
    accepted.payload)

end Accepted

/-- The frame in `hdr` and `rx_buf`, if `bus_validate_rx` lets it pass. -/
def validated (bus : Bus) : List Accepted :=
  match busValidateRx bus.hdr with
  | .error _ => []
  | .ok () =>
      [{ header := bus.hdr
         payload := bus.rxPayload bus.hdr.length.val
         requestPending := bus.requestPending
         handler := bus.handler bus.hdr.type }]

/-- The frame that a run of `bus_rx_work` gets past `bus_validate_rx`. -/
def accepted (bus : Bus) : List Accepted :=
  let bus := bus.readPayload
  if bus.bytesRead < bus.hdr.length.val then [] else bus.validated

/-- What accepted frames have done to the wire, the handlers and the
mailbox. -/
structure Effects (bus : Bus) (accepted : List Accepted) (later : Bus) :
    Prop where
  wire : later.wire = bus.wire ++
    (accepted.filter Accepted.acknowledged).map Accepted.ack
  disposals : later.disposals = bus.disposals ++
    (accepted.filter Accepted.lookedUp).map Accepted.disposal
  rxSem : later.rxSem =
    (bus.rxSem || accepted.any Accepted.requestPending)
  lastHdr : later.lastHdr =
    (((accepted.filter Accepted.requestPending).getLast?).map
      Accepted.header).getD bus.lastHdr

theorem Effects.append {bus middle later : Bus}
    {first second : List Accepted} (one : Effects bus first middle)
    (other : Effects middle second later) :
    Effects bus (first ++ second) later where
  wire := by
    rw [other.wire, one.wire, List.filter_append, List.map_append,
      List.append_assoc]
  disposals := by
    rw [other.disposals, one.disposals, List.filter_append, List.map_append,
      List.append_assoc]
  rxSem := by
    rw [other.rxSem, one.rxSem, List.any_append, Bool.or_assoc]
  lastHdr := by
    rw [other.lastHdr, one.lastHdr, List.filter_append, List.getLast?_append]
    cases (second.filter Accepted.requestPending).getLast? <;> rfl

theorem effects_nil {bus later : Bus} (wire : later.wire = bus.wire)
    (disposals : later.disposals = bus.disposals)
    (rxSem : later.rxSem = bus.rxSem) (lastHdr : later.lastHdr = bus.lastHdr) :
    Effects bus [] later where
  wire := wire.trans (List.append_nil _).symm
  disposals := disposals.trans (List.append_nil _).symm
  rxSem := rxSem.trans (Bool.or_false _).symm
  lastHdr := lastHdr

theorem Effects.andThen {bus middle later : Bus} {accepted : List Accepted}
    (one : Effects bus accepted middle) (none : Effects middle [] later) :
    Effects bus accepted later := by
  have both := one.append none
  rwa [List.append_nil] at both

theorem Effects.nil_symm {bus later : Bus} (same : Effects bus [] later) :
    Effects later [] bus :=
  effects_nil (same.wire.trans (List.append_nil _)).symm
    (same.disposals.trans (List.append_nil _)).symm
    (same.rxSem.trans (Bool.or_false _)).symm same.lastHdr.symm

theorem effects_completeFrame (bus : Bus) :
    Effects bus bus.validated bus.completeFrame := by
  rw [completeFrame, validated]
  cases busValidateRx bus.hdr with
  | error errno => exact effects_nil rfl rfl rfl rfl
  | ok _ =>
      dsimp only
      by_cases empty : bus.hdr.length.val = 0
      · rw [if_pos empty]
        by_cases pending : bus.requestPending = true
        · constructor <;>
            simp [pending, empty, wake, resetParser, Accepted.acknowledged,
              Accepted.lookedUp, Accepted.hasPayload]
        · constructor <;>
            simp [pending, empty, resetParser, Accepted.acknowledged,
              Accepted.lookedUp, Accepted.hasPayload]
      · rw [if_neg empty, dispatchData, deliver, acknowledge]
        by_cases silent : bus.hdr.noAck = true <;>
          by_cases pending : bus.requestPending = true <;>
          constructor <;>
          simp [silent, pending, empty, wake, resetParser, recordFrame,
            busSendAck, busSendRaw, callHandler, dispose, rxPayload,
            Accepted.acknowledged, Accepted.lookedUp, Accepted.hasPayload,
            Accepted.ack, Accepted.disposal]

/-- `bus_rx_work` does nothing else. -/
theorem effects_busRxWork (bus : Bus) :
    Effects bus bus.accepted bus.busRxWork := by
  have kept : Effects bus [] bus.readPayload := effects_nil rfl rfl rfl rfl
  unfold busRxWork accepted
  dsimp only
  split
  · exact kept
  · exact kept.append (effects_completeFrame bus.readPayload)

section Header

variable {origin : Bus} {read : List UInt8}

/-- Reading header bytes does not involve the FIFO they came from. -/
theorem foldl_parseHeaderByte_fifo (read : List UInt8) (origin : Bus)
    (fifo : List UInt8) :
    read.foldl parseHeaderByte { origin with rxFifo := fifo } =
      { read.foldl parseHeaderByte origin with rxFifo := fifo } :=
  List.foldl_hom (fun bus : Bus => { bus with rxFifo := fifo })
    fun bus byte => parseHeaderByte_fifo bus byte fifo

/-- Nor does it involve the threads. -/
theorem foldl_parseHeaderByte_threads (read : List UInt8) (origin : Bus)
    (requestPending : Bool) (handler : SerialType → Bool) :
    read.foldl parseHeaderByte { origin with requestPending, handler } =
      { read.foldl parseHeaderByte origin with requestPending, handler } := by
  have one : ∀ (bus : Bus) (byte : UInt8),
      parseHeaderByte { bus with requestPending, handler } byte =
        { parseHeaderByte bus byte with requestPending, handler } := by
    intro bus byte
    unfold parseHeaderByte
    dsimp only
    (repeat' split) <;> rfl
  exact List.foldl_hom
    (fun bus : Bus => { bus with requestPending, handler }) one

variable (boundary : origin.state = .type) (short : read.length < 4)

include boundary short

/-- Part of a header. -/
theorem foldl_parseHeaderByte_short :
    (read.foldl parseHeaderByte origin).state ≠ .data ∧
      Effects origin [] (read.foldl parseHeaderByte origin) ∧
      (read.foldl parseHeaderByte origin).rxWorkPending =
        origin.rxWorkPending := by
  rcases read with _ | ⟨first, _ | ⟨second, _ | ⟨third, _ | ⟨fourth, rest⟩⟩⟩⟩
  · exact ⟨fun inData => by simp [boundary] at inData,
      effects_nil rfl rfl rfl rfl, rfl⟩
  · simp only [List.foldl, parseHeaderByte, boundary]
    exact ⟨by simp, effects_nil rfl rfl rfl rfl, trivial⟩
  · simp only [List.foldl, parseHeaderByte, boundary]
    exact ⟨by simp, effects_nil rfl rfl rfl rfl, trivial⟩
  · simp only [List.foldl, parseHeaderByte, boundary]
    exact ⟨by simp, effects_nil rfl rfl rfl rfl, trivial⟩
  · simp only [List.length_cons] at short
    omega

/-- The loop of `bus_rx_isr` takes up where it stopped. -/
theorem drainHeader_resume (bytes : List UInt8) :
    drainHeader bytes (read.foldl parseHeaderByte origin) =
      drainHeader (read ++ bytes) origin := by
  match read, short with
  | [], _ => rfl
  | [_], _ =>
      simp [drainHeader, parseHeaderByte, boundary]
  | [_, _], _ =>
      simp [drainHeader, parseHeaderByte, boundary]
  | [_, _, _], _ =>
      simp [drainHeader, parseHeaderByte, boundary]

section Resume

variable {bus : Bus} (parsed : bus = read.foldl parseHeaderByte origin)

include parsed

/-- The rest of a header is in the FIFO. -/
theorem busRxIsr_of_header {header : SerialHeader} {behind : List UInt8}
    (fits : header.length.val ≤ serialMaxPayloadLen)
    (arrived : read ++ bus.rxFifo = header.encode ++ behind) :
    bus.busRxIsr =
      { origin with
        rxFifo := behind
        hdr := header
        bytesRead := 0
        state := .data
        rxWorkPending := true } := by
  have small : ¬header.length.val > serialMaxPayloadLen :=
    Nat.not_lt.mpr fits
  have inData : (origin.headerParsed header).state = .data := by
    rw [headerParsed, if_neg small]
  have drained : drainHeader bus.rxFifo bus =
      { origin.headerParsed header with rxFifo := behind } := by
    calc
      drainHeader bus.rxFifo bus =
          drainHeader (read ++ bus.rxFifo) origin := by
        rw [← drainHeader_resume boundary short, ← parsed]
      _ = drainHeader behind (origin.headerParsed header) := by
        rw [arrived, drainHeader_encode _ _ _ boundary]
      _ = _ := drainHeader_of_data inData behind
  rw [busRxIsr, drained]
  simp only [headerParsed, if_neg small, if_true]

/-- Less than a header is there. -/
theorem busRxIsr_of_short (few : (read ++ bus.rxFifo).length < 4) :
    bus.busRxIsr =
      (read ++ bus.rxFifo).foldl parseHeaderByte
        { origin with rxFifo := [] } := by
  have outside := (foldl_parseHeaderByte_short boundary few).1
  have drained : drainHeader bus.rxFifo bus =
      { (read ++ bus.rxFifo).foldl parseHeaderByte origin with
        rxFifo := [] } := by
    calc
      drainHeader bus.rxFifo bus =
          drainHeader (read ++ bus.rxFifo ++ []) origin := by
        rw [List.append_nil, ← drainHeader_resume boundary short, ← parsed]
      _ = drainHeader [] ((read ++ bus.rxFifo).foldl parseHeaderByte
            origin) := (drainHeader_resume boundary few []).symm
  rw [busRxIsr, drained]
  exact (if_neg outside).trans (foldl_parseHeaderByte_fifo _ origin []).symm

end Resume

end Header

end Bus

/-- The bus, the bytes that have not arrived, and the frames accepted so
far. -/
structure Reassembly where
  bus : Bus
  line : List UInt8
  accepted : List Bus.Accepted

namespace Reassembly

inductive Label where
  /-- The next bytes arrive. -/
  | arrive (count : Nat)
  | busRxIsr
  /-- `bus_rx_work` runs, having been queued. -/
  | busRxWork
  /-- The threads change what the receiver reads of them. -/
  | threads (requestPending : Bool) (handler : SerialType → Bool)

def step (reassembly : Reassembly) : Label → Option Reassembly
  | .arrive count =>
      some { reassembly with
        bus.rxFifo := reassembly.bus.rxFifo ++ reassembly.line.take count
        line := reassembly.line.drop count }
  | .busRxIsr => some { reassembly with bus := reassembly.bus.busRxIsr }
  | .busRxWork =>
      if reassembly.bus.rxWorkPending then
        some { reassembly with
          bus := reassembly.bus.takeWork.busRxWork
          accepted := reassembly.accepted ++
            reassembly.bus.takeWork.accepted }
      else none
  | .threads requestPending handler =>
      some { reassembly with
        bus.requestPending := requestPending
        bus.handler := handler }

/-- All bytes have been consumed and nothing is queued. -/
structure Settled (reassembly : Reassembly) : Prop where
  line : reassembly.line = []
  fifo : reassembly.bus.rxFifo = []
  idle : reassembly.bus.rxWorkPending = false

/-- The receiver at a frame boundary, before the given frames. -/
structure Ready (reassembly : Reassembly) (frames : List Frame) : Prop where
  boundary : reassembly.bus.state = .type
  fifo : reassembly.bus.rxFifo = []
  idle : reassembly.bus.rxWorkPending = false
  line : reassembly.line = Frame.encodeAll frames
  bounded : ∀ frame ∈ frames, frame.payload.length ≤ serialMaxPayloadLen
  fresh : reassembly.accepted = []

/-- The frames `bus_validate_rx` lets pass. -/
def validFrames (frames : List Frame) : List (SerialHeader × List UInt8) :=
  (frames.filter fun frame => (busValidateRx frame.header).isOk).map
    fun frame => (frame.header, frame.payload)

/-- The parser has read part of the header of the first of the frames to come,
or part of its payload. -/
inductive Parsing (bus : Bus) (line : List UInt8) : List Frame → Prop where
  | header {origin : Bus} {read : List UInt8} {frames : List Frame}
      (boundary : origin.state = .type)
      (idle : bus.rxWorkPending = false)
      (short : read.length < 4)
      (parsed : bus = read.foldl Bus.parseHeaderByte origin)
      (bytes : read ++ (bus.rxFifo ++ line) =
        Frame.encodeAll frames) : Parsing bus line frames
  | payload {frame : Frame} {frames : List Frame}
      (inData : bus.state = .data)
      (header : bus.hdr = frame.header)
      (read : bus.bytesRead ≤ frame.payload.length)
      (contents : Region.slice bus.rxBuf 0
          bus.bytesRead =
        frame.payload.take bus.bytesRead)
      (queued : bus.rxWorkPending = true ∨
        bus.bytesRead < frame.payload.length)
      (bytes : bus.rxFifo ++ line =
        frame.payload.drop bus.bytesRead ++
          Frame.encodeAll frames) : Parsing bus line (frame :: frames)

variable {bus : Bus} {line : List UInt8} {frames : List Frame}

theorem Parsing.arrive (parsing : Parsing bus line frames) (count : Nat) :
    Parsing { bus with rxFifo := bus.rxFifo ++ line.take count }
      (line.drop count) frames := by
  cases parsing with
  | @header origin read _ boundary idle short parsed bytes =>
      refine @Parsing.header _ _
        { origin with rxFifo := bus.rxFifo ++ line.take count } read _
          boundary idle short ?_ ?_
      · rw [Bus.foldl_parseHeaderByte_fifo, ← parsed]
      · dsimp only
        rw [List.append_assoc, List.take_append_drop]
        exact bytes
  | payload inData header read contents queued bytes =>
      refine .payload inData header read contents queued ?_
      dsimp only
      rw [List.append_assoc, List.take_append_drop]
      exact bytes

theorem Parsing.threads (parsing : Parsing bus line frames)
    (requestPending : Bool) (handler : SerialType → Bool) :
    Parsing { bus with requestPending, handler } line frames := by
  cases parsing with
  | @header origin read _ boundary idle short parsed bytes =>
      refine @Parsing.header _ _ { origin with requestPending, handler }
        read _ boundary idle short ?_ bytes
      rw [Bus.foldl_parseHeaderByte_threads, ← parsed]
  | payload inData header read contents queued bytes =>
      exact .payload inData header read contents queued bytes

/-- Where everything has been consumed, no frame is left. -/
theorem Parsing.settled {reassembly : Reassembly}
    (parsing : Parsing reassembly.bus reassembly.line frames)
    (settled : Settled reassembly) : frames = [] := by
  cases parsing with
  | header boundary idle short parsed bytes =>
      rw [settled.fifo, settled.line, List.append_nil, List.append_nil]
        at bytes
      cases frames with
      | nil => rfl
      | cons frame frames =>
          rw [bytes] at short
          simp only [Frame.encodeAll_cons, Frame.encode, List.length_append,
            SerialHeader.length_encode] at short
          omega
  | payload inData header read contents queued bytes =>
      rw [settled.fifo, settled.line] at bytes
      have whole := congrArg List.length bytes
      simp only [List.append_nil, List.length_nil, List.length_append,
        List.length_drop] at whole
      rcases queued with pending | more
      · rw [settled.idle] at pending
        cases pending
      · omega

/-- The header of the next frame is complete once four bytes are there. -/
theorem header_of_bytes {bytes rest : List UInt8} (enough : 4 ≤ bytes.length)
    (stream : bytes ++ rest = Frame.encodeAll frames) :
    ∃ frame others behind, frames = frame :: others ∧
      bytes = frame.header.encode ++ behind ∧
      behind ++ rest = frame.payload ++ Frame.encodeAll others := by
  cases frames with
  | nil =>
      have none := congrArg List.length stream
      simp only [Frame.encodeAll_nil, List.length_append,
        List.length_nil] at none
      omega
  | cons frame others =>
      rw [Frame.encodeAll_cons, Frame.encode, List.append_assoc] at stream
      have parts := List.append_eq_append_iff.mp stream
      rcases parts with ⟨extra, header, remaining⟩ | ⟨behind, split, remaining⟩
      · have lengths := congrArg List.length header
        rw [SerialHeader.length_encode, List.length_append] at lengths
        have none : extra = [] := List.length_eq_zero_iff.mp (by omega)
        rw [none, List.append_nil] at header
        rw [none, List.nil_append] at remaining
        exact ⟨frame, others, [], rfl, by rw [header, List.append_nil],
          remaining⟩
      · exact ⟨frame, others, behind, rfl, split, remaining.symm⟩

/-- `bus_rx_isr` -/
theorem Parsing.busRxIsr (parsing : Parsing bus line frames)
    (bounded : ∀ frame ∈ frames,
      frame.payload.length ≤ serialMaxPayloadLen) :
    Parsing bus.busRxIsr line frames ∧
      Bus.Effects bus [] bus.busRxIsr := by
  cases parsing with
  | @header origin read _ boundary idle short parsed bytes =>
      obtain ⟨-, same, flag⟩ := Bus.foldl_parseHeaderByte_short boundary short
      rw [← parsed] at same flag
      by_cases enough : 4 ≤ (read ++ bus.rxFifo).length
      · rw [← List.append_assoc] at bytes
        obtain ⟨frame, others, behind, rfl, arrived, remaining⟩ :=
          header_of_bytes enough bytes
        have fits : frame.header.length.val ≤ serialMaxPayloadLen :=
          frame.length_eq ▸ bounded frame List.mem_cons_self
        rw [Bus.busRxIsr_of_header boundary short parsed fits arrived]
        refine ⟨.payload rfl rfl (Nat.zero_le _) rfl (.inl rfl) remaining, ?_⟩
        exact same.nil_symm.append (Bus.effects_nil rfl rfl rfl rfl)
      · have few : (read ++ bus.rxFifo).length < 4 := by omega
        have cleared := Bus.foldl_parseHeaderByte_fifo
          (read ++ bus.rxFifo) origin []
        obtain ⟨-, still, quiet⟩ :=
          Bus.foldl_parseHeaderByte_short boundary few
        rw [Bus.busRxIsr_of_short boundary short parsed few]
        constructor
        · refine @Parsing.header _ _ { origin with rxFifo := [] } _ _ boundary
            ?_ few rfl ?_
          · rw [cleared]
            exact quiet.trans (flag.symm.trans idle)
          · rw [← bytes, cleared, List.append_assoc]
            rfl
        · rw [cleared]
          exact same.nil_symm.append
            (still.append (Bus.effects_nil rfl rfl rfl rfl))
  | payload inData header read contents queued bytes =>
      have served : bus.busRxIsr =
          { bus with rxWorkPending := true } := by
        rw [Bus.busRxIsr, Bus.drainHeader_of_data inData]
        exact if_pos inData
      rw [served]
      exact ⟨.payload inData header read contents (.inl rfl) bytes,
        Bus.effects_nil rfl rfl rfl rfl⟩

section Payload

variable {frame : Frame} (header : bus.hdr = frame.header)
  (contents : Region.slice bus.rxBuf 0 bus.bytesRead =
    frame.payload.take bus.bytesRead)

include header in
/-- The FIFO holds a part of what is missing. -/
theorem busRxWork_of_part {more : List UInt8}
    (part : frame.payload.drop bus.bytesRead = bus.rxFifo ++ more)
    (incomplete : more ≠ []) :
    bus.accepted = [] ∧ bus.busRxWork =
      { bus with
        rxFifo := []
        rxBuf := Region.store bus.rxBuf bus.bytesRead bus.rxFifo
        bytesRead := bus.bytesRead + bus.rxFifo.length } := by
  have whole : bus.hdr.length.val = frame.payload.length := by
    rw [header, frame.length_eq]
  have positive : 0 < more.length := List.length_pos_iff.mpr incomplete
  have missing := congrArg List.length part
  rw [List.length_drop, List.length_append, ← whole] at missing
  have taken : bus.readPayload =
      { bus with
        rxFifo := []
        rxBuf := Region.store bus.rxBuf bus.bytesRead bus.rxFifo
        bytesRead := bus.bytesRead + bus.rxFifo.length } := by
    rw [Bus.readPayload, List.take_of_length_le (by omega),
      List.drop_eq_nil_of_le (by omega)]
  have less : bus.bytesRead + bus.rxFifo.length < bus.hdr.length.val := by
    omega
  rw [Bus.accepted, Bus.busRxWork, taken]
  exact ⟨if_pos less, if_pos less⟩

include header contents in
/-- The FIFO holds all that is missing. -/
theorem busRxWork_of_rest {behind : List UInt8}
    (read : bus.bytesRead ≤ frame.payload.length)
    (rest : bus.rxFifo = frame.payload.drop bus.bytesRead ++ behind) :
    ∃ filled : Bus, bus.accepted = filled.validated ∧
      bus.busRxWork = filled.completeFrame ∧ filled.hdr = frame.header ∧
      filled.rxPayload filled.hdr.length.val = frame.payload ∧
      filled.rxFifo = behind ∧
      filled.rxWorkPending = bus.rxWorkPending := by
  have whole : bus.hdr.length.val = frame.payload.length := by
    rw [header, frame.length_eq]
  have missing : (frame.payload.drop bus.bytesRead).length =
      bus.hdr.length.val - bus.bytesRead := by
    rw [List.length_drop, whole]
  have taken : bus.readPayload =
      { bus with
        rxFifo := behind
        rxBuf := Region.store bus.rxBuf bus.bytesRead
          (frame.payload.drop bus.bytesRead)
        bytesRead := bus.hdr.length.val } := by
    rw [Bus.readPayload, rest, ← missing, List.take_left, List.drop_left,
      missing, Nat.add_sub_cancel' (whole ▸ read)]
  have payload := Region.slice_store_extend contents
    (List.append_nil (frame.payload.drop bus.bytesRead)).symm
  rw [missing, Nat.add_sub_cancel' (whole ▸ read), whole,
    List.take_length] at payload
  refine ⟨bus.readPayload, ?_, ?_, ?_, ?_, ?_, ?_⟩
  · rw [Bus.accepted, taken]
    exact if_neg (Nat.lt_irrefl _)
  · rw [Bus.busRxWork, taken]
    exact if_neg (Nat.lt_irrefl _)
  · exact header
  · rw [taken, Bus.rxPayload]
    dsimp only
    rw [whole]
    exact payload
  · rw [taken]
  · rfl

end Payload

theorem validated_of_filled {bus : Bus} {frame : Frame} (frames : List Frame)
    (header : bus.hdr = frame.header)
    (payload : bus.rxPayload bus.hdr.length.val = frame.payload) :
    bus.validated.map Bus.Accepted.frame ++ validFrames frames =
      validFrames (frame :: frames) := by
  rw [Bus.validated, payload, header, validFrames, validFrames]
  cases valid : busValidateRx frame.header with
  | error errno => simp [valid, Except.isOk, Except.toBool]
  | ok _ => simp [valid, Except.isOk, Except.toBool, Bus.Accepted.frame]

/-- A queued `bus_rx_work` -/
theorem Parsing.busRxWork (parsing : Parsing bus line frames)
    (queued : bus.rxWorkPending = true) :
    ∃ left, Parsing bus.takeWork.busRxWork line left ∧
      (∀ frame ∈ left, frame ∈ frames) ∧
      bus.takeWork.accepted.map Bus.Accepted.frame ++ validFrames left =
        validFrames frames := by
  cases parsing with
  | header boundary idle =>
      rw [idle] at queued
      cases queued
  | @payload frame others inData header read contents _ bytes =>
      have complete : ∀ behind,
          bus.rxFifo = frame.payload.drop bus.bytesRead ++ behind →
          Frame.encodeAll others = behind ++ line →
          Parsing bus.takeWork.busRxWork line others ∧
            bus.takeWork.accepted.map Bus.Accepted.frame ++
              validFrames others = validFrames (frame :: others) := by
        intro behind rest remaining
        obtain ⟨filled, accepted, done, same, payload, left, quiet⟩ :=
          @busRxWork_of_rest bus.takeWork frame header contents behind read
            rest
        obtain ⟨boundary, fifo, pending⟩ := filled.completeFrame_boundary
        rw [accepted, done]
        refine ⟨?_, validated_of_filled others same payload⟩
        refine @Parsing.header _ _ filled.completeFrame [] _ boundary
          (pending.trans quiet) (by decide) rfl ?_
        rw [remaining, ← left, ← fifo]
        rfl
      rcases List.append_eq_append_iff.mp bytes with
        ⟨more, part, remaining⟩ | ⟨behind, rest, remaining⟩
      · by_cases none : more = []
        · rw [none, List.append_nil] at part
          rw [none, List.nil_append] at remaining
          obtain ⟨parsing, accepted⟩ := complete []
            (part.symm.trans (List.append_nil _).symm) remaining.symm
          exact ⟨others, parsing,
            fun other member => List.mem_cons_of_mem _ member, accepted⟩
        · obtain ⟨nothing, stored⟩ := @busRxWork_of_part bus.takeWork frame
            header more part none
          have positive : 0 < more.length := List.length_pos_iff.mpr none
          have missing := congrArg List.length part
          rw [List.length_drop, List.length_append] at missing
          have behind : frame.payload.drop
              (bus.bytesRead + bus.rxFifo.length) = more := by
            rw [← List.drop_drop, part, List.drop_left]
          refine ⟨frame :: others, ?_, fun _ member => member, ?_⟩
          · rw [stored]
            refine .payload inData header ?_ (Region.slice_store_extend contents part)
              (.inr ?_) ?_
            · show bus.bytesRead + bus.rxFifo.length ≤ frame.payload.length
              omega
            · show bus.bytesRead + bus.rxFifo.length < frame.payload.length
              omega
            · exact remaining.trans (congrArg (· ++ _) behind.symm)
          · rw [nothing]
            rfl
      · obtain ⟨parsing, accepted⟩ := complete behind rest remaining
        exact ⟨others, parsing,
          fun other member => List.mem_cons_of_mem _ member, accepted⟩

/-- The frames accepted, with the valid ones among those to come, are the
valid ones of the list. -/
structure Progress (start : Reassembly) (frames : List Frame)
    (reassembly : Reassembly) : Prop where
  effects : Bus.Effects start.bus reassembly.accepted reassembly.bus
  rest : ∃ left, Parsing reassembly.bus reassembly.line left ∧
    (∀ frame ∈ left, frame.payload.length ≤ serialMaxPayloadLen) ∧
    reassembly.accepted.map Bus.Accepted.frame ++ validFrames left =
      validFrames frames

variable {start reassembly later : Reassembly}

theorem Progress.of_ready (ready : Ready reassembly frames) :
    Progress reassembly frames reassembly where
  effects := by
    rw [ready.fresh]
    exact Bus.effects_nil rfl rfl rfl rfl
  rest := by
    refine ⟨frames, ?_, ready.bounded, by rw [ready.fresh]; rfl⟩
    refine @Parsing.header _ _ reassembly.bus [] _ ready.boundary ready.idle
      (by decide) rfl ?_
    rw [ready.fifo, ready.line]
    rfl

theorem Progress.step {label : Label}
    (progress : Progress start frames reassembly)
    (stepped : reassembly.step label = some later) :
    Progress start frames later := by
  obtain ⟨effects, left, parsing, bounded, accepted⟩ := progress
  cases label with
  | arrive count =>
      cases stepped
      exact ⟨effects.andThen (Bus.effects_nil rfl rfl rfl rfl), left,
        parsing.arrive count, bounded, accepted⟩
  | busRxIsr =>
      cases stepped
      obtain ⟨still, same⟩ := parsing.busRxIsr bounded
      exact ⟨effects.andThen same, left, still, bounded, accepted⟩
  | busRxWork =>
      rw [Reassembly.step] at stepped
      split at stepped
      · next queued =>
          cases stepped
          have taken : Bus.Effects reassembly.bus [] reassembly.bus.takeWork :=
            Bus.effects_nil rfl rfl rfl rfl
          have worked := taken.append
            (Bus.effects_busRxWork reassembly.bus.takeWork)
          obtain ⟨rest, still, fewer, more⟩ := parsing.busRxWork queued
          refine ⟨effects.append worked, rest, still, ?_, ?_⟩
          · intro frame member
            exact bounded frame (fewer frame member)
          · rw [List.map_append, List.append_assoc, more, accepted]
      · cases stepped
  | threads requestPending handler =>
      cases stepped
      exact ⟨effects.andThen (Bus.effects_nil rfl rfl rfl rfl), left,
        parsing.threads requestPending handler, bounded, accepted⟩

/-- In whatever pieces the frames arrive, and whenever the two routines run:
once everything has been consumed, the frames that got past `bus_validate_rx`
are the valid ones of the list.  Those with a payload have been acknowledged,
unless they ask not to be; a pending request has been woken by each of them,
and otherwise those with a payload have been given to the handler of their
type, if there is one. -/
theorem reassembles {labels : List Label} (ready : Ready reassembly frames)
    (executed : Run.exec step reassembly labels = some later)
    (settled : Settled later) :
    later.accepted.map Bus.Accepted.frame = validFrames frames ∧
      Bus.Effects reassembly.bus later.accepted later.bus := by
  have progress := Run.exec_preserves
    (fun _ _ _ before stepped => Progress.step before stepped) executed
    (Progress.of_ready ready)
  obtain ⟨left, parsing, -, accepted⟩ := progress.rest
  rw [parsing.settled settled] at accepted
  exact ⟨(List.append_nil _).symm.trans accepted, progress.effects⟩

/-- The receiver before a list of frames. -/
def before (frames : List Frame) : Reassembly where
  bus := Bus.inUse
  line := Frame.encodeAll frames
  accepted := []

theorem ready_before (bounded : ∀ frame ∈ frames,
    frame.payload.length ≤ serialMaxPayloadLen) :
    Ready (before frames) frames :=
  ⟨rfl, rfl, rfl, rfl, bounded, rfl⟩

/-- An event, a frame with a reserved bit set, and an acknowledgement. -/
def mixedFrames : List Frame :=
  [.ofPayload .hci 3 [4, 14] (by decide),
    { header :=
        { type := .hci, noAck := false, host := true, error := .noError
          reserved := 1, sequenceNumber := 4, length := 1 }
      payload := [7]
      length_eq := rfl },
    .ofPayload .wifiMgmt 5 [] Frame.nil_bounded]

/-- The event arrives in three pieces, the rest at once. -/
def mixedSchedule : List Label :=
  [.arrive 3, .busRxIsr, .arrive 2, .busRxIsr, .busRxWork, .arrive 20,
    .busRxIsr, .busRxWork, .busRxIsr, .busRxWork, .busRxIsr, .busRxWork]

/-- What is left to be done. -/
def remainder (reassembly : Reassembly) : List UInt8 × List UInt8 × Bool :=
  (reassembly.line, reassembly.bus.rxFifo, reassembly.bus.rxWorkPending)

theorem settled_of_remainder
    (none : remainder reassembly = ([], [], false)) : Settled reassembly := by
  obtain ⟨line, both⟩ := Prod.mk.inj none
  obtain ⟨fifo, idle⟩ := Prod.mk.inj both
  exact ⟨line, fifo, idle⟩

theorem mixedFrames_reassembled :
    ∃ later, Run.exec step (before mixedFrames) mixedSchedule = some later ∧
      later.accepted.map Bus.Accepted.frame = validFrames mixedFrames ∧
      Bus.Effects Bus.inUse later.accepted later.bus := by
  have finished : (Run.exec step (before mixedFrames) mixedSchedule).map
      remainder = some ([], [], false) := by
    decide +kernel
  obtain ⟨later, executed, none⟩ := Option.map_eq_some_iff.mp finished
  refine ⟨later, executed, reassembles (ready_before ?_) executed
    (settled_of_remainder none)⟩
  decide

/-- An acknowledgement of the device. -/
def deviceAck : Frame :=
  .ofPayload .wifiMgmt 5 [] Frame.nil_bounded

/-- A valid acknowledgement that nobody waits for is neither acknowledged nor
dispatched. -/
theorem ack_not_dispatched :
    Ready (before [deviceAck]) [deviceAck] ∧
      ∃ later, Run.exec step (before [deviceAck])
          [.arrive 4, .busRxIsr, .busRxWork] = some later ∧
        Settled later ∧
        (later.accepted.filter fun accepted => accepted.acknowledged ||
            accepted.dispatched).map Bus.Accepted.frame ≠
          validFrames [deviceAck] := by
  refine ⟨ready_before (by decide), _, rfl, ⟨rfl, rfl, rfl⟩, ?_⟩
  decide

end Reassembly

end SerialLink
