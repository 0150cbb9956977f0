import SerialLink.Device.HeaderParsing
import SerialLink.Link.Composition

/-!
# Acknowledgements of the handshake

The host acknowledges a data frame with an empty frame of the same type.  The
device takes an empty frame of `PROTOCOL_INFO` for a query, whatever its
`no_ack` bit says, and so answers the acknowledgement of its own response.
-/

namespace SerialLink

namespace Link

/-- The queries that `bus_sync` has sent. -/
def queriesSent (host : Bus) : Nat :=
  host.wire.countP fun (purpose, _, _) => purpose = .query

/-- The `PROTOCOL_INFO` frames that the device has sent. -/
def responsesSent (device : Device) : Nat :=
  device.sent.countP fun (header, _) => header.type = .protocolInfo

/-- The device has not answered more often than it was asked. -/
def NoEcho (link : Link) : Prop :=
  responsesSent link.receiver.device ≤ queriesSent link.host

/-- `serial_work_handler` does not begin on the acknowledgement of a
`PROTOCOL_INFO` frame. -/
def NotAcknowledgement (link : Link) : Label → Prop
  | .device .begin =>
      link.receiver.device.serialHeader.type = .protocolInfo →
        link.receiver.device.serialHeader.noAck = true
  | _ => True

/-- The headers that ask for protocol information. -/
def isQuery (header : SerialHeader) : Bool :=
  header.type = .protocolInfo ∧ header.noAck = true

/-- An empty frame, which is a query exactly if `bus_sync` sent it as one. -/
def Plain (entry : Purpose × SerialHeader × List UInt8) : Prop :=
  entry.2.1.length.val = 0 ∧ entry.2.2 = [] ∧
    (isQuery entry.2.1 = true ↔ entry.1 = .query)

theorem plain_ack (type : SerialType) (sequenceNumber : Fin 16)
    (error : ErrorType) :
    Plain (.ack, Bus.ackHeader type sequenceNumber error, []) := by
  refine ⟨rfl, rfl, ?_⟩
  simp [isQuery, Bus.ackHeader]

/-- The host writes empty frames only, and no requests. -/
def WritesPlain (host later : Bus) : Prop :=
  ∃ extra, later.wire = host.wire ++ extra ∧ ∀ entry ∈ extra, Plain entry

theorem WritesPlain.refl_of_wire {host later : Bus}
    (same : later.wire = host.wire) : WritesPlain host later :=
  ⟨[], same.trans (List.append_nil _).symm,
    fun _ member => absurd member List.not_mem_nil⟩

theorem WritesPlain.trans {first second third : Bus}
    (left : WritesPlain first second) (right : WritesPlain second third) :
    WritesPlain first third := by
  obtain ⟨firstExtra, firstWire, firstPlain⟩ := left
  obtain ⟨secondExtra, secondWire, secondPlain⟩ := right
  refine ⟨firstExtra ++ secondExtra, ?_, ?_⟩
  · rw [secondWire, firstWire, List.append_assoc]
  · intro entry member
    rcases List.mem_append.mp member with inFirst | inSecond
    · exact firstPlain entry inFirst
    · exact secondPlain entry inSecond

theorem writesPlain_ack (host : Bus) (type : SerialType)
    (sequenceNumber : Fin 16) (error : ErrorType) :
    WritesPlain host (host.busSendAck type sequenceNumber error) := by
  refine ⟨_, rfl, ?_⟩
  intro entry member
  cases List.mem_singleton.mp member
  exact plain_ack type sequenceNumber error

theorem writesPlain_parseHeaderByte (host : Bus) (byte : UInt8) :
    WritesPlain host (host.parseHeaderByte byte) := by
  unfold Bus.parseHeaderByte
  dsimp only
  split <;> try exact .refl_of_wire rfl
  split
  · exact .refl_of_wire rfl
  · split
    · exact writesPlain_ack _ _ _ _
    · exact .refl_of_wire rfl

theorem writesPlain_drainHeader (bytes : List UInt8) (host : Bus) :
    WritesPlain host (Bus.drainHeader bytes host) := by
  apply Bus.drainHeader_preserves (WritesPlain host)
  · intro later byte written
    exact written.trans (writesPlain_parseHeaderByte later byte)
  · intro later fifo written
    exact written
  · exact .refl_of_wire rfl

theorem writesPlain_busRxIsr (host : Bus) : WritesPlain host host.busRxIsr := by
  have drained := writesPlain_drainHeader host.rxFifo host
  unfold Bus.busRxIsr
  dsimp only
  split
  · exact drained
  · exact drained

theorem writesPlain_busRxWork (host : Bus) :
    WritesPlain host host.takeWork.busRxWork := by
  rw [Bus.busRxWork]
  split
  · exact .refl_of_wire rfl
  · rcases Bus.completeFrame_wire host.takeWork.readPayload with
      same | acknowledged
    · exact .refl_of_wire same
    · refine ⟨_, acknowledged, ?_⟩
      intro entry member
      cases List.mem_singleton.mp member
      exact plain_ack _ _ _

theorem thread_parseHeaderByte (host : Bus) (byte : UInt8) :
    (host.parseHeaderByte byte).thread = host.thread := by
  unfold Bus.parseHeaderByte
  dsimp only
  split <;> try rfl
  split
  · rfl
  · split <;> rfl

theorem thread_drainHeader (bytes : List UInt8) (host : Bus) :
    (Bus.drainHeader bytes host).thread = host.thread := by
  apply Bus.drainHeader_preserves (fun later => later.thread = host.thread)
  · intro later byte same
    exact (thread_parseHeaderByte later byte).trans same
  · intro later fifo same
    exact same
  · rfl

theorem thread_busRxIsr (host : Bus) : host.busRxIsr.thread = host.thread := by
  have drained := thread_drainHeader host.rxFifo host
  unfold Bus.busRxIsr
  dsimp only
  split
  · exact drained
  · exact drained

theorem thread_busRxWork (host : Bus) :
    host.takeWork.busRxWork.thread = host.thread := by
  rw [Bus.busRxWork]
  split
  · rfl
  · exact Bus.completeFrame_thread _

/-- The thread is outside or in a `bus_sync` that no request has called. -/
def Syncing : Thread → Prop
  | .outside => True
  | .syncLoop caller _ => caller = .busOpen
  | .syncDrain caller _ query => caller = .busOpen ∧ Plain (.query, query, [])
  | .syncSend caller _ query => caller = .busOpen ∧ Plain (.query, query, [])
  | .syncTake caller _ => caller = .busOpen
  | .syncInspect caller _ => caller = .busOpen
  | .syncClear caller _ => caller = .busOpen
  | .syncAccept caller => caller = .busOpen
  | .syncResponse caller => caller = .busOpen
  | _ => False

theorem plain_query (host : Bus) : Plain (.query, host.queryHeader, []) := by
  refine ⟨rfl, rfl, ?_⟩
  simp [isQuery, Bus.queryHeader]

theorem syncing_advances {host later : Bus} (syncing : Syncing host.thread)
    (advances : host.Advances later) :
    Syncing later.thread ∧ WritesPlain host later := by
  cases advances with
  | beginQuery position allowed =>
      rw [position] at syncing
      exact ⟨⟨syncing, plain_query host⟩, .refl_of_wire rfl⟩
  | endQueries position =>
      rw [position] at syncing
      cases syncing
      exact ⟨trivial, .refl_of_wire rfl⟩
  | drainToken position given =>
      rw [Bus.discardFrame_eq]
      exact ⟨syncing, .refl_of_wire rfl⟩
  | sendQuery position =>
      rw [position] at syncing
      refine ⟨syncing.1, ⟨_, rfl, ?_⟩⟩
      intro entry member
      cases List.mem_singleton.mp member
      exact syncing.2
  | rejectResponse position =>
      rw [position] at syncing
      rw [Bus.discardFrame_eq]
      exact ⟨syncing, .refl_of_wire rfl⟩
  | readResponse position =>
      rw [position] at syncing
      cases syncing
      rw [Bus.readResponse]
      split
      · exact ⟨trivial, .refl_of_wire rfl⟩
      · exact ⟨trivial, .refl_of_wire rfl⟩
  | drained position | takeResponse position | acceptResponse position
  | clearAttempt position | clearAccepted position =>
      rw [position] at syncing
      exact ⟨syncing, .refl_of_wire rfl⟩
  | _ position =>
      rw [position] at syncing
      exact syncing.elim

/-- The bytes of a list of headers. -/
def encodeHeaders (headers : List SerialHeader) : List UInt8 :=
  headers.flatMap SerialHeader.encode

/-- How far the device is with a stream of empty frames: the bytes it has not
read yet, and the headers it has not handled yet. -/
inductive Parsing (device : Device) :
    List UInt8 → List SerialHeader → Prop where
  | boundary {rest : List SerialHeader}
      (state : device.parsingState = .type) :
      Parsing device (encodeHeaders rest) rest
  | typed {header : SerialHeader} {rest : List SerialHeader}
      (state : device.parsingState = .sequenceNumber)
      (type : device.serialHeader.type = header.type)
      (noAck : device.serialHeader.noAck = header.noAck) :
      Parsing device (header.byte1 :: header.lengthHigh :: header.lengthLow ::
        encodeHeaders rest) (header :: rest)
  | numbered {header : SerialHeader} {rest : List SerialHeader}
      (state : device.parsingState = .length1)
      (type : device.serialHeader.type = header.type)
      (noAck : device.serialHeader.noAck = header.noAck) :
      Parsing device (header.lengthHigh :: header.lengthLow ::
        encodeHeaders rest) (header :: rest)
  | halved {header : SerialHeader} {rest : List SerialHeader}
      (state : device.parsingState = .length2)
      (type : device.serialHeader.type = header.type)
      (noAck : device.serialHeader.noAck = header.noAck)
      (high : device.serialHeader.length.val % 256 = 0) :
      Parsing device (header.lengthLow :: encodeHeaders rest) (header :: rest)
  | complete {header : SerialHeader} {rest : List SerialHeader}
      (state : device.parsingState = .data)
      (info : device.serialHeader.type = .protocolInfo)
      (empty : device.serialHeader.length.val = 0)
      (type : device.serialHeader.type = header.type)
      (noAck : device.serialHeader.noAck = header.noAck) :
      Parsing device (encodeHeaders rest) (header :: rest)

/-- The headers of a stream announce no payload. -/
def AllEmpty (headers : List SerialHeader) : Prop :=
  ∀ header ∈ headers, header.length.val = 0

theorem encodeHeaders_append (first second : List SerialHeader) :
    encodeHeaders (first ++ second) =
      encodeHeaders first ++ encodeHeaders second :=
  List.flatMap_append

/-- Headers written behind the stream wait for their turn. -/
theorem Parsing.append {device : Device} {bytes : List UInt8}
    {headers : List SerialHeader} (parsing : Parsing device bytes headers)
    (more : List SerialHeader) :
    Parsing device (bytes ++ encodeHeaders more) (headers ++ more) := by
  cases parsing with
  | boundary state =>
      rw [← encodeHeaders_append]
      exact .boundary state
  | typed state type noAck =>
      simp only [List.cons_append, ← encodeHeaders_append]
      exact .typed state type noAck
  | numbered state type noAck =>
      simp only [List.cons_append, ← encodeHeaders_append]
      exact .numbered state type noAck
  | halved state type noAck high =>
      simp only [List.cons_append, ← encodeHeaders_append]
      exact .halved state type noAck high
  | complete state info empty type noAck =>
      simp only [List.cons_append, ← encodeHeaders_append]
      exact .complete state info empty type noAck

/-- What the device does with one byte of the stream: it has read it, the
queries among the headers to be handled are the same, and nothing is sent. -/
def Reads (device later : Device) (bytes : List UInt8)
    (headers : List SerialHeader) : Prop :=
  ∃ left, Parsing later bytes left ∧ AllEmpty left ∧
    left.countP isQuery = headers.countP isQuery ∧ later.sent = device.sent

variable {device : Device} {header : SerialHeader} {rest : List SerialHeader}

theorem reads_type (state : device.parsingState = .type)
    (empty : AllEmpty (header :: rest)) :
    Reads device (device.parseHeaderByte header.byte0)
      (header.byte1 :: header.lengthHigh :: header.lengthLow ::
        encodeHeaders rest) (header :: rest) := by
  have decoded := SerialHeader.decode_encode header
  have type := congrArg SerialHeader.type decoded
  have noAck := congrArg SerialHeader.noAck decoded
  refine ⟨header :: rest, ?_, empty, rfl, ?_⟩
  · rw [Device.parseHeaderByte, state]
    exact .typed rfl type noAck
  · simp [Device.parseHeaderByte, state, Device.sent, Device.log]

theorem reads_sequenceNumber (state : device.parsingState = .sequenceNumber)
    (type : device.serialHeader.type = header.type)
    (noAck : device.serialHeader.noAck = header.noAck)
    (empty : AllEmpty (header :: rest)) :
    Reads device (device.parseHeaderByte header.byte1)
      (header.lengthHigh :: header.lengthLow :: encodeHeaders rest)
      (header :: rest) := by
  refine ⟨header :: rest, ?_, empty, rfl, ?_⟩
  · rw [Device.parseHeaderByte, state]
    exact .numbered rfl type noAck
  · rw [Device.parseHeaderByte, state]
    rfl

theorem reads_length1 (state : device.parsingState = .length1)
    (type : device.serialHeader.type = header.type)
    (noAck : device.serialHeader.noAck = header.noAck)
    (empty : AllEmpty (header :: rest)) :
    Reads device (device.parseHeaderByte header.lengthHigh)
      (header.lengthLow :: encodeHeaders rest) (header :: rest) := by
  have zero : header.lengthHigh = 0 := by
    rw [SerialHeader.lengthHigh, empty header List.mem_cons_self]
    rfl
  refine ⟨header :: rest, ?_, empty, rfl, ?_⟩
  · rw [Device.parseHeaderByte, state]
    refine .halved rfl type noAck ?_
    rw [zero]
    show (device.serialHeader.length.val / 256 * 256 + 0) % 65536 % 256 = 0
    omega
  · rw [Device.parseHeaderByte, state]
    rfl

/-- The last byte of an empty header: other types are dropped here. -/
theorem reads_length2 (state : device.parsingState = .length2)
    (type : device.serialHeader.type = header.type)
    (noAck : device.serialHeader.noAck = header.noAck)
    (high : device.serialHeader.length.val % 256 = 0)
    (empty : AllEmpty (header :: rest)) :
    Reads device (device.parseHeaderByte header.lengthLow)
      (encodeHeaders rest) (header :: rest) := by
  have zero : header.lengthLow = 0 := by
    rw [SerialHeader.lengthLow, empty header List.mem_cons_self]
    rfl
  have noPayload : (Fin.ofNat 65536
      ((device.serialHeader.length.val % 256 + (0 : UInt8).toNat * 256) % 256 *
        256 + (device.serialHeader.length.val % 256 + (0 : UInt8).toNat * 256) /
          256)).val = 0 := by
    rw [high]
    rfl
  rw [zero, Device.parseHeaderByte, state]
  dsimp only
  rw [if_pos noPayload]
  split
  · rename_i info
    exact ⟨header :: rest, .complete rfl info noPayload type noAck, empty, rfl,
      rfl⟩
  · rename_i other
    refine ⟨rest, .boundary rfl, ?_, ?_, rfl⟩
    · intro member inRest
      exact empty member (List.mem_cons_of_mem header inRest)
    · have unasked : isQuery header = false := by
        rw [type] at other
        simp [isQuery, other]
      rw [List.countP_cons_of_neg (by rw [unasked]; exact Bool.false_ne_true)]

/-- Reading one byte of the stream. -/
theorem Parsing.byte {byte : UInt8} {bytes : List UInt8}
    {headers : List SerialHeader}
    (parsing : Parsing device (byte :: bytes) headers)
    (empty : AllEmpty headers) (reads : device.parsingState ≠ .data) :
    Reads device (device.parseHeaderByte byte) bytes headers := by
  generalize stream : byte :: bytes = remaining at parsing
  cases parsing with
  | boundary state =>
      cases headers with
      | nil => cases stream
      | cons header rest =>
          obtain ⟨rfl, rfl⟩ := List.cons.inj stream
          exact reads_type state empty
  | typed state type noAck =>
      obtain ⟨rfl, rfl⟩ := List.cons.inj stream
      exact reads_sequenceNumber state type noAck empty
  | numbered state type noAck =>
      obtain ⟨rfl, rfl⟩ := List.cons.inj stream
      exact reads_length1 state type noAck empty
  | halved state type noAck high =>
      obtain ⟨rfl, rfl⟩ := List.cons.inj stream
      exact reads_length2 state type noAck high empty
  | complete state => exact absurd state reads

/-- `Parsing` looks at the parser only. -/
theorem Parsing.congr {later : Device} {bytes : List UInt8}
    {headers : List SerialHeader} (parsing : Parsing device bytes headers)
    (state : later.parsingState = device.parsingState)
    (same : later.serialHeader = device.serialHeader) :
    Parsing later bytes headers := by
  cases parsing with
  | boundary atType => exact .boundary (state.trans atType)
  | typed atNumber type noAck =>
      exact .typed (state.trans atNumber) (same ▸ type) (same ▸ noAck)
  | numbered atLength type noAck =>
      exact .numbered (state.trans atLength) (same ▸ type) (same ▸ noAck)
  | halved atLength type noAck high =>
      exact .halved (state.trans atLength) (same ▸ type) (same ▸ noAck)
        (same ▸ high)
  | complete atData info noPayload type noAck =>
      exact .complete (state.trans atData) (same ▸ info) (same ▸ noPayload)
        (same ▸ type) (same ▸ noAck)

/-- The loop of `uart_irq_callback` over the readable part of the stream. -/
theorem Parsing.drain {fifo beyond : List UInt8}
    {headers : List SerialHeader}
    (parsing : Parsing device (fifo ++ beyond) headers)
    (empty : AllEmpty headers) :
    Reads device (Device.drainHeader fifo device)
      ((Device.drainHeader fifo device).rxFifo ++ beyond) headers := by
  induction fifo generalizing device headers with
  | nil =>
      exact ⟨headers, parsing.congr rfl rfl, empty, rfl, rfl⟩
  | cons byte fifo induction =>
      rw [Device.drainHeader]
      split
      · exact ⟨headers, parsing.congr rfl rfl, empty, rfl, rfl⟩
      · rename_i reads
        obtain ⟨left, parsed, stillEmpty, count, sent⟩ :=
          parsing.byte empty reads
        have counted : Parsing { device.parseHeaderByte byte with
            consumed := device.consumed + 1 } (fifo ++ beyond) left :=
          parsed.congr rfl rfl
        obtain ⟨final, drained, finalEmpty, finalCount, finalSent⟩ :=
          induction counted stillEmpty
        exact ⟨final, drained, finalEmpty, finalCount.trans count,
          finalSent.trans sent⟩

/-- The bytes on their way to the device, and those it has not read yet. -/
def unread (link : Link) : List UInt8 :=
  link.receiver.device.rxFifo ++ link.host.written.drop link.down

/-- Every query has been answered or is still to be handled. -/
structure Invariant (link : Link) : Prop where
  syncing : Syncing link.host.thread
  plain : ∀ entry ∈ link.host.wire, Plain entry
  carried : link.down ≤ link.host.written.length
  waiting : link.receiver.handling = none
  queued : link.receiver.device.workPending = true →
    link.receiver.device.parsingState = .data
  stream : ∃ headers, Parsing link.receiver.device link.unread headers ∧
    AllEmpty headers ∧
    responsesSent link.receiver.device + headers.countP isQuery =
      queriesSent link.host

variable {link : Link}

theorem Invariant.noEcho (invariant : Invariant link) : NoEcho link := by
  obtain ⟨headers, _, _, count⟩ := invariant.stream
  rw [NoEcho]
  omega

theorem written_plain {entries : List (Purpose × SerialHeader × List UInt8)}
    (plain : ∀ entry ∈ entries, Plain entry) :
    entries.flatMap (fun (_, header, payload) =>
        busHeaderEncode header ++ payload) =
      encodeHeaders (entries.map fun (_, header, _) => header) := by
  induction entries with
  | nil => rfl
  | cons entry entries induction =>
      obtain ⟨_, noPayload, _⟩ := plain entry List.mem_cons_self
      have rest := induction fun other member =>
        plain other (List.mem_cons_of_mem entry member)
      simp only [List.flatMap_cons, List.map_cons, encodeHeaders,
        busHeaderEncode_eq, noPayload, List.append_nil] at rest ⊢
      rw [rest]

theorem queries_plain {entries : List (Purpose × SerialHeader × List UInt8)}
    (plain : ∀ entry ∈ entries, Plain entry) :
    (entries.map fun (_, header, _) => header).countP isQuery =
      entries.countP fun (purpose, _, _) => purpose = .query := by
  rw [List.countP_map]
  apply List.countP_congr
  intro entry member
  obtain ⟨_, _, query⟩ := plain entry member
  simp only [Function.comp_apply, decide_eq_true_eq]
  exact query

/-- A step of the host. -/
theorem Invariant.hostStep {later : Bus} (invariant : Invariant link)
    (syncing : Syncing later.thread) (writes : WritesPlain link.host later) :
    Invariant (link.withHost later) := by
  obtain ⟨extra, wire, plain⟩ := writes
  obtain ⟨headers, parsing, empty, count⟩ := invariant.stream
  have written : later.written = link.host.written ++
      encodeHeaders (extra.map fun (_, header, _) => header) := by
    rw [Bus.written, wire, List.flatMap_append, written_plain plain]
    rfl
  refine ⟨syncing, ?_, ?_, invariant.waiting, invariant.queued,
    headers ++ extra.map (fun (_, header, _) => header), ?_, ?_, ?_⟩
  · intro entry member
    rw [withHost, wire] at member
    rcases List.mem_append.mp member with earlier | new
    · exact invariant.plain entry earlier
    · exact plain entry new
  · show link.down ≤ later.written.length
    rw [written, List.length_append]
    exact Nat.le_trans invariant.carried (Nat.le_add_right _ _)
  · have unread : (link.withHost later).unread = link.unread ++
        encodeHeaders (extra.map fun (_, header, _) => header) := by
      show _ ++ later.written.drop link.down = _
      rw [written, List.drop_append_of_le_length invariant.carried,
        ← List.append_assoc]
      rfl
    rw [unread]
    exact parsing.append _
  · intro header member
    rcases List.mem_append.mp member with earlier | new
    · exact empty header earlier
    · obtain ⟨entry, inExtra, rfl⟩ := List.mem_map.mp new
      exact (plain entry inExtra).1
  · have queries : queriesSent later = queriesSent link.host +
        extra.countP fun (purpose, _, _) => purpose = .query := by
      rw [queriesSent, wire, List.countP_append]
      rfl
    rw [List.countP_append, queries_plain plain]
    show _ = queriesSent later
    rw [queries, ← count, Nat.add_assoc]
    rfl

private theorem take_append_drop_length (bytes : List UInt8) (count : Nat) :
    bytes.take count ++ bytes.drop (bytes.take count).length = bytes := by
  have same : bytes.take (bytes.take count).length = bytes.take count := by
    simp [List.take_eq_take_iff]
  have split := List.take_append_drop (bytes.take count).length bytes
  rw [same] at split
  exact split

theorem Invariant.carryDown (invariant : Invariant link) (count : Nat) :
    Invariant (link.carryDown count) := by
  obtain ⟨headers, parsing, empty, answered⟩ := invariant.stream
  have carried : (link.downBytes count).length ≤
      link.host.written.length - link.down := by
    rw [downBytes, List.length_take, List.length_drop]
    exact Nat.min_le_right _ _
  refine ⟨invariant.syncing, invariant.plain, ?_, invariant.waiting,
    invariant.queued, headers, ?_, empty, answered⟩
  · show link.down + (link.downBytes count).length ≤ link.host.written.length
    have bounded := invariant.carried
    omega
  · have same : (link.carryDown count).unread = link.unread := by
      show (link.receiver.device.rxFifo ++ link.downBytes count) ++
        link.host.written.drop (link.down + (link.downBytes count).length) = _
      rw [← List.drop_drop, List.append_assoc, downBytes,
        take_append_drop_length]
      rfl
    rw [same]
    exact parsing.congr rfl rfl

theorem Invariant.callback (invariant : Invariant link) :
    Invariant (link.withReceiver
      { device := link.receiver.device.uartIrqCallback
        handling := none }) := by
  obtain ⟨headers, parsing, empty, answered⟩ := invariant.stream
  -- Whatever the callback leaves, the handler is queued in front of a payload.
  have submitted : ∀ drained : Device,
      (drained.workPending = true → drained.parsingState = .data) →
      Reads link.receiver.device drained
        (drained.rxFifo ++ link.host.written.drop link.down) headers →
      Invariant (link.withReceiver
        { device := if drained.parsingState = .data then drained.submitWork
            else drained
          handling := none }) := by
    rintro drained queued ⟨left, parsed, leftEmpty, count, sent⟩
    have responses : responsesSent drained =
        responsesSent link.receiver.device := by
      rw [responsesSent, sent]
      rfl
    have kept : responsesSent drained + left.countP isQuery =
        queriesSent link.host := by
      rw [responses, count]
      exact answered
    split
    · rename_i inData
      exact ⟨invariant.syncing, invariant.plain, invariant.carried, rfl,
        fun _ => inData, left, parsed.congr rfl rfl, leftEmpty, kept⟩
    · exact ⟨invariant.syncing, invariant.plain, invariant.carried, rfl,
        queued, left, parsed, leftEmpty, kept⟩
  apply submitted
  · split
    · exact invariant.queued
    · exact Device.drainHeader_queued _ invariant.queued
  · split
    · exact ⟨headers, parsing, empty, rfl, rfl⟩
    · exact parsing.drain empty

/-- The end of `handle_protocol_info`. -/
theorem answerProtocolInfo_spec (build : Build) (device : Device) :
    (device.answerProtocolInfo build).sent = device.sent ++
        [(Device.frameHeader .protocolInfo .noError false
          device.txSequenceNumber 4, device.protocolInfoPayload build)] ∧
      (device.answerProtocolInfo build).parsingState = .type ∧
      (device.answerProtocolInfo build).rxFifo = device.rxFifo ∧
      (device.answerProtocolInfo build).workPending = device.workPending := by
  unfold Device.answerProtocolInfo
  rw [Device.handleProtocolInfo_eq]
  exact ⟨List.filterMap_append, rfl, rfl, rfl⟩

/-- The handler answers a query. -/
theorem Invariant.begin {build : Build} (invariant : Invariant link)
    (pending : link.receiver.device.workPending = true)
    (asked : link.receiver.device.serialHeader.type = .protocolInfo →
      link.receiver.device.serialHeader.noAck = true) :
    Invariant (link.withReceiver
      (Receiver.begin build link.receiver.device.takeWork)) := by
  obtain ⟨headers, parsing, empty, answered⟩ := invariant.stream
  have inData := invariant.queued pending
  generalize stream : link.unread = bytes at parsing
  cases parsing with
  | boundary state => cases inData.symm.trans state
  | typed state => cases inData.symm.trans state
  | numbered state => cases inData.symm.trans state
  | halved state => cases inData.symm.trans state
  | @complete header rest state info noPayload type noAck =>
      have begun : Receiver.begin build link.receiver.device.takeWork =
          { device := link.receiver.device.takeWork.answerProtocolInfo build
            handling := none } := if_pos ⟨info, noPayload⟩
      have query : isQuery header = true := by
        simp only [isQuery, ← type, ← noAck, info, asked info]
        rfl
      obtain ⟨sent, boundary, fifo, taken⟩ :=
        answerProtocolInfo_spec build link.receiver.device.takeWork
      have responses : responsesSent
          (link.receiver.device.takeWork.answerProtocolInfo build) =
            responsesSent link.receiver.device + 1 := by
        rw [responsesSent, sent, List.countP_append]
        rfl
      rw [begun]
      -- What is left depends on the device through these facts only.
      generalize link.receiver.device.takeWork.answerProtocolInfo build =
        device at boundary fifo taken responses ⊢
      refine ⟨invariant.syncing, invariant.plain, invariant.carried, rfl, ?_,
        rest, ?_, ?_, ?_⟩
      · intro pending
        cases taken.symm.trans pending
      · have same : (link.withReceiver { device, handling := none }).unread =
            encodeHeaders rest := by
          show device.rxFifo ++ link.host.written.drop link.down = _
          rw [fifo]
          exact stream
        rw [same]
        exact .boundary boundary
      · intro other member
        exact empty other (List.mem_cons_of_mem header member)
      · show responsesSent device + _ = queriesSent link.host
        rw [List.countP_cons_of_pos query] at answered
        rw [responses]
        omega

theorem Invariant.step {build : Build} {label : Label} {later : Link}
    (invariant : Invariant link) (allowed : NotAcknowledgement link label)
    (stepped : link.step build label = some later) : Invariant later := by
  cases label with
  | busSync =>
      simp only [Link.step] at stepped
      split at stepped
      · cases stepped
        exact invariant.hostStep rfl (.refl_of_wire rfl)
      · cases stepped
  | advance =>
      obtain ⟨host, advanced, rfl⟩ := Option.map_eq_some_iff.mp stepped
      have kept := syncing_advances invariant.syncing
        (Bus.advances_of_advance advanced)
      exact invariant.hostStep kept.1 kept.2
  | expire =>
      obtain ⟨host, expired, rfl⟩ := Option.map_eq_some_iff.mp stepped
      have syncing := invariant.syncing
      cases Bus.steps_of_expire expired with
      | expireRequest position =>
          rw [position] at syncing
          exact syncing.elim
      | expireSync position =>
          rw [position] at syncing
          exact invariant.hostStep syncing (.refl_of_wire rfl)
  | busRxIsr =>
      cases stepped
      exact invariant.hostStep (thread_busRxIsr link.host ▸ invariant.syncing)
        (writesPlain_busRxIsr link.host)
  | busRxWork =>
      simp only [Link.step] at stepped
      split at stepped
      · cases stepped
        exact invariant.hostStep
          (thread_busRxWork link.host ▸ invariant.syncing)
          (writesPlain_busRxWork link.host)
      · cases stepped
  | carryDown count =>
      cases stepped
      exact invariant.carryDown count
  | carryUp count =>
      cases stepped
      have kept : Invariant (link.withHost { link.host with
          rxFifo := link.host.rxFifo ++ link.upBytes count }) :=
        invariant.hostStep invariant.syncing (.refl_of_wire rfl)
      exact ⟨kept.syncing, kept.plain, kept.carried, kept.waiting, kept.queued,
        kept.stream⟩
  | device action =>
      obtain ⟨receiver, acted, rfl⟩ := Option.map_eq_some_iff.mp stepped
      cases action with
      | callback =>
          simp only [Receiver.step, invariant.waiting] at acted
          cases acted
          exact invariant.callback
      | begin =>
          simp only [Receiver.step, invariant.waiting] at acted
          split at acted
          · rename_i pending
            cases acted
            exact invariant.begin pending allowed
          · cases acted
      | iterate =>
          simp [Receiver.step, invariant.waiting] at acted

/-- As long as the device does not handle an acknowledgement of its own
response, it answers no more often than it is asked. -/
theorem noEcho_of_notAcknowledgement (build : Build)
    (handler : SerialType → Bool) (labels : List Label) (final : Link)
    (run : Run.GuardedRun (step build) NotAcknowledgement (boot handler) labels
      final) : NoEcho final := by
  have nothing : Parsing Device.boot (encodeHeaders []) [] := .boundary rfl
  have start : Invariant (boot handler) :=
    ⟨trivial, fun _ member => absurd member List.not_mem_nil, Nat.le_refl _,
      rfl, nofun, [], nothing, fun _ member => absurd member List.not_mem_nil,
      rfl⟩
  have kept := run.preserves
    (fun _ _ _ invariant allowed stepped => invariant.step allowed stepped)
    start
  exact kept.noEcho

instance (link : Link) : (label : Label) →
    Decidable (NotAcknowledgement link label)
  | .device .begin => inferInstanceAs (Decidable (_ → _))
  | .device .callback | .device .iterate | .busSync | .advance | .expire
  | .busRxIsr | .busRxWork | .carryDown _ | .carryUp _ =>
      inferInstanceAs (Decidable True)

/-- A query, its response, and the end of `bus_sync`. -/
def handshake : List Label :=
  [.busSync, .advance, .advance, .advance, .carryDown 4, .device .callback,
    .device .begin, .carryUp 8, .busRxIsr, .busRxWork, .advance, .advance,
    .advance, .advance]

theorem noEcho_handshake :
    ∃ final, Run.exec (step Build.full) (boot fun _ => true) handshake =
        some final ∧
      NoEcho final ∧ responsesSent final.receiver.device = 1 := by
  have ran : (Run.execGuarded (step Build.full) NotAcknowledgement
      (boot fun _ => true) handshake).map
        (fun final => responsesSent final.receiver.device) = some 1 := by
    decide
  obtain ⟨final, executed, responses⟩ := Option.map_eq_some_iff.mp ran
  have run := Run.guardedRun_of_execGuarded executed
  exact ⟨final, run.exec_eq, noEcho_of_notAcknowledgement Build.full _
    handshake final run, responses⟩

/-- The acknowledgement of the response reaches the device. -/
def echoed : List Label :=
  handshake ++ [.carryDown 4, .device .callback, .device .begin]

/-- The device has been asked once and has answered twice. -/
theorem acknowledgement_echoed :
    ∃ final, Run.exec (step Build.full) (boot fun _ => true) echoed =
        some final ∧
      queriesSent final.host = 1 ∧
      responsesSent final.receiver.device = 2 ∧ ¬NoEcho final := by
  have ran : (Run.exec (step Build.full) (boot fun _ => true) echoed).map
      (fun final => (queriesSent final.host,
        responsesSent final.receiver.device)) = some (1, 2) := by
    decide
  obtain ⟨final, executed, outcome⟩ := Option.map_eq_some_iff.mp ran
  obtain ⟨queries, responses⟩ := Prod.mk.inj outcome
  refine ⟨final, executed, queries, responses, ?_⟩
  rw [NoEcho, queries, responses]
  decide

end Link

end SerialLink
