import SerialLink.Device.NoAck

/-!
# The virtual serial device

`vserial_message_complete` puts a received payload into a ring buffer, from
which `vserial_poll_in` takes single bytes.  Whether a frame is accepted is
decided against the transmit buffer, and the frame is acknowledged whatever
the ring buffer had room for.

The ring buffer is a bounded first-in first-out queue, of which `put` stores
the prefix that fits.
-/

namespace SerialLink

/-- A build with the virtual serial device. -/
structure VserialBuild extends Build where
  vserialRegistered : registered .vserial = true
  /-- `CONFIG_VSERIAL_RX_BUF_SIZE`, in the range given by Kconfig. -/
  vserialRxBufSize : Nat
  vserialRxBufSize_ge : 64 ≤ vserialRxBufSize
  vserialRxBufSize_le : vserialRxBufSize ≤ 4096

/-- `ring_buf_put` -/
def ringBufPut (size : Nat) (ring bytes : List UInt8) : List UInt8 :=
  ring ++ bytes.take (size - ring.length)

/-- `vserial_message_complete`, on the buffer that `acquire_buffer` handed
out. -/
def vserialMessageComplete (rxBufSize len : Nat) (txBuf : Nat → UInt8)
    (ring : List UInt8) : List UInt8 :=
  if len > rxBufSize then ring
  else ringBufPut rxBufSize ring (Region.slice txBuf 0 len)

/-- The device with a frame on its way to it, and the ring buffer. -/
structure VirtualSerial where
  reception : Reception
  /-- the contents of `rx_ring`, oldest first -/
  rxRing : List UInt8
  /-- the bytes that `vserial_poll_in` has returned -/
  polled : List UInt8
  /-- the frame that is arriving, or that has arrived last -/
  frame : Option Frame
  /-- the payloads of the frames acknowledged with `NO_ERROR` -/
  acknowledged : List (List UInt8)

namespace VirtualSerial

inductive Label where
  /-- The sender has the next frame. -/
  | send (frame : Frame)
  /-- Bytes of it become readable, or the receiver acts. -/
  | receive (label : Reception.Label)
  | pollIn

abbrev device (state : VirtualSerial) : Device :=
  state.reception.receiver.device

/-- The calls of `message_complete` that were made between two states of the
receiver. -/
def calls (before after : Device) : List (Client × Nat × ClientState) :=
  (completions after.trace).drop (completions before.trace).length

/-- The answers that were sent between them. -/
def replies (before after : Device) : List SerialHeader :=
  (answers after.trace).drop (answers before.trace).length

/-- `NO_ERROR` on a frame of the virtual serial type. -/
def acknowledges (header : SerialHeader) : Bool :=
  decide (header.type = .vserial ∧ header.error = .noError)

/-- The receiver goes on; what it calls and answers takes effect. -/
def follow (build : VserialBuild) (state : VirtualSerial)
    (later : Reception) : VirtualSerial :=
  { state with
    reception := later
    rxRing := (calls state.device later.receiver.device).foldl
      (fun ring (client, len, called) =>
        if client = .vserial then
          vserialMessageComplete build.vserialRxBufSize len called.buffer ring
        else ring)
      state.rxRing
    acknowledged :=
      if (replies state.device later.receiver.device).any acknowledges then
        state.acknowledged ++ (state.frame.map Frame.payload).toList
      else state.acknowledged }

/-- `vserial_poll_in` -/
def pollIn (state : VirtualSerial) : Int × VirtualSerial :=
  match state.rxRing with
  | [] => (-1, state)
  | byte :: rest =>
      (0, { state with rxRing := rest, polled := state.polled ++ [byte] })

/-- A frame of the virtual serial type with the expected number is sent behind
the last byte of the one before. -/
def step (build : VserialBuild) (state : VirtualSerial) :
    Label → Option VirtualSerial
  | .send frame =>
      if state.reception.incoming = [] ∧ frame.header.type = .vserial ∧
          frame.header.sequenceNumber.val = state.device.rxSequenceNumber then
        some
          { state with
            reception := { state.reception with incoming := frame.encode }
            frame := some frame }
      else none
  | .receive label =>
      match state.reception.step build.toBuild label with
      | some later => some (state.follow build later)
      | none => none
  | .pollIn => some state.pollIn.2

/-- After `initialize_uart` and `vserial_init`. -/
def start : VirtualSerial where
  reception :=
    { receiver := { device := .boot, handling := none }, incoming := [] }
  rxRing := []
  polled := []
  frame := none
  acknowledged := []

/-- Acknowledged data is never lost. -/
def Lossless (state : VirtualSerial) : Prop :=
  state.polled ++ state.rxRing = state.acknowledged.flatten

/-- The next iteration of the handler reads the last bytes of the frame. -/
def Completes (state : VirtualSerial) (frame : Frame) : Prop :=
  state.frame = some frame ∧ state.device.parsingState = .data ∧
    frame.payload.length ≤
      state.device.bytesRead + state.device.rxFifo.length

/-- The ring buffer takes the whole payload of a frame that is to be
acknowledged, and nothing of one that is not. -/
def Room (build : VserialBuild) (ring : List UInt8) (frame : Frame) : Prop :=
  if frame.header.noAck then
    build.vserialRxBufSize ≤ ring.length ∨
      build.vserialRxBufSize < frame.payload.length
  else ring.length + frame.payload.length ≤ build.vserialRxBufSize

/-- A frame is sent to a receiver that has done with the one before, and fits
the transmit buffer; the ring buffer has room for it when it is complete. -/
def Roomy (build : VserialBuild) (state : VirtualSerial) : Label → Prop
  | .send frame =>
      state.reception.receiver.handling = none ∧ state.device.Quiet ∧
        frame.payload.length ≤ build.vserialTxBufSize
  | .receive (.act .iterate) =>
      ∀ frame, state.Completes frame → Room build state.rxRing frame
  | _ => True

/-- What the ring buffer gains is what is acknowledged, just when there is
room in this sense. -/
theorem vserialMessageComplete_eq_iff {build : VserialBuild}
    {ring : List UInt8} {frame : Frame} {txBuf : Nat → UInt8}
    (positive : 0 < frame.payload.length)
    (contents : Region.slice txBuf 0 frame.payload.length = frame.payload) :
    vserialMessageComplete build.vserialRxBufSize frame.payload.length txBuf
        ring = ring ++ (if frame.header.noAck then [] else frame.payload) ↔
      Room build ring frame := by
  have nonempty : frame.payload ≠ [] := List.length_pos_iff.mp positive
  unfold vserialMessageComplete Room ringBufPut
  rw [contents]
  by_cases large : frame.payload.length > build.vserialRxBufSize
  · rw [if_pos large]
    by_cases noAck : frame.header.noAck = true
    · simp [noAck, large]
    · have lost : ¬ring = ring ++ frame.payload := by
        simpa using nonempty
      simp [noAck, lost]
      omega
  · rw [if_neg large, List.append_cancel_left_eq]
    by_cases noAck : frame.header.noAck = true
    · simp [noAck, nonempty, large]
      omega
    · have whole : frame.payload.take (build.vserialRxBufSize - ring.length) =
          frame.payload ↔
            frame.payload.length ≤ build.vserialRxBufSize - ring.length := by
        constructor
        · intro same
          have shorter := congrArg List.length same
          rw [List.length_take] at shorter
          omega
        · exact List.take_of_length_le
      simp [noAck, whole]
      omega

/-- The frame on its way, and the receiver when it was sent. -/
structure Expected (build : VserialBuild) (frame : Frame) (origin : Device) :
    Prop where
  type : frame.header.type = .vserial
  sequence : frame.header.sequenceNumber.val = origin.rxSequenceNumber
  fits : frame.payload.length ≤ build.vserialTxBufSize
  atType : origin.parsingState = .type

/-- How far the receiver is with the frame. -/
inductive Phase (build : VserialBuild) (state : VirtualSerial) : Prop where
  | parsing (frame : Frame) (origin : Device)
      (current : state.frame = some frame)
      (expected : Expected build frame origin)
      (parsing : Reception.Parsing frame origin [] state.reception)
      (unanswered : Reception.Unanswered origin state.reception)
  | filling (frame : Frame) (origin : Device) (read : Nat)
      (current : state.frame = some frame)
      (expected : Expected build frame origin)
      (filling :
        Reception.Filling .vserial frame origin read state.reception)
      (contents :
        Region.slice (state.device.clients .vserial).buffer 0 read =
          frame.payload.take read)
  | delivered (frame : Frame) (origin : Device)
      (type : frame.header.type = .vserial)
      (delivered : Reception.Delivered build.toBuild .vserial frame origin
        state.reception)

section Steps

variable {build : VserialBuild} {state : VirtualSerial} {later : Reception}
  {frame : Frame} {origin : Device} {read : Nat}

theorem follow_of_same
    (called : completions later.receiver.device.trace =
      completions state.device.trace)
    (answered : answers later.receiver.device.trace =
      answers state.device.trace) :
    state.follow build later = { state with reception := later } := by
  unfold follow calls replies
  rw [called, answered, List.drop_length, List.drop_length]
  rfl

theorem callbacks (build : VserialBuild) :
    serialMuxGetCallbacks build.toBuild .vserial = some .vserial := by
  simp [serialMuxGetCallbacks, build.vserialRegistered]

theorem Expected.bounded (expected : Expected build frame origin) :
    frame.payload.length ≤ serialMaxPayloadLen :=
  Nat.le_trans expected.fits build.vserialTxBufSize_le

/-- The client of the virtual serial device keeps no count. -/
theorem Expected.room (expected : Expected build frame origin) :
    Client.vserial.demand (origin.clients .vserial) frame.payload.length ≤
      Client.vserial.capacity build.toBuild := by
  simpa [Client.demand, Client.occupied, Client.keepsLength, Client.isMgmt,
    Client.capacity] using expected.fits

theorem Expected.notInfo (expected : Expected build frame origin) :
    frame.header.type ≠ .protocolInfo := by
  rw [expected.type]
  decide

theorem Expected.silent (expected : Expected build frame origin) :
    answers (Device.drainHeader (frame.encode ++ []) origin).trace =
      answers origin.trace := by
  by_cases empty : frame.payload = []
  · exact (Reception.drainHeader_of_empty expected.atType expected.notInfo
      empty).2
  · exact Reception.answers_of_announced expected.atType
      (List.length_pos_iff.mpr empty) expected.bounded

/-- The handler answers nothing when it starts, unless it is asked for the
protocol information. -/
theorem begin_device {device : Device}
    (notInfo : (Receiver.begin build.toBuild device).device.serialHeader.type ≠
      .protocolInfo) :
    (Receiver.begin build.toBuild device).device = device := by
  unfold Receiver.begin at notInfo ⊢
  by_cases info : device.serialHeader.type = .protocolInfo ∧
      device.serialHeader.length.val = 0
  · rw [if_pos info] at notInfo
    exact absurd info.1 notInfo
  · rw [if_neg info]

theorem Phase.step_parsing {label : Reception.Label}
    (current : state.frame = some frame)
    (expected : Expected build frame origin)
    (parsing : Reception.Parsing frame origin [] state.reception)
    (unanswered : Reception.Unanswered origin state.reception)
    (stepped : state.reception.step build.toBuild label = some later) :
    state.follow build later = { state with reception := later } ∧
      Phase build { state with reception := later } := by
  rcases Reception.step_cases stepped with
    ⟨count, rfl⟩ | ⟨idle, rfl⟩ | ⟨idle, pending, rfl⟩ |
      ⟨frameType, handling, -⟩
  · exact ⟨follow_of_same rfl rfl, .parsing frame origin current expected
      (parsing.arrive count) (unanswered.arrive count)⟩
  · have called : completions state.device.uartIrqCallback.trace =
        completions state.device.trace :=
      Device.uartIrqCallback_completions state.device
    have silent := parsing.unanswered_callback unanswered expected.silent
    exact ⟨follow_of_same called (silent.same.trans unanswered.same.symm),
      .parsing frame origin current expected parsing.callback silent⟩
  · by_cases empty : frame.payload = []
    · exact absurd pending (parsing.not_pending_of_empty expected.atType
        expected.notInfo empty)
    · have filling := Reception.Filling.of_parsing build.toBuild .vserial
        expected.atType (List.length_pos_iff.mpr empty) expected.bounded
        parsing unanswered pending
      have same := begin_device (by rw [filling.header]; exact expected.notInfo)
      refine ⟨follow_of_same (by rw [same]; rfl) (by rw [same]; rfl),
        .filling frame origin 0 current expected filling ?_⟩
      rw [Region.slice_zero, List.take_zero]
  · rw [parsing.idle] at handling
    cases handling

/-- The client's buffer is at the start of every piece of its own length. -/
theorem occupied_vserial (device : Device) : device.occupied .vserial = 0 :=
  rfl

theorem loaded_expected (expected : Expected build frame origin)
    (filling : Reception.Filling .vserial frame origin read state.reception)
    {full : Device}
    (loaded : state.device.loaded build.toBuild .vserial
      (some (state.device.occupied .vserial)) state.device.rxFifo [] = full) :
    full.serialHeader = frame.header ∧
      full.rxSequenceNumber = full.serialHeader.sequenceNumber.val ∧
      full.trace = state.device.trace := by
  have header : state.device.serialHeader = frame.header := filling.header
  have inOrder : state.device.rxSequenceNumber =
      frame.header.sequenceNumber.val :=
    filling.sequence.trans expected.sequence.symm
  rw [← loaded]
  refine ⟨?_, ?_, ?_⟩
  · rw [Device.loaded_serialHeader, header]
  · rw [Device.loaded_serialHeader, header, Device.loaded_rxSequenceNumber,
      inOrder]
  · rw [Device.loaded_trace]

/-- The client is called with the whole payload in its buffer. -/
theorem pieceCompleted_completions
    (expected : Expected build frame origin)
    (filling : Reception.Filling .vserial frame origin read state.reception)
    (contents : Region.slice (state.device.clients .vserial).buffer 0 read =
      frame.payload.take read)
    (last : read + state.device.rxFifo.length = frame.payload.length) :
    ∃ called,
      completions (Reception.pieceCompleted build.toBuild .vserial frame
          state.device).trace =
        completions state.device.trace ++
          [(.vserial, frame.payload.length, called)] ∧
      Region.slice called.buffer 0 frame.payload.length = frame.payload := by
  unfold Reception.pieceCompleted
  rw [Device.resetParser_trace]
  generalize loaded : state.device.loaded build.toBuild .vserial
    (some (state.device.occupied .vserial)) state.device.rxFifo [] = full
  obtain ⟨header, inOrder, trace⟩ := loaded_expected expected filling loaded
  have buffer : (full.clients .vserial).buffer =
      Region.store (state.device.clients .vserial).buffer read
        state.device.rxFifo := by
    have bytesRead : state.device.bytesRead = read := filling.bytesRead
    rw [← loaded, Device.loaded_clients, occupied_vserial, Nat.zero_add,
      bytesRead]
  refine ⟨Client.commitData .vserial (full.clients .vserial)
    frame.payload.length, ?_, ?_⟩
  · have called := Device.completeFrame_completions build.toBuild .vserial
      frame.header.type full inOrder
    rw [header, frame.length_eq, trace] at called
    exact called
  · have extended := Region.slice_store_extend contents filling.stream.symm
    rw [last, List.take_length] at extended
    rw [Client.commitData_buffer, buffer, extended]

/-- The frame is acknowledged, unless it asks for no answer. -/
theorem pieceCompleted_answers (expected : Expected build frame origin)
    (filling : Reception.Filling .vserial frame origin read state.reception) :
    answers (Reception.pieceCompleted build.toBuild .vserial frame
        state.device).trace =
      answers state.device.trace ++
        if frame.header.noAck then []
        else [Device.ackHeader .vserial frame.header.sequenceNumber.val
          .noError] := by
  unfold Reception.pieceCompleted
  rw [Device.resetParser_trace]
  generalize loaded : state.device.loaded build.toBuild .vserial
    (some (state.device.occupied .vserial)) state.device.rxFifo [] = full
  obtain ⟨header, inOrder, trace⟩ := loaded_expected expected filling loaded
  rw [← trace, expected.type]
  by_cases noAck : frame.header.noAck = true
  · have silent := Reception.completeFrame_answers_noAck build.toBuild
      .vserial .vserial full inOrder (by rw [header, noAck])
    rw [silent, if_pos noAck, List.append_nil]
  · rw [if_neg noAck]
    simp [Device.completeFrame, inOrder, header, noAck, Device.sendAck,
      Device.messageComplete, Device.setClient, Device.log,
      Device.commitData]

/-- The iteration that reads the last piece. -/
theorem lossless_complete (current : state.frame = some frame)
    (expected : Expected build frame origin)
    (filling : Reception.Filling .vserial frame origin read state.reception)
    (contents : Region.slice (state.device.clients .vserial).buffer 0 read =
      frame.payload.take read)
    (last : read + state.device.rxFifo.length = frame.payload.length)
    (lossless : state.Lossless)
    (done : later.receiver.device =
      Reception.pieceCompleted build.toBuild .vserial frame state.device) :
    (state.follow build later).Lossless ↔
      Room build state.rxRing frame := by
  obtain ⟨called, completed, whole⟩ :=
    pieceCompleted_completions expected filling contents last
  have answered := pieceCompleted_answers expected filling
  have positive := Nat.zero_lt_of_lt filling.incomplete
  have ring : (state.follow build later).rxRing =
      vserialMessageComplete build.vserialRxBufSize frame.payload.length
        called.buffer state.rxRing := by
    simp [follow, calls, done, completed]
  have gained : (state.follow build later).acknowledged.flatten =
      state.acknowledged.flatten ++
        if frame.header.noAck then [] else frame.payload := by
    by_cases noAck : frame.header.noAck = true
    · simp [follow, replies, done, answered, noAck]
    · simp [follow, replies, done, answered, noAck, acknowledges,
        Device.ackHeader, current]
  rw [← vserialMessageComplete_eq_iff positive whole, ← ring]
  unfold Lossless at lossless ⊢
  rw [gained, ← lossless, List.append_assoc]
  exact List.append_right_inj state.polled

theorem Phase.step_filling {label : Reception.Label}
    (current : state.frame = some frame)
    (expected : Expected build frame origin)
    (filling : Reception.Filling .vserial frame origin read state.reception)
    (contents : Region.slice (state.device.clients .vserial).buffer 0 read =
      frame.payload.take read)
    (outside : label ≠ .act .iterate)
    (stepped : state.reception.step build.toBuild label = some later) :
    state.follow build later = { state with reception := later } ∧
      Phase build { state with reception := later } := by
  cases label with
  | arrive count =>
      cases stepped
      exact ⟨follow_of_same rfl rfl, .filling frame origin read current
        expected (filling.arrive count) contents⟩
  | act action =>
      cases action with
      | callback =>
          cases idle : state.reception.receiver.handling with
          | some _ => simp [Reception.step, Receiver.step, idle] at stepped
          | none =>
              have called := filling.callback idle
              have same := Device.uartIrqCallback_of_data filling.inData
              simp only [Reception.step, Receiver.step, idle,
                Option.some.injEq] at stepped
              rw [same] at called stepped
              subst stepped
              exact ⟨follow_of_same rfl rfl, .filling frame origin read
                current expected (idle ▸ called) contents⟩
      | begin =>
          cases idle : state.reception.receiver.handling with
          | some _ => simp [Reception.step, Receiver.step, idle] at stepped
          | none =>
              have begun := filling.begin build.toBuild
              have same := begin_device
                (by rw [begun.header]; exact expected.notInfo)
              by_cases pending : state.device.workPending = true
              · simp only [Reception.step, Receiver.step, idle, pending,
                  if_true, Option.some.injEq] at stepped
                subst stepped
                refine ⟨follow_of_same (by rw [same]; rfl) (by rw [same]; rfl),
                  .filling frame origin read current expected begun ?_⟩
                rw [device, same]
                exact contents
              · simp [Reception.step, Receiver.step, idle, pending] at stepped
      | iterate => exact absurd rfl outside

theorem filling_iterates
    (filling : Reception.Filling .vserial frame origin read state.reception)
    (stepped : state.reception.step build.toBuild (.act .iterate) =
      some later) :
    state.reception.receiver.handling = some frame.header.type ∧
      later = { state.reception with
        receiver := Receiver.iterate build.toBuild frame.header.type
          state.device } := by
  rcases filling.position with idle | ⟨own, -⟩
  · simp [Reception.step, Receiver.step, idle] at stepped
  · simp only [Reception.step, Receiver.step, own, Option.some.injEq]
      at stepped
    exact ⟨own, stepped.symm⟩

section Iteration

variable (current : state.frame = some frame)
  (expected : Expected build frame origin)
  (filling : Reception.Filling .vserial frame origin read state.reception)
  (contents : Region.slice (state.device.clients .vserial).buffer 0 read =
    frame.payload.take read)
  (handling : state.reception.receiver.handling = some frame.header.type)
  (lossless : state.Lossless)

include current expected filling contents lossless

/-- Nothing is readable, and the handler waits for more. -/
theorem Phase.iterate_empty
    (iterated : later = { state.reception with
      receiver :=
        { device := state.device, handling := none } }) :
    (state.follow build later).Lossless ∧
      Phase build (state.follow build later) := by
  have same : state.follow build later = { state with reception := later } :=
    follow_of_same (by rw [iterated]) (by rw [iterated])
  rw [same, iterated]
  exact ⟨lossless, .filling frame origin read current expected
    { filling with
      unanswered := ⟨filling.unanswered.same, filling.unanswered.unharmed⟩
      position := .inl rfl }
    contents⟩

include handling

theorem Phase.iterate_last
    (room : ∀ frame, state.Completes frame → Room build state.rxRing frame)
    (last : read + state.device.rxFifo.length = frame.payload.length)
    (iterated : later = { state.reception with
      receiver :=
        { device := Reception.pieceCompleted build.toBuild .vserial frame
            state.device
          handling := some frame.header.type } }) :
    (state.follow build later).Lossless ∧
      Phase build (state.follow build later) := by
  have ready : state.Completes frame :=
    ⟨current, filling.inData, by
      rw [filling.bytesRead]
      exact Nat.le_of_eq last.symm⟩
  have done : later.receiver.device = Reception.pieceCompleted build.toBuild
      .vserial frame state.device := by
    rw [iterated]
  obtain ⟨-, placed, again⟩ := filling.fits
    (Nat.zero_lt_of_lt filling.incomplete) expected.room
  have delivered := filling.completes (by decide) placed last handling
    expected.sequence again
  refine ⟨(lossless_complete current expected filling contents last lossless
    done).mpr (room frame ready), ?_⟩
  exact .delivered frame _ expected.type (iterated ▸ delivered)

theorem Phase.iterate_more
    (more : read + state.device.rxFifo.length < frame.payload.length)
    (iterated : later = { state.reception with
      receiver :=
        { device := (state.device.loaded build.toBuild .vserial
            (some (state.device.occupied .vserial)) state.device.rxFifo
              []).commitData .vserial state.device.rxFifo.length
          handling := some frame.header.type } }) :
    (state.follow build later).Lossless ∧
      Phase build (state.follow build later) := by
  obtain ⟨-, placed, -⟩ := filling.fits
    (Nat.zero_lt_of_lt filling.incomplete) expected.room
  have extended := filling.extend placed more handling
  have same : state.follow build later = { state with reception := later } := by
    apply follow_of_same
    · rw [iterated]
      exact congrArg completions (Device.loaded_trace ..)
    · rw [iterated]
      exact congrArg answers (Device.loaded_trace ..)
  have bytesRead : state.device.bytesRead = read := filling.bytesRead
  have stored : later.receiver.device.clients .vserial =
      Client.commitData .vserial
        { state.device.clients .vserial with
          buffer := Region.store (state.device.clients .vserial).buffer read
            state.device.rxFifo }
        state.device.rxFifo.length := by
    rw [iterated, ← bytesRead]
    simp [Device.commitData_clients, Device.loaded_clients, occupied_vserial]
  rw [same]
  refine ⟨lossless, .filling frame origin _ current expected
    (iterated ▸ extended) ?_⟩
  show Region.slice (later.receiver.device.clients .vserial).buffer 0 _ = _
  rw [stored, Client.commitData_buffer]
  exact Region.slice_store_extend contents filling.stream.symm

omit handling

theorem Phase.iterate_filling
    (room : ∀ frame, state.Completes frame → Room build state.rxRing frame)
    (stepped : state.reception.step build.toBuild (.act .iterate) =
      some later) :
    (state.follow build later).Lossless ∧
      Phase build (state.follow build later) := by
  obtain ⟨handling, iterated⟩ := filling_iterates filling stepped
  have granted := filling.granted_of_room (by decide)
    (Nat.zero_lt_of_lt filling.incomplete) expected.room
  have missing := filling.payloadMissing
  have body : state.device.workStep build.toBuild frame.header.type =
      state.device.clientStep build.toBuild .vserial frame.header.type :=
    Device.workStep_of_client (by rw [expected.type]; exact callbacks build)
  by_cases empty : state.device.rxFifo = []
  · rw [Device.clientStep_of_granted_empty filling.healthy empty granted]
      at body
    rw [Receiver.iterate_of_stop missing body] at iterated
    exact iterate_empty current expected filling contents lossless iterated
  · rw [filling.clientStep_eq granted empty] at body
    by_cases complete : read + state.device.rxFifo.length ≥
        frame.payload.length
    · rw [if_pos complete] at body
      rw [Receiver.iterate_of_next missing body] at iterated
      exact iterate_last current expected filling contents handling lossless
        room (Nat.le_antisymm filling.readable_le complete) iterated
    · rw [if_neg complete] at body
      rw [Receiver.iterate_of_next missing body] at iterated
      exact iterate_more current expected filling contents handling lossless
        (Nat.lt_of_not_le complete) iterated

end Iteration

theorem Phase.step_delivered {label : Reception.Label}
    (type : frame.header.type = .vserial)
    (delivered : Reception.Delivered build.toBuild .vserial frame origin
      state.reception)
    (stepped : state.reception.step build.toBuild label = some later) :
    state.follow build later = { state with reception := later } ∧
      Phase build { state with reception := later } := by
  have own : serialMuxGetCallbacks build.toBuild frame.header.type =
      some .vserial := by
    rw [type]
    exact callbacks build
  have still := delivered.step own stepped
  have answered := still.unanswered.same.trans delivered.unanswered.same.symm
  have called : completions later.receiver.device.trace =
      completions state.device.trace := by
    rcases Reception.step_cases stepped with
      ⟨count, rfl⟩ | ⟨-, rfl⟩ | ⟨-, pending, -⟩ | ⟨frameType, handling, rfl⟩
    · rfl
    · exact Device.uartIrqCallback_completions state.device
    · rw [delivered.notQueued] at pending
      cases pending
    · rcases delivered.position with idle | ⟨current, missing, base, granted⟩
      · rw [idle] at handling
        cases handling
      · obtain rfl : frame.header.type = frameType :=
          Option.some.inj (current.symm.trans handling)
        have body : state.device.workStep build.toBuild frame.header.type =
            .stop state.device := by
          rw [Device.workStep_of_client own]
          exact Device.clientStep_of_granted_empty delivered.healthy
            delivered.empty granted
        exact congrArg (fun receiver => completions receiver.device.trace)
          (Receiver.iterate_of_stop missing body)
  exact ⟨follow_of_same called answered,
    .delivered frame origin type still⟩

theorem Phase.receive {label : Reception.Label} (phase : Phase build state)
    (roomy : Roomy build state (.receive label)) (lossless : state.Lossless)
    (stepped : state.reception.step build.toBuild label = some later) :
    (state.follow build later).Lossless ∧
      Phase build (state.follow build later) := by
  cases phase with
  | parsing frame origin current expected parsing unanswered =>
      obtain ⟨same, next⟩ :=
        step_parsing current expected parsing unanswered stepped
      rw [same]
      exact ⟨lossless, next⟩
  | delivered frame origin type delivered =>
      obtain ⟨same, next⟩ := step_delivered type delivered stepped
      rw [same]
      exact ⟨lossless, next⟩
  | filling frame origin read current expected filling contents =>
      by_cases iterates : label = .act .iterate
      · subst iterates
        exact iterate_filling current expected filling contents lossless roomy
          stepped
      · obtain ⟨same, next⟩ :=
          step_filling current expected filling contents iterates stepped
        rw [same]
        exact ⟨lossless, next⟩

theorem Phase.healthy (phase : Phase build state) :
    state.device.rxError = false := by
  cases phase with
  | parsing _ _ _ _ parsing _ => exact parsing.healthy
  | filling _ _ _ _ _ filling _ => exact filling.healthy
  | delivered _ _ _ delivered => exact delivered.healthy

theorem Phase.unharmed (phase : Phase build state) :
    state.device.stray = false := by
  cases phase with
  | parsing _ _ _ _ _ unanswered => exact unanswered.unharmed
  | filling _ _ _ _ _ filling _ => exact filling.unanswered.unharmed
  | delivered _ _ _ delivered => exact delivered.unanswered.unharmed

/-- The ring buffer is drained without regard to the receiver. -/
theorem Phase.of_reception {other : VirtualSerial} (phase : Phase build state)
    (reception : other.reception = state.reception)
    (same : other.frame = state.frame) : Phase build other := by
  cases phase with
  | parsing frame origin current expected parsing unanswered =>
      rw [← same] at current
      rw [← reception] at parsing unanswered
      exact .parsing frame origin current expected parsing unanswered
  | filling frame origin read current expected filling contents =>
      rw [← same] at current
      rw [device, ← reception] at contents
      rw [← reception] at filling
      exact .filling frame origin read current expected filling contents
  | delivered frame origin type delivered =>
      rw [← reception] at delivered
      exact .delivered frame origin type delivered

theorem pollIn_lossless : state.pollIn.2.Lossless ↔ state.Lossless := by
  unfold pollIn Lossless
  split <;> simp_all

/-- A frame is sent to a receiver that has nothing to do. -/
theorem Phase.send (phase : Phase build state)
    (roomy : Roomy build state (.send frame))
    (type : frame.header.type = .vserial)
    (sequence : frame.header.sequenceNumber.val =
      state.device.rxSequenceNumber) :
    Phase build
      { state with
        reception := { state.reception with incoming := frame.encode }
        frame := some frame } := by
  obtain ⟨idle, quiet, fits⟩ := roomy
  have awaited : ({ state.reception with incoming := frame.encode } :
      Reception) = Reception.awaiting state.device frame := by
    unfold Reception.awaiting
    rw [← idle]
  refine .parsing frame state.device rfl
    { type, sequence, fits, atType := quiet.atType } ?_ ?_
  · rw [awaited]
    exact Reception.parsing_awaiting frame quiet phase.healthy
  · exact ⟨rfl, phase.unharmed⟩

theorem roomy_step {label : Label} {next : VirtualSerial}
    (kept : state.Lossless ∧ Phase build state)
    (roomy : Roomy build state label)
    (stepped : step build state label = some next) :
    next.Lossless ∧ Phase build next := by
  obtain ⟨lossless, phase⟩ := kept
  cases label with
  | send frame =>
      rw [step] at stepped
      split at stepped
      · rename_i enabled
        obtain ⟨-, type, sequence⟩ := enabled
        cases stepped
        exact ⟨lossless, phase.send roomy type sequence⟩
      · cases stepped
  | receive label =>
      rw [step] at stepped
      split at stepped
      · rename_i later received
        cases stepped
        exact phase.receive roomy lossless received
      · cases stepped
  | pollIn =>
      cases stepped
      refine ⟨pollIn_lossless.mpr lossless, phase.of_reception ?_ ?_⟩
      · unfold pollIn
        split <;> rfl
      · unfold pollIn
        split <;> rfl

end Steps

theorem phase_start (build : VserialBuild) : Phase build start := by
  -- Nothing has been sent, as if a frame had been delivered.
  let frame : Frame :=
    { header :=
        { type := .vserial, noAck := true, host := true, error := .noError
          reserved := 0, sequenceNumber := 0, length := 0 }
      payload := []
      length_eq := rfl }
  apply Phase.delivered frame Device.boot rfl
  exact
    { atType := rfl
      empty := rfl
      exhausted := rfl
      healthy := rfl
      notQueued := rfl
      unanswered := ⟨rfl, rfl⟩
      position := .inl rfl }

/-- Acknowledged data is not lost in a run in which the ring buffer has room
for every frame when it is complete. -/
theorem lossless_of_roomy (build : VserialBuild) {labels : List Label}
    {final : VirtualSerial}
    (run : Run.GuardedRun (step build) (Roomy build) start labels final) :
    final.Lossless :=
  (run.preserves (fun _ _ _ kept roomy stepped =>
    roomy_step kept roomy stepped) ⟨rfl, phase_start build⟩).1

section Examples

instance (build : VserialBuild) (ring : List UInt8) (frame : Frame) :
    Decidable (Room build ring frame) :=
  if noAck : frame.header.noAck = true then
    decidable_of_iff
      (build.vserialRxBufSize ≤ ring.length ∨
        build.vserialRxBufSize < frame.payload.length)
      (by rw [Room, if_pos noAck])
  else
    decidable_of_iff
      (ring.length + frame.payload.length ≤ build.vserialRxBufSize)
      (by rw [Room, if_neg noAck])

instance (device : Device) : Decidable device.Quiet :=
  decidable_of_iff
    (device.parsingState = .type ∧ device.rxFifo = [] ∧
      device.workPending = false)
    ⟨fun ⟨atType, empty, notQueued⟩ => ⟨atType, empty, notQueued⟩,
      fun quiet => ⟨quiet.atType, quiet.empty, quiet.notQueued⟩⟩

instance (build : VserialBuild) (state : VirtualSerial) :
    (label : Label) → Decidable (Roomy build state label)
  | .send _ => inferInstanceAs (Decidable (_ ∧ _ ∧ _))
  | .receive (.act .iterate) =>
      decidable_of_iff
        (∀ frame ∈ state.frame, state.device.parsingState = .data →
          frame.payload.length ≤
            state.device.bytesRead + state.device.rxFifo.length →
          Room build state.rxRing frame)
        ⟨fun room frame ⟨current, inData, last⟩ =>
            room frame current inData last,
          fun room frame current inData last =>
            room frame ⟨current, inData, last⟩⟩
  | .receive (.act .callback) => .isTrue trivial
  | .receive (.act .begin) => .isTrue trivial
  | .receive (.arrive _) => .isTrue trivial
  | .pollIn => .isTrue trivial

/-- The smallest receive buffer. -/
def narrow : VserialBuild where
  toBuild := Build.full
  vserialRegistered := rfl
  vserialRxBufSize := 64
  vserialRxBufSize_ge := Nat.le_refl 64
  vserialRxBufSize_le := by decide

/-- A frame is sent and arrives in one piece. -/
def transfer (frame : Frame) : List Label :=
  [.send frame, .receive (.arrive frame.encode.length),
    .receive (.act .callback), .receive (.act .begin),
    .receive (.act .iterate), .receive (.act .iterate)]

def greeting : Frame := .ofPayload .vserial 0 [104, 105] (by decide)

theorem greeting_lossless :
    ∃ final, Run.exec (step narrow) start (transfer greeting ++ [.pollIn]) =
        some final ∧
      final.polled = [104] ∧ final.acknowledged = [[104, 105]] ∧
      final.Lossless := by
  have ran : (Run.execGuarded (step narrow) (Roomy narrow) start
      (transfer greeting ++ [.pollIn])).map
        (fun final => (final.polled, final.acknowledged)) =
      some ([104], [[104, 105]]) := by
    decide
  obtain ⟨final, executed, observed⟩ := Option.map_eq_some_iff.mp ran
  have run := Run.guardedRun_of_execGuarded executed
  simp only [Prod.mk.injEq] at observed
  exact ⟨final, run.exec_eq, observed.1, observed.2,
    lossless_of_roomy narrow run⟩

/-- A payload that the transmit buffer takes and the receive buffer does
not. -/
def longLine : Frame :=
  .ofPayload .vserial 0 (List.replicate 65 0)
    (by rw [List.length_replicate]; decide)

/-- It is acknowledged and dropped. -/
theorem longLine_lost :
    ∃ final, Run.exec (step narrow) start (transfer longLine) = some final ∧
      final.acknowledged = [longLine.payload] ∧ final.polled = [] ∧
      final.rxRing = [] ∧ ¬final.Lossless := by
  have ran : (Run.exec (step narrow) start (transfer longLine)).map
      (fun final => (final.acknowledged, final.polled, final.rxRing)) =
      some ([longLine.payload], [], []) := by
    decide +kernel
  obtain ⟨final, executed, observed⟩ := Option.map_eq_some_iff.mp ran
  simp only [Prod.mk.injEq] at observed
  obtain ⟨acknowledged, polled, ring⟩ := observed
  refine ⟨final, executed, acknowledged, polled, ring, ?_⟩
  unfold Lossless
  rw [acknowledged, polled, ring]
  decide

end Examples

end VirtualSerial

end SerialLink
