import SerialLink.Device.Answer
import SerialLink.Device.Refusal

/-!
# Frames that ask for no answer

A frame with `no_ack` set should not be answered, whatever becomes of it.  The
flag is looked at for the acknowledgement of a delivered frame only: the
callback and the handler answer a refused frame in any case, and the loop of
the handler, entered once more behind a delivered one, may refuse its stale
header.

The bytes of the frame become readable in any pieces, between any two steps of
the receiver.
-/

namespace SerialLink

/-- What the buffer of a client has to hold for a payload of this length to be
taken in any pieces.  A client that counts has seen all but the last byte when
the whole length is counted; a management client is then asked for as much
again. -/
def Client.demand (client : Client) (state : ClientState) (length : Nat) :
    Nat :=
  client.occupied state + length +
    (if client.keepsLength then length - 1 else 0) +
    if client.isMgmt then length else 0

namespace Reception

/-- Nothing has been answered since `origin`, and nothing stored outside the
clients' buffers, behind which the program does anything. -/
structure Unanswered (origin : Device) (reception : Reception) : Prop where
  same : answers reception.receiver.device.trace = answers origin.trace
  unharmed : reception.receiver.device.stray = false

/-- No run answers anything. -/
def Silent (build : Build) (start : Reception) : Prop :=
  ∀ labels final, Run.exec (step build) start labels = some final →
    Unanswered start.receiver.device final

/-- The receiver between two frames; the bytes of `frame` are still to
arrive. -/
def awaiting (device : Device) (frame : Frame) : Reception where
  receiver := { device, handling := none }
  incoming := frame.encode

/-- `read` bytes of the payload have been taken, and the frame is not
complete. -/
structure Midway (frame : Frame) (origin : Device) (read : Nat)
    (reception : Reception) : Prop where
  header : reception.receiver.device.serialHeader = frame.header
  inData : reception.receiver.device.parsingState = .data
  bytesRead : reception.receiver.device.bytesRead = read
  incomplete : read < frame.payload.length
  stream : reception.receiver.device.rxFifo ++ reception.incoming =
    frame.payload.drop read
  healthy : reception.receiver.device.rxError = false
  sequence : reception.receiver.device.rxSequenceNumber =
    origin.rxSequenceNumber
  unanswered : Unanswered origin reception
  position : reception.receiver.handling = none ∨
    reception.receiver.handling = some frame.header.type ∧
      reception.receiver.device.workPending = false

/-- The bytes went to a client, which may have counted them. -/
structure Filling (client : Client) (frame : Frame) (origin : Device)
    (read : Nat) (reception : Reception) : Prop
    extends Midway frame origin read reception where
  occupied : reception.receiver.device.occupied client =
    origin.occupied client + if client.keepsLength then read else 0

/-- The frame has been delivered; the handler may still be in its loop, where
it finds the stale header. -/
structure Delivered (build : Build) (client : Client) (frame : Frame)
    (origin : Device) (reception : Reception) : Prop where
  atType : reception.receiver.device.parsingState = .type
  empty : reception.receiver.device.rxFifo = []
  exhausted : reception.incoming = []
  healthy : reception.receiver.device.rxError = false
  notQueued : reception.receiver.device.workPending = false
  unanswered : Unanswered origin reception
  position : reception.receiver.handling = none ∨
    reception.receiver.handling = some frame.header.type ∧
      reception.receiver.device.payloadMissing = true ∧
      ∃ base, client.acquireBuffer build
        (reception.receiver.device.clients client)
        (reception.receiver.device.serialHeader.length.val -
          reception.receiver.device.bytesRead) = .granted base

variable {build : Build} {client : Client} {frame : Frame} {origin : Device}
  {read : Nat} {reception later : Reception} {label : Label}

/-- The device once what is readable has completed the payload. -/
def pieceCompleted (build : Build) (client : Client) (frame : Frame)
    (device : Device) : Device :=
  ((device.loaded build client (some (device.occupied client)) device.rxFifo
    []).completeFrame build client frame.header.type).resetParser

/-- The handler of a frame with a payload starts inside its loop. -/
theorem begin_of_positive (build : Build) {device : Device}
    (positive : 0 < device.serialHeader.length.val) :
    Receiver.begin build device =
      { device, handling := some device.serialHeader.type } := by
  rw [Receiver.begin, if_neg]
  rintro ⟨-, zero⟩
  omega

/-- A frame that is delivered and asks for no answer. -/
theorem completeFrame_answers_noAck (build : Build) (client : Client)
    (frameType : SerialType) (device : Device)
    (expected : device.rxSequenceNumber =
      device.serialHeader.sequenceNumber.val)
    (noAck : device.serialHeader.noAck = true) :
    answers (device.completeFrame build client frameType).trace =
      answers device.trace := by
  simp [Device.completeFrame, expected, noAck, Device.messageComplete,
    Device.setClient, Device.log, Device.commitData]

theorem completeFrame_answers_unexpected (build : Build) (client : Client)
    (frameType : SerialType) (device : Device)
    (unexpected : device.rxSequenceNumber ≠
      device.serialHeader.sequenceNumber.val) :
    answers (device.completeFrame build client frameType).trace =
      answers device.trace ++
        [Device.ackHeader frameType device.rxSequenceNumber
          .incorrectSequenceNumber] := by
  simp [Device.completeFrame, unexpected, Device.sendAck, Device.log]

section Parsing

theorem drainHeader_stray (bytes : List UInt8) (device : Device) :
    (Device.drainHeader bytes device).stray = device.stray := by
  apply Device.drainHeader_preserves
    (fun later => later.stray = device.stray)
  · intro later byte same
    rw [← same]
    unfold Device.parseHeaderByte
    dsimp only
    split <;> try rfl
    split
    · split <;> rfl
    · split <;> rfl
  · intro later fifo same
    exact same
  · rfl

theorem uartIrqCallback_stray (device : Device) :
    device.uartIrqCallback.stray = device.stray := by
  have drained := drainHeader_stray device.rxFifo device
  unfold Device.uartIrqCallback
  dsimp only
  split
  · split <;> rfl
  · split <;> exact drained

/-- A header that is not answered: nothing has been answered while it is
read. -/
theorem Parsing.unanswered_callback
    (parsing : Parsing frame origin [] reception)
    (unanswered : Unanswered origin reception)
    (silent : answers (Device.drainHeader (frame.encode ++ []) origin).trace =
      answers origin.trace) :
    Unanswered origin
      { reception with
        receiver :=
          { reception.receiver with
            device := reception.receiver.device.uartIrqCallback } } := by
  have future := congrArg Device.trace parsing.callback.future
  have grown : answers reception.receiver.device.trace <+:
      answers reception.receiver.device.uartIrqCallback.trace :=
    answers_of_trace
      (Device.uartIrqCallback_records reception.receiver.device).trace_kept
  have drained : answers reception.receiver.device.uartIrqCallback.trace <+:
      answers (Device.drainHeader (frame.encode ++ []) origin).trace := by
    rw [← show _ = (Device.drainHeader (frame.encode ++ []) origin).trace
      from future]
    exact answers_of_trace (Device.drainHeader_records _ _).trace_kept
  rw [silent] at drained
  rw [unanswered.same] at grown
  refine ⟨drained.eq_of_length ?_, ?_⟩
  · exact Nat.le_antisymm drained.length_le grown.length_le
  · exact (uartIrqCallback_stray _).trans unanswered.unharmed

/-- A header that announces a payload is not answered. -/
theorem answers_of_announced (atType : origin.parsingState = .type)
    (positive : 0 < frame.payload.length)
    (bounded : frame.payload.length ≤ serialMaxPayloadLen) :
    answers (Device.drainHeader (frame.encode ++ []) origin).trace =
      answers origin.trace := by
  rw [drainHeader_of_announced atType positive bounded]
  simp [Device.payloadExpected, Device.log]

theorem Unanswered.arrive (unanswered : Unanswered origin reception)
    (count : Nat) :
    Unanswered origin
      { receiver := { reception.receiver with device := reception.arrived count }
        incoming := reception.incoming.drop count } :=
  ⟨unanswered.same, unanswered.unharmed⟩

/-- The handler starts on a frame of which nothing has been read. -/
theorem Filling.of_parsing (build : Build) (client : Client)
    (atType : origin.parsingState = .type)
    (positive : 0 < frame.payload.length)
    (bounded : frame.payload.length ≤ serialMaxPayloadLen)
    (parsing : Parsing frame origin [] reception)
    (unanswered : Unanswered origin reception)
    (pending : reception.receiver.device.workPending = true) :
    Filling client frame origin 0
      { reception with
        receiver :=
          Receiver.begin build reception.receiver.device.takeWork } := by
  have device := parsing.queued_eq pending
  rw [drainHeader_of_announced atType positive bounded] at device
  have header : reception.receiver.device.takeWork.serialHeader =
      frame.header :=
    congrArg Device.serialHeader device
  have length :
      0 < reception.receiver.device.takeWork.serialHeader.length.val := by
    rw [header, frame.length_eq]
    exact positive
  have clients := congrArg Device.clients device
  have sequence := congrArg Device.rxSequenceNumber device
  rw [begin_of_positive build length, header]
  exact
    { header
      inData := congrArg Device.parsingState device
      bytesRead := congrArg Device.bytesRead device
      incomplete := positive
      stream := by
        have fifo := congrArg Device.rxFifo device
        simpa [Device.takeWork, Device.payloadExpected] using fifo
      healthy := parsing.healthy
      sequence
      unanswered := ⟨unanswered.same, unanswered.unharmed⟩
      position := .inr ⟨rfl, rfl⟩
      occupied := by
        have same : reception.receiver.device.takeWork.clients client =
            origin.clients client := congrFun clients client
        simp [Device.occupied, same] }

end Parsing

namespace Midway

variable (midway : Midway frame origin read reception)

include midway

theorem arrive (count : Nat) :
    Midway frame origin read
      { receiver := { reception.receiver with device := reception.arrived count }
        incoming := reception.incoming.drop count } :=
  { midway with
    stream := by
      rw [← midway.stream]
      simp [arrived, Device.arrive, List.append_assoc]
    unanswered := midway.unanswered.arrive count }

theorem missing :
    reception.receiver.device.serialHeader.length.val -
      reception.receiver.device.bytesRead = frame.payload.length - read := by
  rw [midway.header, midway.bytesRead, frame.length_eq]

theorem payloadMissing : reception.receiver.device.payloadMissing = true := by
  have incomplete := midway.incomplete
  simpa [Device.payloadMissing, midway.header, midway.bytesRead,
    frame.length_eq] using incomplete

/-- What is readable belongs to the payload. -/
theorem readable_le :
    read + reception.receiver.device.rxFifo.length ≤
      frame.payload.length := by
  have lengths := congrArg List.length midway.stream
  have incomplete := midway.incomplete
  simp only [List.length_append, List.length_drop] at lengths
  omega

theorem incoming_eq : reception.incoming = frame.payload.drop
    (read + reception.receiver.device.rxFifo.length) := by
  rw [← List.drop_drop, ← midway.stream, List.drop_left]

theorem waiting
    (handling : reception.receiver.handling = some frame.header.type) :
    reception.receiver.device.workPending = false := by
  rcases midway.position with idle | ⟨-, taken⟩
  · rw [idle] at handling
    cases handling
  · exact taken

/-- Bytes that are stored inside the client's buffer do no harm. -/
theorem placed {offset : Nat}
    (within : offset + read + reception.receiver.device.rxFifo.length ≤
      client.capacity build) :
    (reception.receiver.device.loaded build client (some offset)
      reception.receiver.device.rxFifo []).stray = false := by
  rw [Device.loaded_stray, midway.unanswered.unharmed, midway.bytesRead]
  simpa using within

/-- A granted read takes what is readable. -/
theorem clientStep_eq {base : Option Nat}
    (granted : client.acquireBuffer build
      (reception.receiver.device.clients client)
      (reception.receiver.device.serialHeader.length.val -
        reception.receiver.device.bytesRead) = .granted base)
    (nonempty : reception.receiver.device.rxFifo ≠ []) :
    reception.receiver.device.clientStep build client frame.header.type =
      if read + reception.receiver.device.rxFifo.length ≥
          frame.payload.length then
        .next ((reception.receiver.device.loaded build client base
          reception.receiver.device.rxFifo []).completeFrame build client
            frame.header.type).resetParser
      else
        .next ((reception.receiver.device.loaded build client base
          reception.receiver.device.rxFifo []).commitData client
            reception.receiver.device.rxFifo.length) := by
  have within := midway.readable_le
  have stepped := Device.clientStep_of_granted frame.header.type base
    reception.receiver.device.rxFifo [] midway.healthy granted
    (List.take_of_length_le (by rw [midway.missing]; omega))
    (List.drop_of_length_le (by rw [midway.missing]; omega)) nonempty
  rwa [midway.bytesRead, midway.header, frame.length_eq] at stepped

end Midway

namespace Filling

variable (filling : Filling client frame origin read reception)

include filling

theorem arrive (count : Nat) :
    Filling client frame origin read
      { receiver := { reception.receiver with device := reception.arrived count }
        incoming := reception.incoming.drop count } :=
  { filling.toMidway.arrive count with occupied := filling.occupied }

theorem callback (idle : reception.receiver.handling = none) :
    Filling client frame origin read
      { reception with
        receiver :=
          { reception.receiver with
            device := reception.receiver.device.uartIrqCallback } } := by
  rw [Device.uartIrqCallback_of_data filling.inData]
  exact
    { filling with
      unanswered := ⟨filling.unanswered.same, filling.unanswered.unharmed⟩
      position := .inl idle }

theorem begin (build : Build) :
    Filling client frame origin read
      { reception with
        receiver :=
          Receiver.begin build reception.receiver.device.takeWork } := by
  have header : reception.receiver.device.takeWork.serialHeader =
      frame.header := filling.header
  have length :
      0 < reception.receiver.device.takeWork.serialHeader.length.val := by
    rw [header, frame.length_eq]
    exact Nat.zero_lt_of_lt filling.incomplete
  rw [begin_of_positive build length, header]
  exact
    { filling with
      unanswered := ⟨filling.unanswered.same, filling.unanswered.unharmed⟩
      position := .inr ⟨rfl, rfl⟩ }

/-- A piece that does not complete the payload. -/
theorem extend
    (placed : reception.receiver.device.occupied client + read +
      reception.receiver.device.rxFifo.length ≤ client.capacity build)
    (more : read + reception.receiver.device.rxFifo.length <
      frame.payload.length)
    (handling : reception.receiver.handling = some frame.header.type) :
    Filling client frame origin
      (read + reception.receiver.device.rxFifo.length)
      { reception with
        receiver :=
          { device := (reception.receiver.device.loaded build client
              (some (reception.receiver.device.occupied client))
              reception.receiver.device.rxFifo []).commitData client
                reception.receiver.device.rxFifo.length
            handling := some frame.header.type } } := by
  have bounded := client.capacity_lt build
  have counted := filling.occupied
  constructor
  case occupied =>
    simp only [Device.occupied, Client.occupied, Device.commitData_clients,
      Device.loaded_clients, Client.commitData] at counted placed ⊢
    split
    · rename_i keeps
      simp only [keeps, if_true] at counted placed ⊢
      rw [sizeAdd_eq (by omega)]
      omega
    · simp
  case toMidway =>
    constructor
    case header => exact filling.header
    case inData => exact filling.inData
    case bytesRead => exact congrArg (· + _) filling.bytesRead
    case incomplete => exact more
    case stream => exact filling.incoming_eq
    case healthy => exact filling.healthy
    case sequence => exact filling.sequence
    case unanswered => exact ⟨filling.unanswered.same, filling.placed placed⟩
    case position => exact .inr ⟨rfl, filling.waiting handling⟩

/-- What the client holds once the whole frame has been reported to it. -/
theorem occupied_complete (designates : client ≠ .wifiData)
    (placed : reception.receiver.device.occupied client + read +
      reception.receiver.device.rxFifo.length ≤ client.capacity build)
    (expected : frame.header.sequenceNumber.val = origin.rxSequenceNumber) :
    (pieceCompleted build client frame reception.receiver.device).occupied
        client =
      if client.isMgmt then
        reception.receiver.device.occupied client + frame.payload.length
      else 0 := by
  have bounded := client.capacity_le build
  have short := frame.payload_length_le
  rw [Device.occupied, pieceCompleted, Device.resetParser_clients,
    Device.completeFrame_clients build client frame.header.type _
      (by simp [filling.sequence, filling.header, expected]),
    Device.loaded_serialHeader, filling.header, frame.length_eq,
    Client.occupied_messageComplete designates]
  · simp [Device.occupied, Client.occupied]
  · by_cases mgmt : client.isMgmt = true
    · left
      have keeps : client.keepsLength = true := by
        cases client <;> simp_all [Client.isMgmt, Client.keepsLength]
      simp only [Device.occupied, Client.occupied, keeps, if_true] at placed
      simp only [Device.loaded_clients]
      unfold serialMaxPayloadLen at bounded
      unfold sizeModulus
      omega
    · exact .inr (by simpa using mgmt)

/-- The piece that completes the payload. -/
theorem completes (designates : client ≠ .wifiData)
    (placed : reception.receiver.device.occupied client + read +
      reception.receiver.device.rxFifo.length ≤ client.capacity build)
    (last : read + reception.receiver.device.rxFifo.length =
      frame.payload.length)
    (handling : reception.receiver.handling = some frame.header.type)
    (expected : frame.header.sequenceNumber.val = origin.rxSequenceNumber)
    (room : (if client.isMgmt then
        reception.receiver.device.occupied client + frame.payload.length
      else 0) + frame.payload.length ≤ client.capacity build) :
    Delivered build client frame
      (pieceCompleted build client frame reception.receiver.device)
      { reception with
        receiver :=
          { device := pieceCompleted build client frame
              reception.receiver.device
            handling := some frame.header.type } } := by
  have held := filling.occupied_complete designates placed expected
  constructor
  case atType => rfl
  case empty => simp [pieceCompleted]
  case exhausted =>
    show reception.incoming = []
    rw [filling.incoming_eq, last, List.drop_length]
  case healthy => simpa [pieceCompleted] using filling.healthy
  case notQueued => simpa [pieceCompleted] using filling.waiting handling
  case unanswered =>
    exact ⟨rfl, by simpa [pieceCompleted] using filling.placed placed⟩
  case position =>
    refine .inr ⟨rfl, ?_, _, Client.acquireBuffer_fits designates ?_⟩
    · have positive := Nat.zero_lt_of_lt filling.incomplete
      simpa [pieceCompleted, Device.payloadMissing, filling.header,
        frame.length_eq] using positive
    · rw [← held] at room
      simpa [pieceCompleted, Device.occupied, filling.header,
        frame.length_eq] using room

/-- A frame that asks for no answer gets none. -/
theorem deliver (designates : client ≠ .wifiData)
    (placed : reception.receiver.device.occupied client + read +
      reception.receiver.device.rxFifo.length ≤ client.capacity build)
    (last : read + reception.receiver.device.rxFifo.length =
      frame.payload.length)
    (handling : reception.receiver.handling = some frame.header.type)
    (expected : frame.header.sequenceNumber.val = origin.rxSequenceNumber)
    (noAck : frame.header.noAck = true)
    (room : (if client.isMgmt then
        reception.receiver.device.occupied client + frame.payload.length
      else 0) + frame.payload.length ≤ client.capacity build) :
    Delivered build client frame origin
      { reception with
        receiver :=
          { device := pieceCompleted build client frame
              reception.receiver.device
            handling := some frame.header.type } } := by
  have completed := filling.completes designates placed last handling expected
    room
  refine { completed with unanswered := ⟨?_, completed.unanswered.unharmed⟩ }
  rw [← filling.unanswered.same]
  have same := completeFrame_answers_noAck build client frame.header.type
    (reception.receiver.device.loaded build client
      (some (reception.receiver.device.occupied client))
      reception.receiver.device.rxFifo [])
    (by simp [filling.sequence, filling.header, expected])
    (by simp [filling.header, noAck])
  simpa [pieceCompleted] using same

end Filling

/-- A frame without a payload, or one that is delivered in any pieces. -/
def Unremarked (build : Build) (frame : Frame) (device : Device) : Prop :=
  frame.payload = [] ∨
    ∃ client, serialMuxGetCallbacks build frame.header.type = some client ∧
      client ≠ .wifiData ∧
      frame.header.sequenceNumber.val = device.rxSequenceNumber ∧
      client.demand (device.clients client) frame.payload.length ≤
        client.capacity build

/-- The receiver works on a frame that it delivers without an answer. -/
inductive Phase (build : Build) (client : Client) (frame : Frame)
    (origin : Device) (reception : Reception) : Prop where
  | parsing (parsing : Parsing frame origin [] reception)
      (unanswered : Unanswered origin reception)
  | filling (read : Nat)
      (filling : Filling client frame origin read reception)
  | delivered (delivered : Delivered build client frame origin reception)

section Delivery

variable
  (callbacks : serialMuxGetCallbacks build frame.header.type = some client)
  (designates : client ≠ .wifiData)
  (expected : frame.header.sequenceNumber.val = origin.rxSequenceNumber)
  (noAck : frame.header.noAck = true)
  (positive : 0 < frame.payload.length)
  (room : client.demand (origin.clients client) frame.payload.length ≤
    client.capacity build)

include callbacks designates expected noAck positive room

omit callbacks designates expected noAck in
/-- The demand of a frame covers a piece at any place in it. -/
theorem Filling.fits (filling : Filling client frame origin read reception) :
    reception.receiver.device.occupied client +
        (frame.payload.length - read) ≤ client.capacity build ∧
      reception.receiver.device.occupied client + read +
        reception.receiver.device.rxFifo.length ≤ client.capacity build ∧
      (if client.isMgmt then
          reception.receiver.device.occupied client + frame.payload.length
        else 0) + frame.payload.length ≤ client.capacity build := by
  have within := filling.readable_le
  have incomplete := filling.incomplete
  rw [filling.occupied, Device.occupied]
  unfold Client.demand at room
  refine ⟨?_, ?_, ?_⟩
  · split at room <;> rename_i keeps <;> simp only [keeps] <;> simp <;> omega
  · split at room <;> rename_i keeps <;> simp only [keeps] <;> simp <;> omega
  · cases client <;>
      simp [Client.isMgmt, Client.keepsLength, Client.occupied] at room ⊢ <;>
      omega

omit callbacks expected noAck in
/-- The client has a place for a piece. -/
theorem Filling.granted_of_room
    (filling : Filling client frame origin read reception) :
    client.acquireBuffer build (reception.receiver.device.clients client)
        (reception.receiver.device.serialHeader.length.val -
          reception.receiver.device.bytesRead) =
      .granted (some (reception.receiver.device.occupied client)) := by
  apply Client.acquireBuffer_fits designates
  rw [filling.missing]
  exact (filling.fits positive room).1

theorem Filling.iterate (filling : Filling client frame origin read reception)
    (handling : reception.receiver.handling = some frame.header.type) :
    Phase build client frame origin
      { reception with
        receiver := Receiver.iterate build frame.header.type
          reception.receiver.device } := by
  obtain ⟨-, placed, again⟩ := filling.fits positive room
  have granted := filling.granted_of_room designates positive room
  rw [Receiver.iterate, if_pos filling.payloadMissing,
    Device.workStep_of_client callbacks]
  by_cases empty : reception.receiver.device.rxFifo = []
  · rw [Device.clientStep_of_granted_empty filling.healthy empty granted]
    exact .filling read
      { filling with
        unanswered := ⟨filling.unanswered.same, filling.unanswered.unharmed⟩
        position := .inl rfl }
  · rw [filling.clientStep_eq granted empty]
    by_cases complete : read + reception.receiver.device.rxFifo.length ≥
        frame.payload.length
    · rw [if_pos complete]
      exact .delivered (filling.deliver designates placed
        (Nat.le_antisymm filling.readable_le complete) handling expected noAck
        again)
    · rw [if_neg complete]
      exact .filling _
        (filling.extend placed (Nat.lt_of_not_le complete) handling)

omit designates expected noAck positive room in
/-- Behind a delivered frame there is nothing to read. -/
theorem Delivered.step
    (delivered : Delivered build client frame origin reception)
    (stepped : step build reception label = some later) :
    Delivered build client frame origin later := by
  rcases step_cases stepped with
    ⟨count, rfl⟩ | ⟨idle, rfl⟩ | ⟨-, pending, -⟩ | ⟨frameType, handling, rfl⟩
  · refine { delivered with
      empty := ?_
      exhausted := ?_
      unanswered := delivered.unanswered.arrive count }
    · simp [arrived, Device.arrive, delivered.empty, delivered.exhausted]
    · simp [delivered.exhausted]
  · rw [Device.uartIrqCallback_of_empty delivered.empty
      (by simp [delivered.atType])]
    exact delivered
  · rw [delivered.notQueued] at pending
    cases pending
  · rcases delivered.position with
      idle | ⟨current, missing, base, granted⟩
    · rw [idle] at handling
      cases handling
    · obtain rfl : frame.header.type = frameType :=
        Option.some.inj (current.symm.trans handling)
      rw [Receiver.iterate, if_pos missing,
        Device.workStep_of_client callbacks,
        Device.clientStep_of_granted_empty delivered.healthy delivered.empty
          granted]
      exact { delivered with
        unanswered :=
          ⟨delivered.unanswered.same, delivered.unanswered.unharmed⟩
        position := .inl rfl }

theorem Phase.step (atType : origin.parsingState = .type)
    (bounded : frame.payload.length ≤ serialMaxPayloadLen)
    (phase : Phase build client frame origin reception)
    (stepped : step build reception label = some later) :
    Phase build client frame origin later := by
  cases phase with
  | parsing parsing unanswered =>
      rcases step_cases stepped with
        ⟨count, rfl⟩ | ⟨idle, rfl⟩ | ⟨idle, pending, rfl⟩ |
          ⟨frameType, handling, -⟩
      · exact .parsing (parsing.arrive count) (unanswered.arrive count)
      · exact .parsing parsing.callback
          (parsing.unanswered_callback unanswered
            (answers_of_announced atType positive bounded))
      · exact .filling 0 (.of_parsing build client atType positive bounded
          parsing unanswered pending)
      · rw [parsing.idle] at handling
        cases handling
  | filling read filling =>
      rcases step_cases stepped with
        ⟨count, rfl⟩ | ⟨idle, rfl⟩ | ⟨idle, pending, rfl⟩ |
          ⟨frameType, handling, rfl⟩
      · exact .filling read (filling.arrive count)
      · exact .filling read (filling.callback idle)
      · exact .filling read (filling.begin build)
      · rcases filling.position with idle | ⟨current, -⟩
        · rw [idle] at handling
          cases handling
        · obtain rfl : frame.header.type = frameType :=
            Option.some.inj (current.symm.trans handling)
          exact filling.iterate callbacks designates expected noAck positive
            room handling
  | delivered delivered =>
      exact .delivered (delivered.step callbacks stepped)

end Delivery

theorem parsing_awaiting {device : Device} (frame : Frame) (quiet : Device.Quiet device)
    (healthy : device.rxError = false) :
    Parsing frame device [] (awaiting device frame) where
  idle := rfl
  healthy := healthy
  queued := by
    intro pending
    cases quiet.notQueued.symm.trans pending
  future := by
    simp [awaiting, quiet.empty]

section Headers

variable (atType : origin.parsingState = .type)
  (notInfo : frame.header.type ≠ .protocolInfo) (empty : frame.payload = [])

include atType notInfo empty

/-- A frame without a payload is over when its header has been read. -/
theorem drainHeader_of_empty :
    (Device.drainHeader (frame.encode ++ []) origin).parsingState = .type ∧
      answers (Device.drainHeader (frame.encode ++ []) origin).trace =
        answers origin.trace := by
  have zero : frame.header.length.val = 0 := by
    rw [frame.length_eq, empty]
    rfl
  have drained : Device.drainHeader (frame.encode ++ []) origin =
      { origin.headerParsed frame.header with rxFifo := [] } := by
    rw [Frame.encode, empty, List.append_nil, Device.drainHeader_encode _ _ _
      atType, Device.drainHeader]
  rw [drained]
  simp [Device.headerParsed, zero, notInfo, Device.log]

/-- The handler is not queued for it. -/
theorem Parsing.not_pending_of_empty
    (parsing : Parsing frame origin [] reception) :
    reception.receiver.device.workPending ≠ true := by
  intro pending
  have device := congrArg Device.parsingState (parsing.queued_eq pending)
  have atType : reception.receiver.device.parsingState = .type :=
    device.trans (drainHeader_of_empty atType notInfo empty).1
  cases atType.symm.trans (parsing.queued pending)

theorem Parsing.step_empty (parsing : Parsing frame origin [] reception)
    (unanswered : Unanswered origin reception)
    (stepped : step build reception label = some later) :
    Parsing frame origin [] later ∧ Unanswered origin later := by
  rcases step_cases stepped with
    ⟨count, rfl⟩ | ⟨idle, rfl⟩ | ⟨idle, pending, rfl⟩ |
      ⟨frameType, handling, -⟩
  · exact ⟨parsing.arrive count, unanswered.arrive count⟩
  · exact ⟨parsing.callback, parsing.unanswered_callback unanswered
      (drainHeader_of_empty atType notInfo empty).2⟩
  · exact absurd pending (parsing.not_pending_of_empty atType notInfo empty)
  · rw [parsing.idle] at handling
    cases handling

end Headers

section Silence

variable {device : Device} (quiet : Device.Quiet device)
  (healthy : device.rxError = false) (unharmed : device.stray = false)
  (noAck : frame.header.noAck = true)
  (notInfo : frame.header.type ≠ .protocolInfo)

include quiet healthy unharmed noAck notInfo

theorem silent_of_unremarked (unremarked : Unremarked build frame device) :
    Silent build (awaiting device frame) := by
  intro labels final executed
  have parsing : Parsing frame device [] (awaiting device frame) :=
    parsing_awaiting frame quiet healthy
  have unanswered : Unanswered device (awaiting device frame) :=
    ⟨rfl, unharmed⟩
  by_cases empty : frame.payload = []
  · have kept := Run.exec_preserves
      (fun _ _ _ (kept : Parsing frame device [] _ ∧ Unanswered device _)
        stepped => Parsing.step_empty quiet.atType notInfo empty kept.1 kept.2
          stepped)
      executed ⟨parsing, unanswered⟩
    exact kept.2
  · obtain ⟨client, callbacks, designates, expected, room⟩ :=
      unremarked.resolve_left empty
    have positive : 0 < frame.payload.length := List.length_pos_iff.mpr empty
    have bounded : frame.payload.length ≤ serialMaxPayloadLen := by
      have capacity := client.capacity_le build
      unfold Client.demand at room
      omega
    have phase := Run.exec_preserves
      (fun _ _ _ phase stepped => Phase.step callbacks designates expected
        noAck positive room quiet.atType bounded phase stepped)
      executed (.parsing parsing unanswered)
    cases phase with
    | parsing _ unanswered => exact unanswered
    | filling read filling => exact filling.unanswered
    | delivered delivered => exact delivered.unanswered

end Silence

end Reception

end SerialLink
