import SerialLink.Device.Machine
import SerialLink.Device.Payload

/-!
# Where the parser continues after a refused frame

A frame is refused by the callback if it is too long, and by the handler if no
client is registered for it or its client has no room.  In none of these cases
is its payload skipped and the parser left at the byte behind it, whatever the
order in which bytes arrive and the callback and the handler run.
-/

namespace SerialLink

/-- The stream positions of the bytes interpreted as type bytes. -/
def typeBytes (trace : List Event) : List Nat :=
  trace.filterMap fun
    | .typeByte position => some position
    | _ => none

@[simp] theorem typeBytes_append (first second : List Event) :
    typeBytes (first ++ second) = typeBytes first ++ typeBytes second := by
  simp [typeBytes]

@[simp] theorem typeBytes_nil : typeBytes [] = [] := rfl

@[simp] theorem typeBytes_send (header : SerialHeader)
    (payload : List UInt8) (trace : List Event) :
    typeBytes (.send header payload :: trace) = typeBytes trace := rfl

@[simp] theorem typeBytes_typeByte (position : Nat) (trace : List Event) :
    typeBytes (.typeByte position :: trace) = position :: typeBytes trace := rfl

namespace Device

variable {build : Build} {client : Client} {frameType : SerialType}
  {device : Device}

theorem parseHeaderByte_typeBytes (device : Device) (byte : UInt8) :
    typeBytes (device.parseHeaderByte byte).trace =
      typeBytes device.trace ++
        if device.parsingState = .type then [device.consumed] else [] := by
  cases state : device.parsingState with
  | type => simp [parseHeaderByte, state, log]
  | length2 =>
      simp only [parseHeaderByte, state, reduceCtorEq, if_false,
        List.append_nil]
      split
      · split <;> rfl
      · split <;> simp [sendAck, log]
  | sequenceNumber | length1 | data => simp [parseHeaderByte, state]

theorem drainHeader_typeBytes (bytes : List UInt8) (device : Device) :
    typeBytes device.trace <+: typeBytes (drainHeader bytes device).trace :=
  (drainHeader_records bytes device).trace_kept.filterMap _

/-- At `PARSING_STATE_TYPE` the next byte is a type byte. -/
theorem drainHeader_typeByte {bytes : List UInt8} (nonempty : bytes ≠ [])
    (atType : device.parsingState = .type) :
    typeBytes device.trace ++ [device.consumed] <+:
      typeBytes (drainHeader bytes device).trace := by
  cases bytes with
  | nil => exact absurd rfl nonempty
  | cons byte rest =>
      have outside : ¬device.parsingState = .data := by simp [atType]
      rw [drainHeader, if_neg outside]
      have parsed := parseHeaderByte_typeBytes device byte
      rw [if_pos atType] at parsed
      rw [← parsed]
      exact drainHeader_typeBytes rest
        { device.parseHeaderByte byte with consumed := device.consumed + 1 }

theorem uartIrqCallback_typeBytes (device : Device) :
    typeBytes device.trace <+: typeBytes device.uartIrqCallback.trace :=
  (uartIrqCallback_records device).trace_kept.filterMap _

theorem uartIrqCallback_typeByte (healthy : device.rxError = false)
    (atType : device.parsingState = .type) (nonempty : device.rxFifo ≠ []) :
    typeBytes device.trace ++ [device.consumed] <+:
      typeBytes device.uartIrqCallback.trace := by
  have drained := drainHeader_typeByte nonempty atType
  rw [uartIrqCallback_eq healthy]
  split <;> exact drained

/-- The handler never reads a type byte. -/
theorem Records.typeBytes_eq {later : Device}
    (records : Records Event.OfHandler device later) :
    typeBytes later.trace = typeBytes device.trace := by
  apply records.filterMap_eq
  intro event ofHandler
  cases event with
  | typeByte => exact ofHandler.elim
  | send => rfl
  | messageComplete => rfl

/-- Discarding never leaves the loop: when a payload has been discarded, its
length still stands in the header and nothing of it counts as read. -/
theorem discardStep_next (frameType : SerialType)
    (healthy : device.rxError = false)
    (missing : device.payloadMissing = true) :
    ∃ later, device.discardStep frameType = .next later ∧
      later.serialHeader = device.serialHeader ∧
      later.payloadMissing = true ∧ later.rxError = false := by
  have incomplete : device.bytesRead < device.serialHeader.length.val := by
    simpa [payloadMissing] using missing
  simp only [discardStep, uartFifoRead, healthy, Bool.false_eq_true, if_false]
  split
  · refine ⟨_, rfl, rfl, ?_, rfl⟩
    have length : 0 < device.serialHeader.length.val := by omega
    exact decide_eq_true length
  · next further =>
      refine ⟨_, rfl, rfl, ?_, rfl⟩
      exact decide_eq_true (Nat.lt_of_not_le further)

end Device

/-- A receiver and the bytes that have not arrived yet. -/
structure Reception where
  receiver : Receiver
  incoming : List UInt8

namespace Reception

inductive Label where
  /-- Some of the incoming bytes become readable. -/
  | arrive (count : Nat)
  | act (action : Receiver.Action)
  deriving DecidableEq, Repr

/-- The device after the arrival of the next `count` bytes. -/
def arrived (reception : Reception) (count : Nat) : Device :=
  reception.receiver.device.arrive (reception.incoming.take count)

def step (build : Build) (reception : Reception) : Label → Option Reception
  | .arrive count =>
      some
        { receiver :=
            { reception.receiver with device := reception.arrived count }
          incoming := reception.incoming.drop count }
  | .act action =>
      match reception.receiver.step build action with
      | some receiver => some { reception with receiver }
      | none => none

/-- The receiver between two frames, with `stream` still to be read. -/
structure BetweenFrames (stream : List UInt8) (start : Reception) : Prop where
  idle : start.receiver.handling = none
  atType : start.receiver.device.parsingState = .type
  healthy : start.receiver.device.rxError = false
  notQueued : start.receiver.device.workPending = false
  stream : start.receiver.device.rxFifo ++ start.incoming = stream

/-- The second byte taken for a type byte since `start`, the first one being
that of the frame `start` stands at. -/
def nextTypeByte (start final : Reception) : Option Nat :=
  (typeBytes final.receiver.device.trace)[
    (typeBytes start.receiver.device.trace).length + 1]?

/-- The next type byte is the one behind the frame: some run gets there, and
no run takes another byte. -/
def Resynchronises (build : Build) (frame : Frame) (start : Reception) : Prop :=
  (∃ labels final, Run.exec (step build) start labels = some final ∧
    nextTypeByte start final =
      some (start.receiver.device.consumed + frame.encode.length)) ∧
  ∀ labels final position,
    Run.exec (step build) start labels = some final →
    nextTypeByte start final = some position →
    position = start.receiver.device.consumed + frame.encode.length

/-- The device refuses a frame: it is too long, no client is registered for
its type, or its client does not grant a buffer. -/
def Refused (build : Build) (clients : Client → ClientState)
    (frame : Frame) : Prop :=
  serialMaxPayloadLen < frame.payload.length ∨
    (frame.header.type ≠ .protocolInfo ∧
      serialMuxGetCallbacks build frame.header.type = none) ∨
    ∃ client, serialMuxGetCallbacks build frame.header.type = some client ∧
      client.acquireBuffer build (clients client) frame.payload.length =
        .refused

section Phases

variable (build : Build) (frame : Frame) (origin : Device)

/-- The type bytes once the byte behind the header has been taken for one. -/
def lostBytes : List Nat :=
  typeBytes origin.trace ++ [origin.consumed, origin.consumed + 4]

/-- The header is being read, or has been read and the handler not started:
draining what is left gives what draining the whole stream would have. -/
structure Parsing (rest : List UInt8) (reception : Reception) : Prop where
  idle : reception.receiver.handling = none
  healthy : reception.receiver.device.rxError = false
  queued : reception.receiver.device.workPending = true →
    reception.receiver.device.parsingState = .data
  future :
    (Device.drainHeader
        (reception.receiver.device.rxFifo ++ reception.incoming)
        reception.receiver.device).takeWork =
      (Device.drainHeader (frame.encode ++ rest) origin).takeWork

/-- The handler is about to ask the client for a buffer. -/
structure Refusing (reception : Reception) : Prop where
  handling : reception.receiver.handling = some frame.header.type
  header : reception.receiver.device.serialHeader = frame.header
  read : reception.receiver.device.bytesRead = 0
  clients : reception.receiver.device.clients = origin.clients
  consumed : reception.receiver.device.consumed = origin.consumed + 4
  notQueued : reception.receiver.device.workPending = false
  healthy : reception.receiver.device.rxError = false
  positions : typeBytes reception.receiver.device.trace =
    typeBytes origin.trace ++ [origin.consumed]

/-- The frame has been refused and its payload is the next thing to be read. -/
structure Misaligned (reception : Reception) : Prop where
  idle : reception.receiver.handling = none
  atType : reception.receiver.device.parsingState = .type
  consumed : reception.receiver.device.consumed = origin.consumed + 4
  notQueued : reception.receiver.device.workPending = false
  healthy : reception.receiver.device.rxError = false
  positions : typeBytes reception.receiver.device.trace =
    typeBytes origin.trace ++ [origin.consumed]

/-- The handler discards bytes of the frame and will never return. -/
structure Discarding (reception : Reception) : Prop where
  handling : reception.receiver.handling = some frame.header.type
  length : reception.receiver.device.serialHeader.length = frame.header.length
  missing : reception.receiver.device.payloadMissing = true
  healthy : reception.receiver.device.rxError = false
  positions : typeBytes reception.receiver.device.trace =
    typeBytes origin.trace ++ [origin.consumed]

/-- The byte behind the header has been taken for a type byte. -/
def Lost (reception : Reception) : Prop :=
  lostBytes origin <+: typeBytes reception.receiver.device.trace

end Phases

variable {build : Build} {frame : Frame} {origin : Device}
  {rest : List UInt8} {reception later : Reception} {label : Label}

/-- What each enabled step does. -/
theorem step_cases (stepped : step build reception label = some later) :
    (∃ count, later =
        { receiver :=
            { reception.receiver with device := reception.arrived count }
          incoming := reception.incoming.drop count }) ∨
      (reception.receiver.handling = none ∧
        later =
          { reception with
            receiver :=
              { reception.receiver with
                device := reception.receiver.device.uartIrqCallback } }) ∨
      (reception.receiver.handling = none ∧
        reception.receiver.device.workPending = true ∧
        later =
          { reception with
            receiver :=
              Receiver.begin build reception.receiver.device.takeWork }) ∨
      ∃ frameType, reception.receiver.handling = some frameType ∧
        later =
          { reception with
            receiver := Receiver.iterate build frameType
              reception.receiver.device } := by
  cases label with
  | arrive count =>
      simp only [step, Option.some.injEq] at stepped
      exact Or.inl ⟨count, stepped.symm⟩
  | act action =>
      right
      cases action with
      | callback =>
          left
          cases idle : reception.receiver.handling with
          | none => simpa [step, Receiver.step, idle, eq_comm] using stepped
          | some frameType => simp [step, Receiver.step, idle] at stepped
      | begin =>
          right; left
          cases idle : reception.receiver.handling with
          | none =>
              by_cases pending : reception.receiver.device.workPending = true
              · simpa [step, Receiver.step, idle, pending, eq_comm]
                  using stepped
              · simp [step, Receiver.step, idle, pending] at stepped
          | some frameType => simp [step, Receiver.step, idle] at stepped
      | iterate =>
          right; right
          cases idle : reception.receiver.handling with
          | none => simp [step, Receiver.step, idle] at stepped
          | some frameType =>
              refine ⟨frameType, rfl, ?_⟩
              simpa [step, Receiver.step, idle, eq_comm] using stepped

theorem iterate_typeBytes (build : Build) (frameType : SerialType)
    (device : Device) :
    typeBytes (Receiver.iterate build frameType device).device.trace =
      typeBytes device.trace := by
  unfold Receiver.iterate
  split
  · next missing =>
      have same :=
        (Device.workStep_records build frameType device missing).typeBytes_eq
      split
      · next outcome => rw [outcome] at same; exact same
      · next outcome => rw [outcome] at same; exact same
  · rfl

theorem begin_typeBytes (build : Build) (device : Device) :
    typeBytes (Receiver.begin build device).device.trace =
      typeBytes device.trace := by
  unfold Receiver.begin
  split
  · exact (Device.answerProtocolInfo_records build device).typeBytes_eq
  · rfl

theorem step_typeBytes (stepped : step build reception label = some later) :
    typeBytes reception.receiver.device.trace <+:
      typeBytes later.receiver.device.trace := by
  rcases step_cases stepped with
    ⟨count, rfl⟩ | ⟨-, rfl⟩ | ⟨-, -, rfl⟩ | ⟨frameType, -, rfl⟩
  · exact List.prefix_rfl
  · exact Device.uartIrqCallback_typeBytes _
  · have same := begin_typeBytes build reception.receiver.device.takeWork
    exact same ▸ List.prefix_rfl
  · have same := iterate_typeBytes build frameType reception.receiver.device
    exact same ▸ List.prefix_rfl

theorem Lost.step (lost : Lost origin reception)
    (stepped : step build reception label = some later) :
    Lost origin later :=
  List.IsPrefix.trans lost (step_typeBytes stepped)

theorem Misaligned.step (misaligned : Misaligned origin reception)
    (stepped : step build reception label = some later) :
    Misaligned origin later ∨ Lost origin later := by
  rcases step_cases stepped with
    ⟨count, rfl⟩ | ⟨-, rfl⟩ | ⟨-, pending, -⟩ | ⟨frameType, handling, -⟩
  · exact Or.inl { misaligned with }
  · by_cases empty : reception.receiver.device.rxFifo = []
    · left
      have outside : reception.receiver.device.parsingState ≠ .data := by
        simp [misaligned.atType]
      rw [Device.uartIrqCallback_of_empty empty outside]
      exact misaligned
    · right
      have taken := Device.uartIrqCallback_typeByte misaligned.healthy
        misaligned.atType empty
      rw [misaligned.positions, misaligned.consumed, List.append_assoc] at taken
      exact taken
  · rw [misaligned.notQueued] at pending
    cases pending
  · rw [misaligned.idle] at handling
    cases handling

theorem Refusing.missing (refusing : Refusing frame origin reception)
    (positive : 0 < frame.payload.length) :
    reception.receiver.device.payloadMissing = true := by
  have incomplete : reception.receiver.device.bytesRead <
      reception.receiver.device.serialHeader.length.val := by
    rw [refusing.header, refusing.read, frame.length_eq]
    exact positive
  exact decide_eq_true incomplete

theorem Refusing.step {client : Client}
    (refusing : Refusing frame origin reception)
    (callbacks : serialMuxGetCallbacks build frame.header.type = some client)
    (refused : client.acquireBuffer build (origin.clients client)
      frame.payload.length = .refused)
    (positive : 0 < frame.payload.length)
    (stepped : step build reception label = some later) :
    Refusing frame origin later ∨ Misaligned origin later := by
  rcases step_cases stepped with
    ⟨count, rfl⟩ | ⟨idle, -⟩ | ⟨idle, -, -⟩ | ⟨frameType, handling, rfl⟩
  · exact Or.inl { refusing with }
  · rw [refusing.handling] at idle
    cases idle
  · rw [refusing.handling] at idle
    cases idle
  · right
    obtain rfl : frame.header.type = frameType :=
      Option.some.inj (refusing.handling.symm.trans handling)
    have count : reception.receiver.device.serialHeader.length.val -
        reception.receiver.device.bytesRead = frame.payload.length := by
      rw [refusing.header, refusing.read, frame.length_eq, Nat.sub_zero]
    have missing := refusing.missing positive
    have outcome : reception.receiver.device.workStep build
        frame.header.type =
          .stop (reception.receiver.device.refuseFrame frame.header.type) := by
      rw [Device.workStep_of_client callbacks]
      apply Device.clientStep_of_refused
      rw [count, refusing.clients]
      exact refused
    have iterated : Receiver.iterate build frame.header.type
        reception.receiver.device =
          { device := reception.receiver.device.refuseFrame frame.header.type
            handling := none } := by
      simp [Receiver.iterate, missing, outcome]
    rw [iterated]
    exact
      { idle := rfl
        atType := rfl
        consumed := refusing.consumed
        notQueued := refusing.notQueued
        healthy := refusing.healthy
        positions := by
          simpa [Device.refuseFrame, Device.sendAck, Device.log]
            using refusing.positions }

theorem Discarding.step (discarding : Discarding frame origin reception)
    (notInfo : frame.header.type ≠ .protocolInfo)
    (unregistered : serialMuxGetCallbacks build frame.header.type = none)
    (stepped : step build reception label = some later) :
    Discarding frame origin later := by
  rcases step_cases stepped with
    ⟨count, rfl⟩ | ⟨idle, -⟩ | ⟨idle, -, -⟩ | ⟨frameType, handling, rfl⟩
  · exact { discarding with }
  · rw [discarding.handling] at idle
    cases idle
  · rw [discarding.handling] at idle
    cases idle
  · obtain rfl : frame.header.type = frameType :=
      Option.some.inj (discarding.handling.symm.trans handling)
    have body : reception.receiver.device.workStep build frame.header.type =
        reception.receiver.device.discardStep frame.header.type := by
      simp [Device.workStep, notInfo, unregistered]
    obtain ⟨next, outcome, header, missing, healthy⟩ :=
      Device.discardStep_next frame.header.type discarding.healthy
        discarding.missing
    have iterated : Receiver.iterate build frame.header.type
        reception.receiver.device =
          { device := next, handling := some frame.header.type } := by
      simp [Receiver.iterate, discarding.missing, body, outcome]
    have positions := iterate_typeBytes build frame.header.type
      reception.receiver.device
    rw [iterated] at positions ⊢
    exact
      { handling := rfl
        length := by rw [header]; exact discarding.length
        missing
        healthy
        positions := positions.trans discarding.positions }

namespace Parsing

theorem positions (parsing : Parsing frame origin rest reception) :
    typeBytes reception.receiver.device.trace <+:
      typeBytes (Device.drainHeader (frame.encode ++ rest) origin).trace := by
  have same := congrArg Device.trace parsing.future
  rw [← show _ = (Device.drainHeader (frame.encode ++ rest) origin).trace
    from same]
  exact Device.drainHeader_typeBytes _ _

theorem arrive (parsing : Parsing frame origin rest reception) (count : Nat) :
    Parsing frame origin rest
      { receiver := { reception.receiver with device := reception.arrived count }
        incoming := reception.incoming.drop count } := by
  have stream : (reception.arrived count).rxFifo ++
      reception.incoming.drop count =
        reception.receiver.device.rxFifo ++ reception.incoming := by
    simp [arrived, Device.arrive, List.append_assoc]
  refine { parsing with future := ?_ }
  rw [← parsing.future]
  have same := Device.drainHeader_rxFifo
    (reception.receiver.device.rxFifo ++ reception.incoming)
    reception.receiver.device (reception.arrived count).rxFifo
  exact congrArg Device.takeWork ((congrArg
    (Device.drainHeader · (reception.arrived count)) stream).trans same)

theorem callback (parsing : Parsing frame origin rest reception) :
    Parsing frame origin rest
      { reception with
        receiver :=
          { reception.receiver with
            device := reception.receiver.device.uartIrqCallback } } := by
  have resumed := Device.drainHeader_resume
    reception.receiver.device.rxFifo reception.incoming
    reception.receiver.device
  have healthy := (Device.drainHeader_uart reception.receiver.device.rxFifo
    reception.receiver.device).1.trans parsing.healthy
  rw [Device.uartIrqCallback_eq parsing.healthy]
  split
  · next inData =>
      have queuedFuture := congrArg Device.takeWork
        (Device.drainHeader_submitWork
          ((Device.drainHeader reception.receiver.device.rxFifo
            reception.receiver.device).rxFifo ++ reception.incoming)
          (Device.drainHeader reception.receiver.device.rxFifo
            reception.receiver.device))
      exact
        { idle := parsing.idle
          healthy
          queued := fun _ => inData
          future := by
            rw [← parsing.future, ← resumed]
            exact queuedFuture }
  · exact
      { idle := parsing.idle
        healthy
        queued := Device.drainHeader_queued _ parsing.queued
        future := by
          rw [← parsing.future, ← resumed] }

/-- When the handler is queued the header has been read. -/
theorem queued_eq (parsing : Parsing frame origin rest reception)
    (pending : reception.receiver.device.workPending = true) :
    { reception.receiver.device.takeWork with
        rxFifo := reception.receiver.device.rxFifo ++ reception.incoming } =
      (Device.drainHeader (frame.encode ++ rest) origin).takeWork := by
  rw [← parsing.future, Device.drainHeader_of_data (parsing.queued pending)]
  rfl

end Parsing

section Origin

variable (atType : origin.parsingState = .type)

include atType

/-- A header that announces no payload leaves the parser at the next byte. -/
theorem lost_of_unannounced
    (unannounced : frame.payload.length = 0 ∧
        frame.header.type ≠ .protocolInfo ∨
      serialMaxPayloadLen < frame.payload.length)
    (follows : frame.payload ++ rest ≠ []) :
    lostBytes origin <+:
      typeBytes (Device.drainHeader (frame.encode ++ rest) origin).trace := by
  have parsed : (origin.headerParsed frame.header).parsingState = .type ∧
      (origin.headerParsed frame.header).consumed = origin.consumed + 4 ∧
      typeBytes (origin.headerParsed frame.header).trace =
        typeBytes origin.trace ++ [origin.consumed] := by
    rw [← frame.length_eq] at unannounced
    unfold Device.headerParsed
    rcases unannounced with ⟨empty, notInfo⟩ | long
    · simp [empty, notInfo, Device.log]
    · have positive : ¬frame.header.length.val = 0 := by omega
      simp [positive, long, Device.log, Device.sendAck]
  obtain ⟨stillAtType, consumed, positions⟩ := parsed
  have next := Device.drainHeader_typeByte follows stillAtType
  rw [positions, consumed, List.append_assoc] at next
  rw [Frame.encode, List.append_assoc,
    Device.drainHeader_encode origin frame.header _ atType]
  exact next

theorem drainHeader_of_announced (positive : 0 < frame.payload.length)
    (bounded : frame.payload.length ≤ serialMaxPayloadLen) :
    Device.drainHeader (frame.encode ++ rest) origin =
      origin.payloadExpected frame.header (frame.payload ++ rest) := by
  rw [← frame.length_eq] at positive bounded
  rw [Frame.encode, List.append_assoc]
  exact Device.drainHeader_of_header _ atType positive bounded

/-- The handler of a frame with a payload starts inside its loop, with
nothing of the payload read. -/
theorem begin_of_parsing (build : Build)
    (parsing : Parsing frame origin rest reception)
    (pending : reception.receiver.device.workPending = true)
    (positive : 0 < frame.payload.length)
    (bounded : frame.payload.length ≤ serialMaxPayloadLen) :
    Refusing frame origin
      { reception with
        receiver :=
          Receiver.begin build reception.receiver.device.takeWork } := by
  have device := parsing.queued_eq pending
  rw [drainHeader_of_announced atType positive bounded] at device
  have header : reception.receiver.device.takeWork.serialHeader =
      frame.header :=
    congrArg Device.serialHeader device
  have length : reception.receiver.device.takeWork.serialHeader.length.val ≠
      0 := by
    rw [header, frame.length_eq]
    omega
  have begun : Receiver.begin build reception.receiver.device.takeWork =
      { device := reception.receiver.device.takeWork
        handling := some frame.header.type } := by
    rw [Receiver.begin, if_neg (fun info => length info.2), header]
  have read := congrArg Device.bytesRead device
  have clients := congrArg Device.clients device
  have consumed := congrArg Device.consumed device
  rw [begun]
  exact
    { handling := rfl
      header
      read
      clients
      consumed
      notQueued := rfl
      healthy := parsing.healthy
      positions := by
        have trace : reception.receiver.device.takeWork.trace =
            origin.trace ++ [.typeByte origin.consumed] :=
          congrArg Device.trace device
        simp [trace] }

end Origin

/-- The states of a reception that starts at a refused frame. -/
def InPhase (build : Build) (frame : Frame) (origin : Device)
    (rest : List UInt8) (reception : Reception) : Prop :=
  Parsing frame origin rest reception ∨
    (∃ client, serialMuxGetCallbacks build frame.header.type = some client ∧
      client.acquireBuffer build (origin.clients client)
        frame.payload.length = .refused ∧
      0 < frame.payload.length ∧ Refusing frame origin reception) ∨
    Misaligned origin reception ∨
    (frame.header.type ≠ .protocolInfo ∧
      serialMuxGetCallbacks build frame.header.type = none ∧
      Discarding frame origin reception) ∨
    Lost origin reception

theorem Refused.unannounced_or (refused : Refused build origin.clients frame) :
    (frame.payload.length = 0 ∧ frame.header.type ≠ .protocolInfo ∨
      serialMaxPayloadLen < frame.payload.length) ∨
    0 < frame.payload.length ∧
      frame.payload.length ≤ serialMaxPayloadLen := by
  by_cases empty : frame.payload.length = 0
  · left; left
    refine ⟨empty, ?_⟩
    rcases refused with long | ⟨notInfo, -⟩ | ⟨client, callbacks, -⟩
    · omega
    · exact notInfo
    · intro info
      simp [info, serialMuxGetCallbacks] at callbacks
  · omega

/-- What a refused frame's handler finds when it starts. -/
theorem InPhase.begin (atType : origin.parsingState = .type)
    (refused : Refused build origin.clients frame)
    (follows : frame.payload ++ rest ≠ [])
    (parsing : Parsing frame origin rest reception)
    (pending : reception.receiver.device.workPending = true) :
    InPhase build frame origin rest
      { reception with
        receiver :=
          Receiver.begin build reception.receiver.device.takeWork } := by
  rcases refused.unannounced_or with unannounced | ⟨positive, bounded⟩
  · right; right; right; right
    have drained := lost_of_unannounced atType unannounced follows
    have trace := congrArg Device.trace (parsing.queued_eq pending)
    unfold Lost
    rw [begin_typeBytes]
    exact trace ▸ drained
  · have begun := begin_of_parsing atType build parsing pending positive
      bounded
    rcases refused with long | ⟨notInfo, unregistered⟩ |
      ⟨client, callbacks, refuses⟩
    · omega
    · right; right; right; left
      refine ⟨notInfo, unregistered, ?_⟩
      exact
        { handling := begun.handling
          length := by rw [begun.header]
          missing := begun.missing positive
          healthy := begun.healthy
          positions := begun.positions }
    · right; left
      exact ⟨client, callbacks, refuses, positive, begun⟩

/-- One step of a reception that starts at a refused frame. -/
theorem InPhase.step (atType : origin.parsingState = .type)
    (refused : Refused build origin.clients frame)
    (follows : frame.payload ++ rest ≠ [])
    (phase : InPhase build frame origin rest reception)
    (stepped : Reception.step build reception label = some later) :
    InPhase build frame origin rest later := by
  rcases phase with parsing | ⟨client, callbacks, refuses, positive, refusing⟩ |
    misaligned | ⟨notInfo, unregistered, discarding⟩ | lost
  · rcases step_cases stepped with
      ⟨count, rfl⟩ | ⟨-, rfl⟩ | ⟨-, pending, rfl⟩ | ⟨frameType, handling, -⟩
    · exact Or.inl (parsing.arrive count)
    · exact Or.inl parsing.callback
    · exact InPhase.begin atType refused follows parsing pending
    · rw [parsing.idle] at handling
      cases handling
  · rcases refusing.step callbacks refuses positive stepped with same | moved
    · exact Or.inr (Or.inl ⟨client, callbacks, refuses, positive, same⟩)
    · exact Or.inr (Or.inr (Or.inl moved))
  · rcases misaligned.step stepped with same | lost
    · exact Or.inr (Or.inr (Or.inl same))
    · exact Or.inr (Or.inr (Or.inr (Or.inr lost)))
  · have same := discarding.step notInfo unregistered stepped
    exact Or.inr (Or.inr (Or.inr (Or.inl ⟨notInfo, unregistered, same⟩)))
  · exact Or.inr (Or.inr (Or.inr (Or.inr (lost.step stepped))))

private theorem getElem?_of_shorter {shorter longer : List Nat} {index value : Nat}
    (extends_ : shorter <+: longer) (found : shorter[index]? = some value) :
    longer[index]? = some value := by
  obtain ⟨tail, rfl⟩ := extends_
  have bound : index < shorter.length :=
    (List.getElem?_eq_some_iff.mp found).1
  rw [List.getElem?_append_left bound]
  exact found

theorem lostBytes_getElem? (origin : Device) :
    (lostBytes origin)[(typeBytes origin.trace).length + 1]? =
      some (origin.consumed + 4) := by
  simp [lostBytes]

/-- In every phase, the only byte that can have been taken for the next type
byte is the one behind the header. -/
theorem InPhase.position {position : Nat}
    (atType : origin.parsingState = .type)
    (refused : Refused build origin.clients frame)
    (follows : frame.payload ++ rest ≠ [])
    (phase : InPhase build frame origin rest reception)
    (found : (typeBytes reception.receiver.device.trace)[
      (typeBytes origin.trace).length + 1]? = some position) :
    position = origin.consumed + 4 := by
  have header : ∀ {later : List Nat},
      later = typeBytes origin.trace ++ [origin.consumed] →
      later[(typeBytes origin.trace).length + 1]? ≠ some position := by
    rintro later rfl
    simp
  rcases phase with parsing | ⟨-, -, -, -, refusing⟩ | misaligned |
    ⟨-, -, discarding⟩ | lost
  · have final := getElem?_of_shorter parsing.positions found
    rcases refused.unannounced_or with unannounced | ⟨positive, bounded⟩
    · have lost := getElem?_of_shorter
        (lost_of_unannounced atType unannounced follows)
        (lostBytes_getElem? origin)
      exact Option.some.inj (final.symm.trans lost)
    · rw [drainHeader_of_announced atType positive bounded] at final
      exact absurd final (header (by simp [Device.payloadExpected, Device.log]))
  · exact absurd found (header refusing.positions)
  · exact absurd found (header misaligned.positions)
  · exact absurd found (header discarding.positions)
  · have taken := getElem?_of_shorter lost (lostBytes_getElem? origin)
    exact Option.some.inj (found.symm.trans taken)

/-- A refused frame's payload is skipped only if there is none. -/
theorem resynchronises_iff (build : Build) (frame : Frame)
    (rest : List UInt8) (start : Reception)
    (between : BetweenFrames (frame.encode ++ rest) start)
    (refused : Refused build start.receiver.device.clients frame)
    (continues : rest ≠ []) :
    Resynchronises build frame start ↔ frame.payload = [] := by
  have follows : frame.payload ++ rest ≠ [] := by simp [continues]
  have initial : InPhase build frame start.receiver.device rest start := by
    left
    exact
      { idle := between.idle
        healthy := between.healthy
        queued := by simp [between.notQueued]
        future := by rw [between.stream] }
  have positions : ∀ labels final position,
      Run.exec (step build) start labels = some final →
      nextTypeByte start final = some position →
      position = start.receiver.device.consumed + 4 := by
    intro labels final position executed found
    have phase := Run.exec_preserves
      (fun _ _ _ phase stepped =>
        InPhase.step between.atType refused follows phase stepped)
      executed initial
    exact phase.position between.atType refused follows found
  constructor
  · rintro ⟨⟨labels, final, executed, found⟩, -⟩
    have position := positions labels final _ executed found
    simp only [Frame.encode, List.length_append, SerialHeader.length_encode]
      at position
    exact List.length_eq_zero_iff.mp (by omega)
  · intro empty
    have length : frame.encode.length = 4 := by
      simp [Frame.encode, empty]
    rw [Resynchronises, length]
    refine ⟨?_, positions⟩
    have unannounced := refused.unannounced_or
    rw [empty, List.length_nil] at unannounced
    have lost := lost_of_unannounced between.atType
      (by rw [empty]; simpa using unannounced) follows
    let arrived := start.arrived start.incoming.length
    have fifo : arrived.rxFifo = frame.encode ++ rest := by
      simpa [arrived, Reception.arrived, Device.arrive] using between.stream
    have drained : Device.drainHeader arrived.rxFifo arrived =
        Device.drainHeader (frame.encode ++ rest) start.receiver.device := by
      rw [fifo]
      exact Device.drainHeader_rxFifo _ start.receiver.device _
    have called : lostBytes start.receiver.device <+:
        typeBytes arrived.uartIrqCallback.trace := by
      have healthy : arrived.rxError = false := between.healthy
      rw [Device.uartIrqCallback_eq healthy, drained]
      split <;> exact lost
    let final : Reception :=
      { receiver := { device := arrived.uartIrqCallback, handling := none }
        incoming := start.incoming.drop start.incoming.length }
    refine ⟨[.arrive start.incoming.length, .act .callback], final, ?_,
      getElem?_of_shorter called (lostBytes_getElem? start.receiver.device)⟩
    simp [Run.exec, step, Receiver.step, between.idle, final, arrived]

/-- An idle device about to receive `stream`. -/
def about (device : Device) (stream : List UInt8) : Reception where
  receiver := { device, handling := none }
  incoming := stream

/-- A frame without payload for a type that no client is registered for. -/
def emptyFrame : Frame := .ofPayload .netOffloading 0 [] Frame.nil_bounded

theorem resynchronises_emptyFrame :
    Resynchronises Build.full emptyFrame
      (about Device.boot (emptyFrame.encode ++ [0])) :=
  (resynchronises_iff Build.full emptyFrame [0]
    (about Device.boot (emptyFrame.encode ++ [0])) ⟨rfl, rfl, rfl, rfl, rfl⟩
    (Or.inr (Or.inl ⟨by decide, rfl⟩)) (by decide)).mpr rfl

/-- A device whose network interface proxy still holds a message that fills
its buffer. -/
def netIfMgmtFull : Device :=
  Device.boot.setClient .netIfMgmt
    { Device.boot.clients .netIfMgmt with accumulated := 512 }

def furtherRequest : Frame := .ofPayload .netIfMgmt 0 [9] (by decide)

/-- The first byte of the refused payload is taken for a type byte. -/
theorem furtherRequest_not_skipped :
    Refused Build.full netIfMgmtFull.clients furtherRequest ∧
      ¬Resynchronises Build.full furtherRequest
        (about netIfMgmtFull (furtherRequest.encode ++ [0])) := by
  constructor
  · right; right
    exact ⟨.netIfMgmt, rfl, by decide⟩
  · rintro ⟨-, only⟩
    have ran : (Run.exec (step Build.full)
        (about netIfMgmtFull (furtherRequest.encode ++ [0]))
        [.arrive 5, .act .callback, .act .begin, .act .iterate,
          .act .callback]).map
            (nextTypeByte
              (about netIfMgmtFull (furtherRequest.encode ++ [0]))) =
        some (some 4) := by
      decide
    obtain ⟨final, executed, found⟩ := Option.map_eq_some_iff.mp ran
    have position := only _ final 4 executed found
    exact absurd position (by decide)

end Reception

end SerialLink
