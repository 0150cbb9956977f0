import SerialLink.Device.HeaderParsing

/-!
# One round of the receiver inside a payload

The lemmas of this module say what the loop body of `serial_work_handler`
does for a registered client, and what a whole receive event does while the
parser is in `PARSING_STATE_DATA`.
-/

namespace SerialLink

/-- The calls of `message_complete` recorded in a trace. -/
def completions (trace : List Event) : List (Client × Nat × ClientState) :=
  trace.filterMap fun
    | .messageComplete client len state => some (client, len, state)
    | _ => none

@[simp] theorem completions_append (first second : List Event) :
    completions (first ++ second) = completions first ++ completions second := by
  simp [completions]

@[simp] theorem completions_nil : completions [] = [] := rfl

@[simp] theorem completions_send (header : SerialHeader)
    (payload : List UInt8) (trace : List Event) :
    completions (.send header payload :: trace) = completions trace := rfl

@[simp] theorem completions_typeByte (position : Nat) (trace : List Event) :
    completions (.typeByte position :: trace) = completions trace := rfl

@[simp] theorem completions_messageComplete (client : Client) (len : Nat)
    (state : ClientState) (trace : List Event) :
    completions (.messageComplete client len state :: trace) =
      (client, len, state) :: completions trace := rfl

/-- The events of the handler: its answers and messages that are not empty. -/
def Event.OfHandler : Event → Prop
  | .send _ _ => True
  | .messageComplete _ len _ => 0 < len
  | .typeByte _ => False

namespace Device

variable {build : Build} {client : Client} {frameType : SerialType}
  {device : Device}

/-- A receive event returns: the callback, then the handler it queues. -/
def Serves (build : Build) (device later : Device) : Prop :=
  ∃ fuel, device.serviceRound build fuel = some later

/-- Inside a payload the callback only queues the handler. -/
theorem uartIrqCallback_of_data (inData : device.parsingState = .data) :
    device.uartIrqCallback = device.submitWork := by
  have drained : drainHeader device.rxFifo device = device :=
    drainHeader_of_data inData device.rxFifo
  simp only [uartIrqCallback, drained, ite_self, inData, if_true]

/-- Outside a payload an empty FIFO gives the callback nothing to do. -/
theorem uartIrqCallback_of_empty (empty : device.rxFifo = [])
    (outside : device.parsingState ≠ .data) :
    device.uartIrqCallback = device := by
  have drained : drainHeader device.rxFifo device = device := by
    rw [empty, drainHeader, ← empty]
  simp only [uartIrqCallback, drained, ite_self, outside, if_false]

theorem workStep_of_client
    (callbacks : serialMuxGetCallbacks build frameType = some client) :
    workStep build frameType device = device.clientStep build client frameType := by
  have notInfo : frameType ≠ .protocolInfo := by
    intro info
    subst info
    simp [serialMuxGetCallbacks] at callbacks
  simp [workStep, notInfo, callbacks]

/-- Once the callback has queued the handler for a registered client's frame,
the receive event is the client's loop. -/
theorem serves_iff_of_queued {queued : Device}
    (callback : device.uartIrqCallback = queued.submitWork)
    (callbacks : serialMuxGetCallbacks build queued.serialHeader.type =
      some client) {later : Device} :
    Serves build device later ↔
      Loop.Returns payloadMissing
        (clientStep build client queued.serialHeader.type)
        queued.takeWork later := by
  have notInfo : queued.serialHeader.type ≠ .protocolInfo := by
    intro info
    simp [info, serialMuxGetCallbacks] at callbacks
  have body : workStep build queued.serialHeader.type =
      clientStep build client queued.serialHeader.type :=
    funext fun _ => workStep_of_client callbacks
  have pending : queued.submitWork.workPending = true := rfl
  have taken : queued.submitWork.takeWork = queued.takeWork := rfl
  have header : queued.takeWork.serialHeader = queued.serialHeader := rfl
  simp [Serves, Loop.Returns, serviceRound, callback, runWork, pending, taken,
    serialWorkHandler, header, notInfo, body]

theorem Serves.unique {left right : Device} (first : Serves build device left)
    (second : Serves build device right) : left = right := by
  obtain ⟨firstFuel, firstResult⟩ := first
  obtain ⟨secondFuel, secondResult⟩ := second
  unfold serviceRound runWork at firstResult secondResult
  by_cases pending : device.uartIrqCallback.workPending = true
  · rw [if_pos pending] at firstResult secondResult
    unfold serialWorkHandler at firstResult secondResult
    by_cases info : device.uartIrqCallback.takeWork.serialHeader.type =
        .protocolInfo ∧
          device.uartIrqCallback.takeWork.serialHeader.length.val = 0
    · rw [if_pos info] at firstResult secondResult
      exact Option.some.inj (firstResult.symm.trans secondResult)
    · rw [if_neg info] at firstResult secondResult
      exact Loop.Returns.unique ⟨firstFuel, firstResult⟩
        ⟨secondFuel, secondResult⟩
  · rw [if_neg pending] at firstResult secondResult
    exact Option.some.inj (firstResult.symm.trans secondResult)

theorem uartFifoRead_of_empty (healthy : device.rxError = false)
    (empty : device.rxFifo = []) (count : Nat) :
    device.uartFifoRead count = some ([], device) := by
  cases device
  simp only at healthy empty
  subst healthy empty
  simp [uartFifoRead]

theorem clientStep_of_refused
    (refused : client.acquireBuffer build (device.clients client)
      (device.serialHeader.length.val - device.bytesRead) = .refused) :
    device.clientStep build client frameType =
      .stop (device.refuseFrame frameType) := by
  simp only [clientStep, refused]

/-- A read of the missing bytes finds some, if the FIFO holds any. -/
theorem taken_ne_nil (missing : device.payloadMissing = true)
    (nonempty : device.rxFifo ≠ []) :
    device.rxFifo.take
      (device.serialHeader.length.val - device.bytesRead) ≠ [] := by
  have incomplete : device.bytesRead < device.serialHeader.length.val := by
    simpa [payloadMissing] using missing
  simpa [List.take_eq_nil_iff] using ⟨by omega, nonempty⟩

/-- A granted read that finds the FIFO empty leaves everything as it was. -/
theorem clientStep_of_granted_empty {base : Option Nat}
    (healthy : device.rxError = false) (empty : device.rxFifo = [])
    (granted : client.acquireBuffer build (device.clients client)
      (device.serialHeader.length.val - device.bytesRead) = .granted base) :
    device.clientStep build client frameType = .stop device := by
  simp only [clientStep, granted, uartFifoRead_of_empty healthy empty,
    List.length_nil, if_true]

/-- With an empty FIFO the loop of a registered client ends at once, whether
the client grants a buffer or not. -/
theorem clientStep_of_empty (build : Build) (client : Client)
    (frameType : SerialType) (healthy : device.rxError = false)
    (empty : device.rxFifo = []) :
    device.clientStep build client frameType = .stop device ∨
      device.clientStep build client frameType =
        .stop (device.refuseFrame frameType) := by
  cases acquisition : client.acquireBuffer build (device.clients client)
      (device.serialHeader.length.val - device.bytesRead) with
  | refused => exact Or.inr (clientStep_of_refused acquisition)
  | granted base =>
      exact Or.inl (clientStep_of_granted_empty healthy empty acquisition)

/-- The device once `bytes`, taken from the FIFO, stand in the client's buffer
at `base` plus the bytes of the frame read before. -/
def loaded (build : Build) (client : Client) (base : Option Nat)
    (bytes rest : List UInt8) (device : Device) : Device :=
  let device :=
    ({ device with
        rxFifo := rest
        consumed := device.consumed + bytes.length }).storePayload
      build client base bytes
  { device with bytesRead := device.bytesRead + bytes.length }

section ResetParser

variable (device)

@[simp] theorem resetParser_rxFifo :
    device.resetParser.rxFifo = device.rxFifo := rfl

@[simp] theorem resetParser_rxError :
    device.resetParser.rxError = device.rxError := rfl

@[simp] theorem resetParser_parsingState :
    device.resetParser.parsingState = .type := rfl

@[simp] theorem resetParser_serialHeader :
    device.resetParser.serialHeader = device.serialHeader := rfl

@[simp] theorem resetParser_bytesRead : device.resetParser.bytesRead = 0 := rfl

@[simp] theorem resetParser_rxSequenceNumber :
    device.resetParser.rxSequenceNumber = device.rxSequenceNumber := rfl

@[simp] theorem resetParser_workPending :
    device.resetParser.workPending = device.workPending := rfl

@[simp] theorem resetParser_clients :
    device.resetParser.clients = device.clients := rfl

@[simp] theorem resetParser_stray : device.resetParser.stray = device.stray := rfl

@[simp] theorem resetParser_trace : device.resetParser.trace = device.trace := rfl

end ResetParser

section Loaded

variable (build client) (base : Option Nat) (bytes rest : List UInt8) (device)

@[simp] theorem loaded_rxFifo :
    (device.loaded build client base bytes rest).rxFifo = rest := by
  cases base <;> rfl

@[simp] theorem loaded_rxError :
    (device.loaded build client base bytes rest).rxError =
      device.rxError := by
  cases base <;> rfl

@[simp] theorem loaded_parsingState :
    (device.loaded build client base bytes rest).parsingState =
      device.parsingState := by
  cases base <;> rfl

@[simp] theorem loaded_serialHeader :
    (device.loaded build client base bytes rest).serialHeader =
      device.serialHeader := by
  cases base <;> rfl

@[simp] theorem loaded_bytesRead :
    (device.loaded build client base bytes rest).bytesRead =
      device.bytesRead + bytes.length := by
  cases base <;> rfl

@[simp] theorem loaded_rxSequenceNumber :
    (device.loaded build client base bytes rest).rxSequenceNumber =
      device.rxSequenceNumber := by
  cases base <;> rfl

@[simp] theorem loaded_workPending :
    (device.loaded build client base bytes rest).workPending =
      device.workPending := by
  cases base <;> rfl

@[simp] theorem loaded_trace :
    (device.loaded build client base bytes rest).trace = device.trace := by
  cases base <;> rfl

@[simp] theorem loaded_clients (offset : Nat) :
    (device.loaded build client (some offset) bytes rest).clients client =
      { device.clients client with
        buffer := Region.store (device.clients client).buffer
          (offset + device.bytesRead) bytes } := by
  simp [loaded, storePayload, setClient]

@[simp] theorem loaded_stray (offset : Nat) :
    (device.loaded build client (some offset) bytes rest).stray =
      (device.stray || decide (client.capacity build <
        offset + device.bytesRead + bytes.length)) := rfl

end Loaded

section Commit

variable (client) (len : Nat) (device)

@[simp] theorem commitData_clients :
    (device.commitData client len).clients client =
      client.commitData (device.clients client) len := by
  simp [commitData, setClient]

end Commit

/-- One granted read of the loop body. -/
theorem clientStep_of_granted (frameType : SerialType) (base : Option Nat)
    (bytes rest : List UInt8)
    (healthy : device.rxError = false)
    (granted : client.acquireBuffer build (device.clients client)
      (device.serialHeader.length.val - device.bytesRead) = .granted base)
    (readable : device.rxFifo.take
      (device.serialHeader.length.val - device.bytesRead) = bytes)
    (remaining : device.rxFifo.drop
      (device.serialHeader.length.val - device.bytesRead) = rest)
    (nonempty : bytes ≠ []) :
    device.clientStep build client frameType =
      if device.bytesRead + bytes.length ≥ device.serialHeader.length.val then
        .next ((device.loaded build client base bytes rest).completeFrame
          build client frameType).resetParser
      else
        .next ((device.loaded build client base bytes rest).commitData
          client bytes.length) := by
  have positive : ¬bytes.length = 0 := by simpa using nonempty
  have bytesRead := device.loaded_bytesRead build client base bytes rest
  have header := device.loaded_serialHeader build client base bytes rest
  rw [← bytesRead, ← header]
  simp only [clientStep, granted, uartFifoRead, healthy, Bool.false_eq_true,
    if_false, readable, remaining, positive, loaded]

/-- Everything an iteration of a client's loop can do: a refusal, a read that
finds nothing, or a read that completes the frame or extends it. -/
theorem clientStep_cases (build : Build) (client : Client)
    (frameType : SerialType) (missing : device.payloadMissing = true) :
    let count := device.serialHeader.length.val - device.bytesRead
    device.clientStep build client frameType =
        .stop (device.refuseFrame frameType) ∨
      device.clientStep build client frameType = .stop device ∨
      ∃ base,
        let full := device.loaded build client base
          (device.rxFifo.take count) (device.rxFifo.drop count)
        device.rxFifo.take count ≠ [] ∧
        (device.clientStep build client frameType =
            .next (full.completeFrame build client frameType).resetParser ∨
          device.clientStep build client frameType =
            .next (full.commitData client
              (device.rxFifo.take count).length)) := by
  intro count
  cases acquisition : client.acquireBuffer build (device.clients client)
      count with
  | refused => exact Or.inl (clientStep_of_refused acquisition)
  | granted base =>
      right
      by_cases failing : device.rxError = true
      · left
        simp only [clientStep, count] at acquisition ⊢
        simp only [acquisition, uartFifoRead, failing, if_true]
      · have healthy : device.rxError = false := by simpa using failing
        by_cases empty : device.rxFifo = []
        · exact Or.inl (clientStep_of_granted_empty healthy empty acquisition)
        · right
          have nonempty := taken_ne_nil missing empty
          have stepped := clientStep_of_granted frameType base
            (device.rxFifo.take count) (device.rxFifo.drop count) healthy
            acquisition rfl rfl nonempty
          refine ⟨base, nonempty, ?_⟩
          rw [stepped]
          split
          · exact Or.inl rfl
          · exact Or.inr rfl

section Complete

variable (build client frameType device)

/-- What neither the log nor the clients nor the expected number is part of
stays as it is. -/
theorem completeFrame_keeps {α : Type} (read : Device → α)
    (ofLog : ∀ device event, read (log device event) = read device)
    (ofSetClient : ∀ device client state,
      read (setClient device client state) = read device)
    (ofExpect : ∀ (device : Device) number,
      read { device with rxSequenceNumber := number } = read device) :
    read (device.completeFrame build client frameType) = read device := by
  have told : ∀ len (device : Device),
      read ((device.commitData client len).messageComplete build client len) =
        read device := by
    intro len device
    rw [messageComplete, ofSetClient, ofLog, commitData, ofSetClient]
  unfold completeFrame
  dsimp only
  split
  · rw [ofExpect, sendAck, ofLog]
  · split
    · rw [ofExpect, told]
    · rw [sendAck, ofLog, ofExpect, told]

@[simp] theorem completeFrame_rxFifo :
    (device.completeFrame build client frameType).rxFifo = device.rxFifo :=
  completeFrame_keeps build client frameType device (·.rxFifo)
    (fun _ _ => rfl) (fun _ _ _ => rfl) (fun _ _ => rfl)

@[simp] theorem completeFrame_rxError :
    (device.completeFrame build client frameType).rxError = device.rxError :=
  completeFrame_keeps build client frameType device (·.rxError)
    (fun _ _ => rfl) (fun _ _ _ => rfl) (fun _ _ => rfl)

@[simp] theorem completeFrame_serialHeader :
    (device.completeFrame build client frameType).serialHeader =
      device.serialHeader :=
  completeFrame_keeps build client frameType device (·.serialHeader)
    (fun _ _ => rfl) (fun _ _ _ => rfl) (fun _ _ => rfl)

@[simp] theorem completeFrame_workPending :
    (device.completeFrame build client frameType).workPending =
      device.workPending :=
  completeFrame_keeps build client frameType device (·.workPending)
    (fun _ _ => rfl) (fun _ _ _ => rfl) (fun _ _ => rfl)

@[simp] theorem completeFrame_stray :
    (device.completeFrame build client frameType).stray = device.stray :=
  completeFrame_keeps build client frameType device (·.stray)
    (fun _ _ => rfl) (fun _ _ _ => rfl) (fun _ _ => rfl)

theorem completeFrame_txSequenceNumber :
    (device.completeFrame build client frameType).txSequenceNumber =
      device.txSequenceNumber :=
  completeFrame_keeps build client frameType device (·.txSequenceNumber)
    (fun _ _ => rfl) (fun _ _ _ => rfl) (fun _ _ => rfl)

/-- Only the frame's own client is told of it. -/
theorem completeFrame_clients_other {other : Client} (different : other ≠ client) :
    (device.completeFrame build client frameType).clients other =
      device.clients other := by
  unfold completeFrame
  dsimp only
  split
  · rfl
  · split <;> simp [sendAck, log, messageComplete, setClient, commitData,
      different]

@[simp] theorem refuseFrame_completions :
    completions (device.refuseFrame frameType).trace =
      completions device.trace := by
  simp [refuseFrame, sendAck, log]

/-- A complete frame with the expected number: its client has the whole frame
length committed and is told of the message. -/
theorem completeFrame_clients
    (expected : device.rxSequenceNumber =
      device.serialHeader.sequenceNumber.val) :
    (device.completeFrame build client frameType).clients client =
      client.messageComplete build
        (client.commitData (device.clients client)
          device.serialHeader.length.val) := by
  simp only [completeFrame, expected, ne_eq, not_true_eq_false, if_false]
  split <;> simp [sendAck, log, messageComplete, setClient, commitData]

theorem completeFrame_rxSequenceNumber
    (expected : device.rxSequenceNumber =
      device.serialHeader.sequenceNumber.val) :
    (device.completeFrame build client frameType).rxSequenceNumber =
      seqNext device.rxSequenceNumber := by
  simp only [completeFrame, expected, ne_eq, not_true_eq_false, if_false]
  split <;> simp [sendAck, log, messageComplete, setClient, commitData, expected]

/-- A frame with another number than the expected one is not delivered. -/
theorem completeFrame_clients_of_unexpected
    (unexpected : ¬device.rxSequenceNumber =
      device.serialHeader.sequenceNumber.val) :
    (device.completeFrame build client frameType).clients =
      device.clients := by
  simp [completeFrame, unexpected, sendAck, log]

theorem completeFrame_completions_of_unexpected
    (unexpected : ¬device.rxSequenceNumber =
      device.serialHeader.sequenceNumber.val) :
    completions (device.completeFrame build client frameType).trace =
      completions device.trace := by
  simp [completeFrame, unexpected, sendAck, log]

theorem completeFrame_completions
    (expected : device.rxSequenceNumber =
      device.serialHeader.sequenceNumber.val) :
    completions (device.completeFrame build client frameType).trace =
      completions device.trace ++
        [(client, device.serialHeader.length.val,
          client.commitData (device.clients client)
            device.serialHeader.length.val)] := by
  simp only [completeFrame, expected, ne_eq, not_true_eq_false, if_false]
  split
  · simp [messageComplete, setClient, log, commitData]
  · simp [messageComplete, setClient, log, commitData, sendAck]

end Complete

section Trace

theorem Records.resetParser {allowed : Event → Prop} {later : Device}
    (records : Records allowed device later) :
    Records allowed device later.resetParser :=
  records

theorem answerProtocolInfo_records (build : Build) (device : Device) :
    Records Event.OfHandler device (device.answerProtocolInfo build) := by
  unfold answerProtocolInfo
  rw [handleProtocolInfo_eq]
  exact .of_log rfl trivial

theorem completeFrame_records (build : Build) (client : Client)
    (frameType : SerialType) {device : Device}
    (positive : 0 < device.serialHeader.length.val) :
    Records Event.OfHandler device
      (device.completeFrame build client frameType) := by
  unfold completeFrame
  dsimp only
  split
  · exact .of_log rfl trivial
  · have called : Records Event.OfHandler device
        ((device.commitData client device.serialHeader.length.val).messageComplete
          build client device.serialHeader.length.val) :=
      .of_log rfl positive
    split
    · exact called
    · exact called.trans (.of_log rfl trivial)

theorem protocolInfoStep_records (build : Build) (device : Device) :
    Records Event.OfHandler device (device.protocolInfoStep build).state := by
  by_cases failing : device.rxError = true
  · simp only [protocolInfoStep, uartFifoRead, failing, if_true]
    exact .of_trace rfl
  · simp only [protocolInfoStep, uartFifoRead, failing, Bool.false_eq_true,
      if_false]
    split
    · exact answerProtocolInfo_records build _
    · exact .of_trace rfl

theorem discardStep_records (frameType : SerialType) (device : Device) :
    Records Event.OfHandler device (device.discardStep frameType).state := by
  by_cases failing : device.rxError = true
  · simp only [discardStep, uartFifoRead, failing, if_true]
    exact .of_trace rfl
  · simp only [discardStep, uartFifoRead, failing, Bool.false_eq_true,
      if_false]
    split
    · exact .of_log rfl trivial
    · exact .of_trace rfl

/-- The handler reads no type byte and completes no empty message. -/
theorem workStep_records (build : Build) (frameType : SerialType)
    (device : Device) (missing : device.payloadMissing = true) :
    Records Event.OfHandler device
      (device.workStep build frameType).state := by
  have incomplete : device.bytesRead < device.serialHeader.length.val := by
    simpa [payloadMissing] using missing
  unfold workStep
  split
  · exact protocolInfoStep_records build device
  · split
    · exact discardStep_records frameType device
    · next client _ =>
        rcases device.clientStep_cases build client frameType missing with
          refused | same | ⟨base, -, completed | extended⟩
        · rw [refused]
          exact .of_log rfl trivial
        · rw [same]
          exact .of_trace rfl
        · rw [completed]
          apply Records.resetParser
          apply Records.trans (.of_trace (device.loaded_trace build client base
            (device.rxFifo.take _) (device.rxFifo.drop _)))
          apply completeFrame_records
          rw [loaded_serialHeader]
          omega
        · rw [extended]
          exact .of_trace (device.loaded_trace build client base _ _)

/-- The handler only adds to what the callback has recorded. -/
theorem serves_records {later : Device} (served : Serves build device later) :
    Records Event.OfHandler device.uartIrqCallback later := by
  obtain ⟨fuel, result⟩ := served
  unfold serviceRound runWork at result
  by_cases pending : device.uartIrqCallback.workPending = true
  · rw [if_pos pending] at result
    unfold serialWorkHandler at result
    dsimp only at result
    by_cases info : device.uartIrqCallback.takeWork.serialHeader.type =
        .protocolInfo ∧
          device.uartIrqCallback.takeWork.serialHeader.length.val = 0
    · rw [if_pos info, Option.some.injEq] at result
      subst result
      exact answerProtocolInfo_records build device.uartIrqCallback.takeWork
    · rw [if_neg info] at result
      refine Loop.iterate_preserves
        (Records Event.OfHandler device.uartIrqCallback) ?_ ?_ result
      · intro middle recorded missing
        exact recorded.trans (workStep_records build _ middle missing)
      · exact .of_trace rfl
  · rw [if_neg pending, Option.some.injEq] at result
    exact .of_trace (congrArg trace result.symm)

end Trace

end Device

end SerialLink
