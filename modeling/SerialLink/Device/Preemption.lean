import SerialLink.Library.Slot
import SerialLink.Device.Machine
import SerialLink.Device.Payload

/-!
# `serial_work_handler` under the receive callback

Here `uart_irq_callback` may run between any two steps of the handler, and
`k_work_submit` queues the work item once more while it is running.  A callback
between the last read and the end of the frame finds the parser in
`PARSING_STATE_DATA` and only queues the item, as it does before that read.

The callback puts a header into `serial_header` and the handler takes it out.
Unlike the host's, the handler's loop is entered again behind the frame it has
ended, on the header that was taken out.
-/

namespace SerialLink

namespace Device

/-- `buffer_size` -/
def bufferSize (device : Device) : Nat :=
  device.serialHeader.length.val - device.bytesRead

/-- The client refuses a buffer for the rest of the frame. -/
def refuses (build : Build) (frameType : SerialType) (device : Device) : Bool :=
  match serialMuxGetCallbacks build frameType with
  | none => false
  | some client =>
      client.acquireBuffer build (device.clients client) device.bufferSize =
        .refused

def requested (build : Build) (frameType : SerialType) (device : Device) :
    Nat :=
  match serialMuxGetCallbacks build frameType with
  | none => min device.bufferSize 64
  | some _ => device.bufferSize

/-- An iteration ends the frame: its client refuses it, or the last byte of its
payload is read. -/
def endsFrame (build : Build) (frameType : SerialType) (device : Device) :
    Bool :=
  device.refuses build frameType ||
    (!device.rxError && decide (device.bufferSize ≤
      min (device.requested build frameType) device.rxFifo.length))

def unreadable (device : Device) : Bool :=
  device.rxError || device.rxFifo.isEmpty

variable {build : Build} {client : Client} {frameType : SerialType}
  {device : Device}

theorem bufferSize_pos (missing : device.payloadMissing = true) :
    0 < device.bufferSize := by
  have missing : device.bytesRead < device.serialHeader.length.val := by
    simpa [payloadMissing] using missing
  unfold bufferSize
  omega

/-- What an iteration leaves of the parser, by whether it ends the frame. -/
structure Iterated (ends : Bool) (device later : Device) : Prop where
  workPending : later.workPending = device.workPending
  parsingState : later.parsingState =
    if ends then .type else device.parsingState
  serialHeader : ends = false → later.serialHeader = device.serialHeader

/-- The test behind a read asks whether it was the last of the frame. -/
theorem read_completes_iff (missing : device.payloadMissing = true)
    (count : Nat) :
    device.serialHeader.length.val ≤
        device.bytesRead + (device.rxFifo.take count).length ↔
      device.bufferSize ≤ min count device.rxFifo.length := by
  have positive := bufferSize_pos missing
  unfold bufferSize at positive ⊢
  rw [List.length_take]
  omega

theorem Iterated.ite {ends : Prop} [Decidable ends] {ended going : Device}
    (completed : Iterated true device ended)
    (continued : Iterated false device going) :
    Iterated (decide ends) device
      (if ends then Loop.Outcome.next ended else .next going).state := by
  by_cases last : ends
  · simp only [last, decide_true, if_true]
    exact completed
  · simp only [last, decide_false, if_false]
    exact continued

theorem endsFrame_of_failing (failing : device.rxError = true) :
    device.endsFrame build frameType = device.refuses build frameType := by
  simp [endsFrame, failing]

/-- The frames that are read into the handler's own buffer. -/
theorem endsFrame_of_none (healthy : device.rxError = false)
    (callbacks : serialMuxGetCallbacks build frameType = none) :
    device.endsFrame build frameType =
      decide (device.bufferSize ≤
        min (min device.bufferSize 64) device.rxFifo.length) := by
  simp [endsFrame, refuses, requested, callbacks, healthy]

theorem protocolInfoStep_iterated (missing : device.payloadMissing = true)
    (callbacks : serialMuxGetCallbacks build frameType = none) :
    Iterated (device.endsFrame build frameType) device
      (device.protocolInfoStep build).state := by
  have completes := read_completes_iff missing
    (min (device.serialHeader.length.val - device.bytesRead) 64)
  cases failing : device.rxError with
  | true =>
      simp only [protocolInfoStep, uartFifoRead, failing, if_true,
        endsFrame_of_failing failing, refuses, callbacks]
      exact ⟨rfl, rfl, fun _ => rfl⟩
  | false =>
      rw [endsFrame_of_none failing callbacks]
      simp only [protocolInfoStep, uartFifoRead, failing, Bool.false_eq_true,
        if_false, ge_iff_le, completes]
      apply Iterated.ite
      · rw [answerProtocolInfo, handleProtocolInfo_eq]
        exact ⟨rfl, rfl, by simp⟩
      · exact ⟨rfl, rfl, fun _ => rfl⟩

theorem discardStep_iterated (missing : device.payloadMissing = true)
    (callbacks : serialMuxGetCallbacks build frameType = none) :
    Iterated (device.endsFrame build frameType) device
      (device.discardStep frameType).state := by
  have completes := read_completes_iff missing
    (min (device.serialHeader.length.val - device.bytesRead) 64)
  cases failing : device.rxError with
  | true =>
      simp only [discardStep, uartFifoRead, failing, if_true,
        endsFrame_of_failing failing, refuses, callbacks]
      exact ⟨rfl, rfl, fun _ => rfl⟩
  | false =>
      rw [endsFrame_of_none failing callbacks]
      simp only [discardStep, uartFifoRead, failing, Bool.false_eq_true,
        if_false, ge_iff_le, completes]
      apply Iterated.ite
      · exact ⟨rfl, rfl, by simp⟩
      · exact ⟨rfl, rfl, fun _ => rfl⟩

theorem clientStep_iterated (missing : device.payloadMissing = true)
    (callbacks : serialMuxGetCallbacks build frameType = some client) :
    Iterated (device.endsFrame build frameType) device
      (device.clientStep build client frameType).state := by
  have positive := bufferSize_pos missing
  have completes := read_completes_iff missing device.bufferSize
  cases acquisition : client.acquireBuffer build (device.clients client)
      device.bufferSize with
  | refused =>
      have ends : device.endsFrame build frameType = true := by
        simp [endsFrame, refuses, callbacks, acquisition]
      rw [ends, clientStep_of_refused acquisition]
      exact ⟨rfl, rfl, nofun⟩
  | granted base =>
      have granted : device.refuses build frameType = false := by
        simp [refuses, callbacks, acquisition]
      cases failing : device.rxError with
      | true =>
          rw [endsFrame_of_failing failing, granted]
          simp only [bufferSize] at acquisition
          simp only [clientStep, acquisition, uartFifoRead, failing, if_true]
          exact ⟨rfl, rfl, fun _ => rfl⟩
      | false =>
          have ends : device.endsFrame build frameType =
              decide (device.bufferSize ≤
                min device.bufferSize device.rxFifo.length) := by
            simp [endsFrame, granted, requested, callbacks, failing]
          rw [ends]
          by_cases empty : device.rxFifo = []
          · have continues : ¬device.bufferSize ≤
                min device.bufferSize device.rxFifo.length := by
              rw [empty, List.length_nil]
              omega
            rw [decide_eq_false continues,
              clientStep_of_granted_empty failing empty acquisition]
            exact ⟨rfl, rfl, fun _ => rfl⟩
          · have nonempty : device.rxFifo.take device.bufferSize ≠ [] :=
              taken_ne_nil missing empty
            rw [clientStep_of_granted frameType base
              (device.rxFifo.take device.bufferSize)
              (device.rxFifo.drop device.bufferSize) failing acquisition rfl
              rfl nonempty]
            simp only [ge_iff_le, completes]
            apply Iterated.ite
            · constructor
              case workPending => simp
              case parsingState => rfl
              case serialHeader => exact nofun
            · constructor
              case workPending => simp [commitData, setClient]
              case parsingState => simp [commitData, setClient]
              case serialHeader => simp [commitData, setClient]

theorem workStep_iterated (missing : device.payloadMissing = true) :
    Iterated (device.endsFrame build frameType) device
      (device.workStep build frameType).state := by
  unfold workStep
  split
  · rename_i info
    subst info
    exact protocolInfoStep_iterated missing rfl
  · split
    · rename_i callbacks
      exact discardStep_iterated missing callbacks
    · rename_i client callbacks
      exact clientStep_iterated missing callbacks

theorem endsFrame_of_unreadable (missing : device.payloadMissing = true)
    (nothing : device.unreadable = true)
    (granted : device.refuses build frameType = false) :
    device.endsFrame build frameType = false := by
  have positive := bufferSize_pos missing
  cases failing : device.rxError with
  | true => rw [endsFrame_of_failing failing, granted]
  | false =>
      have empty : device.rxFifo = [] := by
        simpa [unreadable, failing] using nothing
      simp only [endsFrame, granted, failing, empty, List.length_nil,
        Bool.false_or, Bool.not_false, Bool.true_and, decide_eq_false_iff_not]
      omega

theorem uartFifoRead_of_unreadable (nothing : device.unreadable = true)
    (count : Nat) :
    device.uartFifoRead count = none ∨
      device.uartFifoRead count = some ([], device) := by
  cases failing : device.rxError with
  | true => exact .inl (by simp [uartFifoRead, failing])
  | false =>
      have empty : device.rxFifo = [] := by
        simpa [unreadable, failing] using nothing
      exact .inr (uartFifoRead_of_empty failing empty count)

/-- An iteration that is granted a buffer and finds nothing to read. -/
theorem workStep_of_unreadable (missing : device.payloadMissing = true)
    (nothing : device.unreadable = true)
    (granted : device.refuses build frameType = false) :
    (device.workStep build frameType).state = device := by
  have more : ¬device.bytesRead + ([] : List UInt8).length ≥
      device.serialHeader.length.val := by
    simpa [payloadMissing] using missing
  have discarding := uartFifoRead_of_unreadable nothing
    (min (device.serialHeader.length.val - device.bytesRead) 64)
  unfold workStep
  split
  · rcases discarding with read | read
    · simp only [protocolInfoStep, read]
      rfl
    · simp only [protocolInfoStep, read, more, if_false]
      rfl
  · split
    · rcases discarding with read | read
      · simp only [discardStep, read]
        rfl
      · simp only [discardStep, read, more, if_false]
        rfl
    · rename_i client callbacks
      cases acquisition : client.acquireBuffer build (device.clients client)
          (device.serialHeader.length.val - device.bytesRead) with
      | refused =>
          simp [refuses, bufferSize, callbacks, acquisition] at granted
      | granted base =>
          rcases uartFifoRead_of_unreadable nothing
              (device.serialHeader.length.val - device.bytesRead) with
            read | read
          · simp only [clientStep, acquisition, read]
            rfl
          · simp only [clientStep, acquisition, read, List.length_nil,
              if_true]
            rfl

/-- The callback queues the work item behind a header. -/
theorem uartIrqCallback_workPending (device : Device) :
    device.uartIrqCallback.workPending =
      (device.workPending ||
        decide (device.uartIrqCallback.parsingState = .data)) := by
  have drained := (drainHeader_uart device.rxFifo device).2
  unfold uartIrqCallback
  dsimp only
  split
  · split
    · rename_i inData
      simp [submitWork, inData]
    · rename_i outside
      simp [outside]
  · split
    · rename_i inData
      simp [submitWork, inData]
    · rename_i outside
      simp [outside, drained]

end Device

/-- Where the work queue stands in `serial_work_handler`, with the `frame_type`
it has read. -/
inductive Position where
  | idle
  /-- At the test for a `PROTOCOL_INFO` frame without payload. -/
  | entered (frameType : SerialType)
  | looping (frameType : SerialType)
  deriving DecidableEq, Repr

def Position.ofHandling : Option SerialType → Position
  | none => .idle
  | some frameType => .looping frameType

structure DeviceWork where
  device : Device
  position : Position
  /-- The headers behind which the parser entered `PARSING_STATE_DATA`. -/
  parsed : List SerialHeader
  /-- The headers of the frames that have been ended, with the type they were
  ended under. -/
  ended : List SerialHeader

namespace DeviceWork

inductive Label where
  | arrive (bytes : List UInt8)
  /-- `uart_fifo_read` begins or ceases to fail. -/
  | uart (failing : Bool)
  /-- A proxy's own thread. -/
  | proxy (client : Client) (state : ClientState)
  | interrupt
  | start
  /-- The handler's test for an empty `PROTOCOL_INFO` frame, or an iteration
  of its loop. -/
  | advance
  | serialSendFrame (type : SerialType) (error : ErrorType) (noAck : Bool)
      (payload : List UInt8)

def Label.ofHandler : Label → Bool
  | .start => true
  | .advance => true
  | _ => false

def interrupt (work : DeviceWork) : DeviceWork :=
  let device := work.device.uartIrqCallback
  { work with
    device
    parsed :=
      if work.device.parsingState ≠ .data ∧ device.parsingState = .data then
        work.parsed ++ [device.serialHeader]
      else work.parsed }

/-- The next step of the handler ends the frame. -/
def ending (build : Build) (work : DeviceWork) : Bool :=
  match work.position with
  | .idle => false
  | .entered frameType =>
      frameType = .protocolInfo ∧ work.device.serialHeader.length.val = 0
  | .looping frameType =>
      work.device.payloadMissing && work.device.endsFrame build frameType

def endFrame (work : DeviceWork) (frameType : SerialType) : List SerialHeader :=
  work.ended ++ [{ work.device.serialHeader with type := frameType }]

def advance (build : Build) (work : DeviceWork) : Option DeviceWork :=
  match work.position with
  | .idle => none
  | .entered frameType =>
      if frameType = .protocolInfo ∧
          work.device.serialHeader.length.val = 0 then
        some { work with
          device := work.device.answerProtocolInfo build
          position := .idle
          ended := work.endFrame frameType }
      else some { work with position := .looping frameType }
  | .looping frameType =>
      let later := Receiver.iterate build frameType work.device
      some { work with
        device := later.device
        position := .ofHandling later.handling
        ended :=
          if work.ending build then work.endFrame frameType else work.ended }

def step (build : Build) (work : DeviceWork) : Label → Option DeviceWork
  | .arrive bytes => some { work with device := work.device.arrive bytes }
  | .uart failing =>
      some { work with device := { work.device with rxError := failing } }
  | .proxy client state =>
      some { work with device := work.device.setClient client state }
  | .interrupt => some work.interrupt
  | .start =>
      if work.position = .idle ∧ work.device.workPending then
        some { work with
          device := work.device.takeWork
          position := .entered work.device.serialHeader.type }
      else none
  | .advance => work.advance build
  | .serialSendFrame type error noAck payload =>
      match work.device.serialSendFrame type error noAck payload with
      | .ok device => some { work with device }
      | .error _ => some work

def boot : DeviceWork where
  device := Device.boot
  position := .idle
  parsed := []
  ended := []

/-- Entered again behind the frame it has ended, the loop finds nothing to
read and the client grants it the buffer. -/
def leaves (build : Build) (work : DeviceWork) : Bool :=
  match work.position with
  | .looping frameType =>
      !work.device.payloadMissing ||
        (work.device.unreadable && !work.device.refuses build frameType)
  | _ => true

/-- A frame is not ended while the work item is queued again, and the loop is
left without effect when it is entered again. -/
def EndsUnqueued (build : Build) (work : DeviceWork) : Label → Prop
  | .advance =>
      if work.device.parsingState = .data then
        work.ending build = true → work.device.workPending = false
      else work.leaves build = true
  | _ => True

/-- `serial_header` as a place for one header. -/
def slot (work : DeviceWork) : Slot SerialHeader where
  content :=
    if work.device.parsingState = .data then some work.device.serialHeader
    else none
  puts := work.parsed
  takes := work.ended

/-- Nothing is read, sent or handed to a client, and no frame is ended. -/
structure Quiet (work later : DeviceWork) : Prop where
  rxFifo : later.device.rxFifo = work.device.rxFifo
  consumed : later.device.consumed = work.device.consumed
  clients : later.device.clients = work.device.clients
  trace : later.device.trace = work.device.trace
  ended : later.ended = work.ended

/-- The handler does nothing outside a payload, and every header parsed is
that of one frame ended, but for the one whose payload is being read. -/
structure Harmless (build : Build) (work : DeviceWork) : Prop where
  quiet : ∀ label later, EndsUnqueued build work label →
    label.ofHandler = true → work.step build label = some later →
      work.device.parsingState ≠ .data → Quiet work later
  once : work.slot.Balanced

variable {build : Build} {work later : DeviceWork} {label : Label}

theorem advance_begin
    (entered : work.position = .entered work.device.serialHeader.type) :
    ∃ final, work.advance build = some final ∧
      final.device = (Receiver.begin build work.device).device ∧
      final.position =
        .ofHandling (Receiver.begin build work.device).handling := by
  unfold advance Receiver.begin
  rw [entered]
  dsimp only
  split
  · exact ⟨_, rfl, rfl, rfl⟩
  · exact ⟨_, rfl, rfl, rfl⟩

theorem advance_iterate {frameType : SerialType}
    (looping : work.position = .looping frameType) :
    ∃ final, work.advance build = some final ∧
      final.device = (Receiver.iterate build frameType work.device).device ∧
      final.position = .ofHandling
        (Receiver.iterate build frameType work.device).handling := by
  unfold advance
  rw [looping]
  exact ⟨_, rfl, rfl, rfl⟩

/-- A step of the receiver that no callback interrupts is a run of this
machine. -/
theorem exec_receiver {handling : Option SerialType} {next : Receiver}
    {action : Receiver.Action} (position : work.position = .ofHandling handling)
    (stepped : Receiver.step build { device := work.device, handling } action =
      some next) :
    ∃ labels final, Run.exec (step build) work labels = some final ∧
      final.device = next.device ∧
      final.position = .ofHandling next.handling := by
  cases action with
  | callback =>
      cases handling with
      | some frameType => cases stepped
      | none =>
          cases stepped
          exact ⟨[.interrupt], work.interrupt, rfl, rfl, position⟩
  | begin =>
      cases handling with
      | some frameType => cases stepped
      | none =>
          simp only [Receiver.step, Option.ite_none_right_eq_some,
            Option.some.injEq] at stepped
          obtain ⟨pending, rfl⟩ := stepped
          have idle : work.position = .idle := position
          let started : DeviceWork :=
            { work with
              device := work.device.takeWork
              position := .entered work.device.serialHeader.type }
          have start : work.step build .start = some started := by
            simp [step, idle, pending, started]
          obtain ⟨final, advanced, device, handled⟩ :=
            @advance_begin build started rfl
          refine ⟨[.start, .advance], final, ?_, device, handled⟩
          simp only [Run.exec, start]
          rw [step, advanced]
  | iterate =>
      cases handling with
      | none => cases stepped
      | some frameType =>
          cases stepped
          obtain ⟨final, advanced, device, handled⟩ :=
            @advance_iterate build work frameType position
          refine ⟨[.advance], final, ?_, device, handled⟩
          simp only [Run.exec, step, advanced]

/-- The invariant of the runs in which no frame is ended with the work item
queued again. -/
structure InStep (work : DeviceWork) : Prop where
  queued : work.device.workPending = true → work.device.parsingState = .data
  entered : ∀ frameType, work.position = .entered frameType →
    work.device.parsingState = .data ∧
      work.device.serialHeader.type = frameType
  /-- A frame whose header came while the handler was in its loop has queued
  the work item. -/
  looping : ∀ frameType, work.position = .looping frameType →
    work.device.parsingState = .data → work.device.workPending = false →
      work.device.serialHeader.type = frameType

/-- The fields the callback and the work item share are the same. -/
structure SameParser (device later : Device) : Prop where
  parsingState : later.parsingState = device.parsingState
  serialHeader : later.serialHeader = device.serialHeader
  workPending : later.workPending = device.workPending

/-- A step is one of the place for a header, and keeps the invariant. -/
def Simulates (work later : DeviceWork) : Prop :=
  InStep later ∧ Slot.Step work.slot later.slot

/-- A step that leaves the parser alone, and the handler where it is, in its
loop or idle. -/
theorem simulates_of_sameParser (inStep : InStep work)
    (same : SameParser work.device later.device)
    (position : later.position = work.position ∨ later.position = .idle)
    (parsed : later.parsed = work.parsed) (ended : later.ended = work.ended) :
    Simulates work later := by
  constructor
  · constructor
    case queued =>
      rw [same.workPending, same.parsingState]
      exact inStep.queued
    case entered =>
      intro frameType entered
      rw [same.parsingState, same.serialHeader]
      rcases position with kept | idle
      · exact inStep.entered frameType (kept ▸ entered)
      · rw [idle] at entered
        cases entered
    case looping =>
      intro frameType looping
      rw [same.parsingState, same.serialHeader, same.workPending]
      rcases position with kept | idle
      · exact inStep.looping frameType (kept ▸ looping)
      · rw [idle] at looping
        cases looping
  · have unchanged : later.slot = work.slot := by
      simp only [slot, same.parsingState, same.serialHeader, parsed, ended]
    rw [unchanged]
    exact .rest

/-- The callback puts a header into the place if it is empty. -/
theorem simulates_interrupt (inStep : InStep work) :
    Simulates work work.interrupt := by
  by_cases inData : work.device.parsingState = .data
  · have queued := Device.uartIrqCallback_of_data inData
    constructor
    · exact
        { queued := fun _ => by
            simp [interrupt, queued, Device.submitWork, inData]
          entered := by
            simpa [interrupt, queued, Device.submitWork] using inStep.entered
          looping := by simp [interrupt, queued, Device.submitWork] }
    · have same : work.interrupt.slot = work.slot := by
        simp [slot, interrupt, queued, Device.submitWork, inData]
      rw [same]
      exact .rest
  · have pending := work.device.uartIrqCallback_workPending
    have idle : work.device.workPending = false := by
      simpa [inData] using inStep.queued
    rw [idle, Bool.false_or] at pending
    constructor
    · exact
        { queued := by simp [interrupt, pending]
          entered := fun frameType entered =>
            absurd (inStep.entered frameType entered).1 inData
          looping := by
            intro frameType _ filled unqueued
            simp only [interrupt] at filled unqueued
            simp [pending, filled] at unqueued }
    · by_cases filled : work.device.uartIrqCallback.parsingState = .data
      · have put : work.interrupt.slot =
            { work.slot with
              content := some work.device.uartIrqCallback.serialHeader
              puts := work.slot.puts ++
                [work.device.uartIrqCallback.serialHeader] } := by
          simp [slot, interrupt, inData, filled]
        rw [put]
        exact .put _ (by simp [slot, inData])
      · have same : work.interrupt.slot = work.slot := by
          simp [slot, interrupt, inData, filled]
        rw [same]
        exact .rest

theorem simulates_ended {frameType : SerialType}
    (inData : work.device.parsingState = .data)
    (same : work.device.serialHeader.type = frameType)
    (unqueued : later.device.workPending = false)
    (reset : later.device.parsingState = .type)
    (position : ∀ frameType, later.position ≠ .entered frameType)
    (parsed : later.parsed = work.parsed)
    (ended : later.ended = work.endFrame frameType) :
    Simulates work later := by
  constructor
  · exact
      { queued := by simp [unqueued]
        entered := fun frameType entered => absurd entered (position frameType)
        looping := by simp [reset] }
  · have full : work.slot.content = some work.device.serialHeader := by
      simp [slot, inData]
    subst same
    simpa [slot, reset, parsed, ended, endFrame] using Slot.Step.take full

theorem answerProtocolInfo_resets (build : Build) (device : Device) :
    (device.answerProtocolInfo build).parsingState = .type ∧
      (device.answerProtocolInfo build).workPending = device.workPending := by
  rw [Device.answerProtocolInfo, Device.handleProtocolInfo_eq]
  exact ⟨rfl, rfl⟩

theorem simulates_entered {frameType : SerialType} (inStep : InStep work)
    (entered : work.position = .entered frameType)
    (unqueued : EndsUnqueued build work .advance)
    (advanced : work.advance build = some later) : Simulates work later := by
  obtain ⟨inData, same⟩ := inStep.entered frameType entered
  simp only [EndsUnqueued, inData, if_true, ending, entered,
    decide_eq_true_eq] at unqueued
  unfold advance at advanced
  rw [entered] at advanced
  dsimp only at advanced
  split at advanced
  · rename_i info
    cases advanced
    obtain ⟨reset, pending⟩ := answerProtocolInfo_resets build work.device
    exact simulates_ended inData same (pending.trans (unqueued info)) reset
      nofun rfl rfl
  · cases advanced
    exact
      ⟨{ queued := inStep.queued
         entered := nofun
         looping := by
          rintro other moved - -
          cases moved
          exact same }, .rest⟩

theorem ofHandling_ne_entered (handling : Option SerialType)
    (frameType : SerialType) :
    Position.ofHandling handling ≠ .entered frameType := by
  cases handling <;> exact nofun

theorem simulates_looping {frameType : SerialType} (inStep : InStep work)
    (looping : work.position = .looping frameType)
    (unqueued : EndsUnqueued build work .advance)
    (advanced : work.advance build = some later) : Simulates work later := by
  simp only [EndsUnqueued, ending, leaves, looping] at unqueued
  simp only [advance, looping, ending, Option.some.injEq] at advanced
  subst advanced
  rcases Receiver.iterate_cases build frameType work.device with
    ⟨complete, iterated⟩ | ⟨missing, iterated, handling⟩
  · rw [iterated]
    refine simulates_of_sameParser inStep ⟨rfl, rfl, rfl⟩ (.inr rfl) rfl ?_
    simp [complete]
  · have position : Position.ofHandling
          (Receiver.iterate build frameType work.device).handling =
            work.position ∨
        Position.ofHandling
          (Receiver.iterate build frameType work.device).handling = .idle := by
      rcases handling with stopped | continued
      · exact .inr (by rw [stopped]; rfl)
      · exact .inl (by rw [continued, looping]; rfl)
    have behind : Device.Iterated (work.device.endsFrame build frameType)
        work.device (work.device.workStep build frameType).state :=
      Device.workStep_iterated missing
    simp only [missing, Bool.true_and, Bool.not_true, Bool.false_or,
      Bool.and_eq_true, Bool.not_eq_true'] at unqueued
    by_cases inData : work.device.parsingState = .data
    · rw [if_pos inData] at unqueued
      cases ends : work.device.endsFrame build frameType with
      | true =>
          have idle := unqueued ends
          rw [ends] at behind
          refine simulates_ended inData
            (inStep.looping frameType looping inData idle) ?_ ?_
            (ofHandling_ne_entered _) rfl ?_
          · rw [iterated, behind.workPending, idle]
          · rw [iterated, behind.parsingState]
            rfl
          · simp [missing]
      | false =>
          rw [ends] at behind
          refine simulates_of_sameParser inStep ?_ position rfl ?_
          · rw [iterated]
            exact ⟨behind.parsingState, behind.serialHeader rfl,
              behind.workPending⟩
          · simp
    · rw [if_neg inData] at unqueued
      obtain ⟨nothing, granted⟩ := unqueued
      have same := Device.workStep_of_unreadable missing nothing granted
      have continues :=
        Device.endsFrame_of_unreadable missing nothing granted
      refine simulates_of_sameParser inStep ?_ position rfl ?_
      · rw [iterated, same]
        exact ⟨rfl, rfl, rfl⟩
      · simp [continues]

theorem simulates_step (inStep : InStep work)
    (unqueued : EndsUnqueued build work label)
    (stepped : work.step build label = some later) :
    Simulates work later := by
  cases label with
  | arrive bytes =>
      cases stepped
      exact simulates_of_sameParser inStep ⟨rfl, rfl, rfl⟩ (.inl rfl) rfl rfl
  | uart failing =>
      cases stepped
      exact simulates_of_sameParser inStep ⟨rfl, rfl, rfl⟩ (.inl rfl) rfl rfl
  | proxy client state =>
      cases stepped
      exact simulates_of_sameParser inStep ⟨rfl, rfl, rfl⟩ (.inl rfl) rfl rfl
  | interrupt =>
      cases stepped
      exact simulates_interrupt inStep
  | start =>
      simp only [step, Option.ite_none_right_eq_some, Option.some.injEq]
        at stepped
      obtain ⟨⟨-, pending⟩, rfl⟩ := stepped
      have inData := inStep.queued pending
      exact
        ⟨{ queued := nofun
           entered := by
            rintro frameType started
            cases started
            exact ⟨inData, rfl⟩
           looping := nofun }, .rest⟩
  | advance =>
      cases position : work.position with
      | idle => simp [step, advance, position] at stepped
      | entered frameType =>
          exact simulates_entered inStep position unqueued stepped
      | looping frameType =>
          exact simulates_looping inStep position unqueued stepped
  | serialSendFrame type error noAck payload =>
      simp only [step, Device.serialSendFrame] at stepped
      split at stepped
      · rename_i device sent
        cases stepped
        split at sent
        · cases sent
        · cases sent
          exact simulates_of_sameParser inStep ⟨rfl, rfl, rfl⟩ (.inl rfl) rfl
            rfl
      · cases stepped
        exact simulates_of_sameParser inStep ⟨rfl, rfl, rfl⟩ (.inl rfl) rfl rfl

theorem inStep_boot : InStep boot where
  queued := nofun
  entered := nofun
  looping := nofun

/-- Outside a payload the handler is at most in its loop, and leaves it. -/
theorem InStep.quiet (inStep : InStep work)
    (unqueued : EndsUnqueued build work label)
    (outside : work.device.parsingState ≠ .data)
    (handler : label.ofHandler = true)
    (stepped : work.step build label = some later) : Quiet work later := by
  cases label with
  | start =>
      simp only [step, Option.ite_none_right_eq_some] at stepped
      exact absurd (inStep.queued stepped.1.2) outside
  | advance =>
      cases position : work.position with
      | idle => simp [step, advance, position] at stepped
      | entered frameType =>
          exact absurd (inStep.entered frameType position).1 outside
      | looping frameType =>
          simp only [EndsUnqueued, outside, if_false, leaves, position]
            at unqueued
          simp only [step, advance, position, ending, Option.some.injEq]
            at stepped
          subst stepped
          rcases Receiver.iterate_cases build frameType work.device with
            ⟨complete, iterated⟩ | ⟨missing, iterated, -⟩
          · rw [iterated]
            exact ⟨rfl, rfl, rfl, rfl, by simp [complete]⟩
          · simp only [missing, Bool.not_true, Bool.false_or,
              Bool.and_eq_true, Bool.not_eq_true'] at unqueued
            obtain ⟨nothing, granted⟩ := unqueued
            have same := Device.workStep_of_unreadable missing nothing granted
            have continues :=
              Device.endsFrame_of_unreadable missing nothing granted
            rw [iterated, same]
            exact ⟨rfl, rfl, rfl, rfl, by simp [continues]⟩
  | _ => cases handler

theorem harmless_reached {labels : List Label}
    (run : Run.GuardedRun (step build) (EndsUnqueued build) boot labels work) :
    Harmless build work := by
  obtain ⟨inStep, balanced⟩ := Slot.balanced_of_run
    (fun _ _ _ inStep unqueued stepped =>
      simulates_step inStep unqueued stepped)
    run inStep_boot rfl
  constructor
  case quiet =>
    intro label later unqueued handler stepped outside
    exact inStep.quiet unqueued outside handler stepped
  case once => exact balanced

end DeviceWork

end SerialLink
