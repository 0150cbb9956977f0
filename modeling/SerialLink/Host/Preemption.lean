import SerialLink.Library.Slot
import SerialLink.Host.Send

/-!
# `bus_rx_work` under the receive interrupt

Here `bus_rx_isr` may run between any two steps of `bus_rx_work`, and
`k_work_submit` queues the work item once more while it is running.  An
interrupt between the last read and the end of the frame finds the parser in
`PARSING_STATE_DATA`, and so only queues the item.

The interrupt puts a header into `hdr` and the handler takes it out: the bus is
a place for one header as long as the handler ends no frame with its work item
queued again.
-/

namespace SerialLink

namespace Bus

/-- `completeFrame` with the `type` `bus_rx_work` has read at its start. -/
def completeAs (bus : Bus) (type : SerialType) : Bus :=
  match busValidateRx bus.hdr with
  | .error _ => bus.resetParser
  | .ok () =>
      if bus.hdr.length.val = 0 then
        (if bus.requestPending then bus.wake else bus).resetParser
      else
        let bus := bus.recordFrame.acknowledge
        (if bus.requestPending then bus.wake
          else bus.callHandler type
            (bus.rxPayload bus.hdr.length.val)).resetParser

theorem recordFrame_acknowledge_hdr (bus : Bus) :
    bus.recordFrame.acknowledge.hdr = bus.hdr := by
  unfold acknowledge
  split <;> rfl

theorem completeAs_type (bus : Bus) :
    bus.completeAs bus.hdr.type = bus.completeFrame := by
  have header := recordFrame_acknowledge_hdr bus
  unfold completeAs completeFrame
  cases busValidateRx bus.hdr with
  | error errno => rfl
  | ok valid => simp only [dispatchData, deliver, header]

@[simp] theorem completeAs_state (bus : Bus) (type : SerialType) :
    (bus.completeAs type).state = .type := by
  unfold completeAs
  split
  · rfl
  · split <;> rfl

theorem completeAs_receiver (bus : Bus) (type : SerialType) :
    (bus.completeAs type).rxWorkPending = bus.rxWorkPending ∧
      (bus.completeAs type).opened = bus.opened := by
  simp only [completeAs, acknowledge]
  split
  · exact ⟨rfl, rfl⟩
  · split
    · split <;> exact ⟨rfl, rfl⟩
    · split <;> split <;> exact ⟨rfl, rfl⟩

/-- Inside a payload the interrupt only queues the work item. -/
theorem busRxIsr_of_data {bus : Bus} (inData : bus.state = .data) :
    bus.busRxIsr = { bus with rxWorkPending := true } := by
  have drained : drainHeader bus.rxFifo bus = bus :=
    drainHeader_of_data inData bus.rxFifo
  simp only [busRxIsr, drained, inData, if_true]

private theorem parseHeaderByte_opened (bus : Bus) (byte : UInt8) :
    (bus.parseHeaderByte byte).opened = bus.opened := by
  unfold parseHeaderByte
  dsimp only
  split <;> try rfl
  split
  · rfl
  · split <;> rfl

theorem busRxIsr_work (bus : Bus) :
    bus.busRxIsr.rxWorkPending =
        (bus.rxWorkPending || decide (bus.busRxIsr.state = .data)) ∧
      bus.busRxIsr.opened = bus.opened := by
  have pending : (drainHeader bus.rxFifo bus).rxWorkPending =
      bus.rxWorkPending := by
    have same := congrArg rxWorkPending
      (drainHeader_pending bus.rxFifo bus bus.rxWorkPending)
    exact same
  have opened : (drainHeader bus.rxFifo bus).opened = bus.opened :=
    drainHeader_preserves (fun later => later.opened = bus.opened)
      (fun later byte kept => (parseHeaderByte_opened later byte).trans kept)
      (fun _ _ kept => kept) rfl bus.rxFifo
  unfold busRxIsr
  dsimp only
  split
  · rename_i inData
    exact ⟨by simp [inData], opened⟩
  · rename_i outside
    exact ⟨by simp [outside, pending], opened⟩

/-- The fields the interrupt and the work item share are the same. -/
structure SameReceiver (bus later : Bus) : Prop where
  rxFifo : later.rxFifo = bus.rxFifo
  state : later.state = bus.state
  hdr : later.hdr = bus.hdr
  bytesRead : later.bytesRead = bus.bytesRead
  rxWorkPending : later.rxWorkPending = bus.rxWorkPending
  opened : later.opened = bus.opened

theorem SameReceiver.finishSync {bus middle : Bus}
    (same : SameReceiver bus middle) (outcome : Except Errno Unit)
    (caller : SyncCaller) :
    SameReceiver bus (middle.finishSync outcome caller) := by
  obtain ⟨rxFifo, state, hdr, bytesRead, rxWorkPending, opened⟩ := same
  cases caller with
  | busOpen => exact ⟨rxFifo, state, hdr, bytesRead, rxWorkPending, opened⟩
  | busRequest call attempt =>
      cases outcome with
      | ok _ => exact ⟨rxFifo, state, hdr, bytesRead, rxWorkPending, opened⟩
      | error _ =>
          exact ⟨rxFifo, state, hdr, bytesRead, rxWorkPending, opened⟩

/-- `bus_request` and `bus_sync` leave the receiver alone. -/
theorem sameReceiver_advances {bus later : Bus}
    (advances : Advances bus later) : SameReceiver bus later := by
  cases advances with
  | endQueries position =>
      exact SameReceiver.finishSync ⟨rfl, rfl, rfl, rfl, rfl, rfl⟩ _ _
  | readResponse position =>
      rw [readResponse]
      split
      · apply SameReceiver.finishSync
        exact ⟨rfl, rfl, rfl, rfl, rfl, rfl⟩
      · apply SameReceiver.finishSync
        exact ⟨rfl, rfl, rfl, rfl, rfl, rfl⟩
  | drainToken position given =>
      rw [discardFrame_eq]
      exact ⟨rfl, rfl, rfl, rfl, rfl, rfl⟩
  | rejectResponse position =>
      rw [discardFrame_eq]
      exact ⟨rfl, rfl, rfl, rfl, rfl, rfl⟩
  | _ => exact ⟨rfl, rfl, rfl, rfl, rfl, rfl⟩

/-- The steps of the receiver are not taken through the thread's machine. -/
def Label.ofThread : Label → Bool
  | .receive _ => false
  | .readPart _ _ => false
  | _ => true

/-- `bus_open` resets the parser of a bus that is not open. -/
theorem sameReceiver_step {bus later : Bus} {label : Label}
    (stepped : bus.step label = some later)
    (ofThread : label.ofThread = true) :
    SameReceiver bus later ∨
      bus.opened = false ∧ later = bus.beginOpen := by
  cases label with
  | advance => exact .inl (sameReceiver_advances (advances_of_advance stepped))
  | expire =>
      cases steps_of_expire stepped with
      | expireRequest position => exact .inl ⟨rfl, rfl, rfl, rfl, rfl, rfl⟩
      | expireSync position => exact .inl ⟨rfl, rfl, rfl, rfl, rfl, rfl⟩
  | receive frame => cases ofThread
  | readPart frame count => cases ofThread
  | busRequest call =>
      simp only [step, Option.ite_none_right_eq_some, Option.some.injEq,
        busRequest] at stepped
      obtain ⟨-, rfl⟩ := stepped
      left
      split <;> exact ⟨rfl, rfl, rfl, rfl, rfl, rfl⟩
  | busOpen =>
      simp only [step, Option.ite_none_right_eq_some, Option.some.injEq,
        busOpen] at stepped
      obtain ⟨-, rfl⟩ := stepped
      split
      · exact .inl ⟨rfl, rfl, rfl, rfl, rfl, rfl⟩
      · rename_i closed
        exact .inr ⟨Bool.eq_false_iff.mpr closed, rfl⟩

/-- Behind a read the payload is complete or the FIFO empty. -/
theorem readPayload_settled (bus : Bus)
    (missing : bus.readPayload.bytesRead < bus.readPayload.hdr.length.val) :
    bus.readPayload.rxFifo = [] := by
  simp only [readPayload, List.length_take] at missing ⊢
  rw [List.drop_eq_nil_iff]
  omega

theorem readPayload_of_none {bus : Bus}
    (none : bus.hdr.length.val ≤ bus.bytesRead ∨ bus.rxFifo = []) :
    bus.readPayload = bus := by
  rcases none with complete | empty
  · simp [readPayload, Nat.sub_eq_zero_of_le complete]
  · simp only [readPayload, empty, List.take_nil, List.drop_nil,
      Region.store_nil, List.length_nil, Nat.add_zero]
    rw [← empty]

end Bus

/-- The bus and, while `bus_rx_work` is running, the `type` it has read. -/
structure BusWork where
  bus : Bus
  running : Option SerialType
  /-- The headers behind which the parser entered `PARSING_STATE_DATA`. -/
  parsed : List SerialHeader
  /-- The headers of the frames that have been ended, with the type they were
  ended under. -/
  ended : List SerialHeader

namespace BusWork

inductive Label where
  | arrive (bytes : List UInt8)
  | interrupt
  | start
  /-- A read of `bus_rx_work`, or what it does behind the payload. -/
  | advance
  /-- A read of `bus_rx_work` returns a negative code. -/
  | fail
  | thread (label : Bus.Label)
  | busSend (type : SerialType) (payload : List UInt8)

def Label.ofHandler : Label → Bool
  | .start => true
  | .advance => true
  | .fail => true
  | _ => false

def interrupt (work : BusWork) : BusWork :=
  let bus := work.bus.busRxIsr
  { work with
    bus
    parsed :=
      if work.bus.state ≠ .data ∧ bus.state = .data then
        work.parsed ++ [bus.hdr]
      else work.parsed }

/-- `bytes_read < hdr.length` -/
def payloadMissing (work : BusWork) : Bool :=
  work.bus.bytesRead < work.bus.hdr.length.val

def advance (work : BusWork) (type : SerialType) : BusWork :=
  if work.payloadMissing then
    -- An empty read leaves the loop, and then the handler.
    if work.bus.rxFifo = [] then { work with running := none }
    else { work with bus := work.bus.readPayload }
  else
    { work with
      bus := work.bus.completeAs type
      running := none
      ended := work.ended ++ [{ work.bus.hdr with type }] }

/-- The interrupt is enabled by `bus_open`. -/
def step (work : BusWork) : Label → Option BusWork
  | .arrive bytes =>
      some { work with
        bus := { work.bus with rxFifo := work.bus.rxFifo ++ bytes } }
  | .interrupt => if work.bus.opened then some work.interrupt else none
  | .start =>
      if work.running = none ∧ work.bus.rxWorkPending then
        some { work with
          bus := work.bus.takeWork
          running := some work.bus.hdr.type }
      else none
  | .advance => work.running.map work.advance
  | .fail =>
      if work.running ≠ none ∧ work.payloadMissing then
        some { work with running := none }
      else none
  | .thread label =>
      if label.ofThread then
        (work.bus.step label).map fun bus => { work with bus }
      else none
  | .busSend type payload =>
      match work.bus.busSend type payload with
      | .ok bus => some { work with bus }
      | .error _ => some work

def boot (handler : SerialType → Bool) : BusWork where
  bus := Bus.boot handler
  running := none
  parsed := []
  ended := []

/-- A frame is not ended while the work item is queued again. -/
def EndsUnqueued (work : BusWork) : Label → Prop
  | .advance => work.payloadMissing = false → work.bus.rxWorkPending = false
  | _ => True

/-- `hdr` as a place for one header. -/
def slot (work : BusWork) : Slot SerialHeader where
  content := if work.bus.state = .data then some work.bus.hdr else none
  puts := work.parsed
  takes := work.ended

/-- Nothing is read, sent, handed over or given, and no frame is ended.  It is
only where a frame is ended that `rx_sem` is given. -/
structure Quiet (work later : BusWork) : Prop where
  rxFifo : later.bus.rxFifo = work.bus.rxFifo
  wire : later.bus.wire = work.bus.wire
  received : later.bus.received = work.bus.received
  disposals : later.bus.disposals = work.bus.disposals
  rxSem : later.bus.rxSem = work.bus.rxSem
  lastHdr : later.bus.lastHdr = work.bus.lastHdr
  ended : later.ended = work.ended

/-- The handler does nothing outside a payload, and every header parsed is
that of one frame ended, but for the one whose payload is being read. -/
structure Harmless (work : BusWork) : Prop where
  quiet : ∀ label later, label.ofHandler = true →
    work.step label = some later → work.bus.state ≠ .data → Quiet work later
  once : work.slot.Balanced

variable {work later : BusWork} {label : Label}

theorem exec_settled {type : SerialType} (running : work.running = some type)
    (same : work.bus.hdr.type = type)
    (settled : work.payloadMissing = true → work.bus.rxFifo = []) :
    ∃ final, Run.exec step work [.advance] = some final ∧
      final.running = none ∧
      final.bus =
        if work.bus.bytesRead < work.bus.hdr.length.val then work.bus
        else work.bus.completeFrame := by
  refine ⟨work.advance type, by simp [Run.exec, step, running], ?_⟩
  by_cases missing : work.bus.bytesRead < work.bus.hdr.length.val
  · simp only [payloadMissing, missing, decide_true, true_implies] at settled
    simp [advance, payloadMissing, missing, settled]
  · rw [← same]
    simp [advance, payloadMissing, missing, Bus.completeAs_type]

/-- Without interrupts the steps of the handler are `bus_rx_work`. -/
theorem exec_busRxWork (idle : work.running = none)
    (pending : work.bus.rxWorkPending = true) :
    ∃ labels final, Run.exec step work labels = some final ∧
      final.running = none ∧ final.bus = work.bus.takeWork.busRxWork := by
  let started : BusWork :=
    { work with bus := work.bus.takeWork, running := some work.bus.hdr.type }
  have start : work.step .start = some started := by
    simp [step, idle, pending, started]
  by_cases reads : started.payloadMissing = true ∧ started.bus.rxFifo ≠ []
  · let read : BusWork := { started with bus := started.bus.readPayload }
    have advanced : started.step .advance = some read := by
      simp [step, started, advance, reads, read]
    have settled : read.payloadMissing = true → read.bus.rxFifo = [] := by
      intro missing
      exact Bus.readPayload_settled started.bus (of_decide_eq_true missing)
    obtain ⟨final, executed, stopped, reached⟩ :=
      @exec_settled read _ rfl rfl settled
    refine ⟨[.start, .advance, .advance], final, ?_, stopped, reached⟩
    rw [Run.exec, start]
    simp only [Run.exec, advanced]
    exact executed
  · have settled : started.payloadMissing = true → started.bus.rxFifo = [] := by
      intro missing
      by_contra nonempty
      exact reads ⟨missing, nonempty⟩
    obtain ⟨final, executed, stopped, reached⟩ :=
      @exec_settled started _ rfl rfl settled
    refine ⟨[.start, .advance], final, ?_, stopped, ?_⟩
    · rw [Run.exec, start]
      exact executed
    · have unread : started.bus.readPayload = started.bus := by
        apply Bus.readPayload_of_none
        by_cases missing : started.payloadMissing = true
        · exact .inr (settled missing)
        · exact .inl (by simpa [payloadMissing] using missing)
      rw [reached]
      show _ = Bus.busRxWork started.bus
      rw [Bus.busRxWork, unread]

/-- The invariant of the runs in which no frame is ended with the work item
queued again. -/
structure InStep (work : BusWork) : Prop where
  queued : work.bus.rxWorkPending = true → work.bus.state = .data
  running : ∀ type, work.running = some type →
    work.bus.state = .data ∧ work.bus.hdr.type = type
  /-- `bus_open` finds the receiver at rest. -/
  closed : work.bus.opened = false → work.bus.state = .type

theorem InStep.of_sameReceiver (inStep : InStep work)
    (same : Bus.SameReceiver work.bus later.bus)
    (running : later.running = work.running) : InStep later where
  queued := by
    rw [same.rxWorkPending, same.state]
    exact inStep.queued
  running := by
    rw [running, same.state, same.hdr]
    exact inStep.running
  closed := by
    rw [same.opened, same.state]
    exact inStep.closed

theorem slot_of_sameReceiver (same : Bus.SameReceiver work.bus later.bus)
    (parsed : later.parsed = work.parsed) (ended : later.ended = work.ended) :
    later.slot = work.slot := by
  simp only [slot, same.state, same.hdr, parsed, ended]

/-- A step is one of the place for a header, and keeps the invariant. -/
def Simulates (work later : BusWork) : Prop :=
  InStep later ∧ Slot.Step work.slot later.slot

theorem simulates_of_sameReceiver (inStep : InStep work)
    (same : Bus.SameReceiver work.bus later.bus)
    (running : later.running = work.running)
    (parsed : later.parsed = work.parsed) (ended : later.ended = work.ended) :
    Simulates work later := by
  refine ⟨inStep.of_sameReceiver same running, ?_⟩
  rw [slot_of_sameReceiver same parsed ended]
  exact .rest

/-- The interrupt puts a header into the place if it is empty. -/
theorem simulates_interrupt (inStep : InStep work)
    (opened : work.bus.opened = true) : Simulates work work.interrupt := by
  by_cases inData : work.bus.state = .data
  · have queued := Bus.busRxIsr_of_data inData
    constructor
    · exact
        { queued := fun _ => by simp [interrupt, queued, inData]
          running := by simpa [interrupt, queued] using inStep.running
          closed := by simpa [interrupt, queued] using inStep.closed }
    · have same : work.interrupt.slot = work.slot := by
        simp [slot, interrupt, queued, inData]
      rw [same]
      exact .rest
  · obtain ⟨pending, stillOpen⟩ := work.bus.busRxIsr_work
    have idle : work.bus.rxWorkPending = false := by
      simpa [inData] using inStep.queued
    rw [idle, Bool.false_or] at pending
    constructor
    · exact
        { queued := by simp [interrupt, pending]
          running := fun type started =>
            absurd (inStep.running type started).1 inData
          closed := by simp [interrupt, stillOpen, opened] }
    · by_cases filled : work.bus.busRxIsr.state = .data
      · have put : work.interrupt.slot =
            { work.slot with
              content := some work.bus.busRxIsr.hdr
              puts := work.slot.puts ++ [work.bus.busRxIsr.hdr] } := by
          simp [slot, interrupt, inData, filled]
        rw [put]
        exact .put _ (by simp [slot, inData])
      · have same : work.interrupt.slot = work.slot := by
          simp [slot, interrupt, inData, filled]
        rw [same]
        exact .rest

/-- The handler takes the header out when it ends a frame. -/
theorem simulates_advance {type : SerialType} (inStep : InStep work)
    (running : work.running = some type)
    (unqueued : EndsUnqueued work .advance) :
    Simulates work (work.advance type) := by
  obtain ⟨inData, rfl⟩ := inStep.running type running
  unfold advance
  split
  · split
    · exact
        ⟨{ queued := inStep.queued, running := nofun, closed := inStep.closed },
          .rest⟩
    · exact
        ⟨{ queued := inStep.queued, running := inStep.running
           closed := inStep.closed }, .rest⟩
  · rename_i complete
    have idle := unqueued (by simpa using complete)
    obtain ⟨pending, opened⟩ :=
      work.bus.completeAs_receiver work.bus.hdr.type
    constructor
    · exact
        { queued := by simp [pending, idle]
          running := nofun
          closed := by simp }
    · have full : work.slot.content = some work.bus.hdr := by
        simp [slot, inData]
      simpa [slot] using Slot.Step.take full

theorem simulates_thread {bus : Bus} {label : Bus.Label}
    (inStep : InStep work) (ofThread : label.ofThread = true)
    (stepped : work.bus.step label = some bus) :
    Simulates work { work with bus } := by
  rcases Bus.sameReceiver_step stepped ofThread with same | ⟨closed, rfl⟩
  · exact simulates_of_sameReceiver inStep same rfl rfl rfl
  · have atRest := inStep.closed closed
    have idle : work.bus.rxWorkPending = false := by
      simpa [atRest] using inStep.queued
    constructor
    · exact
        { queued := by simp [Bus.beginOpen, idle]
          running := by
            intro type started
            have inData := (inStep.running type started).1
            rw [atRest] at inData
            cases inData
          closed := nofun }
    · have same : slot { work with bus := work.bus.beginOpen } =
          work.slot := by
        simp [slot, Bus.beginOpen, atRest]
      rw [same]
      exact .rest

theorem simulates_step (inStep : InStep work)
    (unqueued : EndsUnqueued work label)
    (stepped : work.step label = some later) : Simulates work later := by
  cases label with
  | arrive bytes =>
      cases stepped
      exact
        ⟨{ queued := inStep.queued, running := inStep.running
           closed := inStep.closed }, .rest⟩
  | interrupt =>
      simp only [step, Option.ite_none_right_eq_some, Option.some.injEq]
        at stepped
      obtain ⟨opened, rfl⟩ := stepped
      exact simulates_interrupt inStep opened
  | start =>
      simp only [step, Option.ite_none_right_eq_some, Option.some.injEq]
        at stepped
      obtain ⟨⟨-, pending⟩, rfl⟩ := stepped
      have inData := inStep.queued pending
      exact
        ⟨{ queued := nofun
           running := fun type started => ⟨inData, Option.some.inj started⟩
           closed := inStep.closed }, .rest⟩
  | advance =>
      simp only [step, Option.map_eq_some_iff] at stepped
      obtain ⟨type, running, rfl⟩ := stepped
      exact simulates_advance inStep running unqueued
  | fail =>
      simp only [step, Option.ite_none_right_eq_some, Option.some.injEq]
        at stepped
      obtain ⟨-, rfl⟩ := stepped
      exact
        ⟨{ queued := inStep.queued, running := nofun
           closed := inStep.closed }, .rest⟩
  | thread label =>
      simp only [step, Option.ite_none_right_eq_some, Option.map_eq_some_iff]
        at stepped
      obtain ⟨ofThread, bus, advanced, rfl⟩ := stepped
      exact simulates_thread inStep ofThread advanced
  | busSend type payload =>
      simp only [step, Bus.busSend] at stepped
      split at stepped
      · rename_i bus sent
        cases stepped
        split at sent
        · cases sent
        · cases sent
          exact simulates_of_sameReceiver inStep
            ⟨rfl, rfl, rfl, rfl, rfl, rfl⟩ rfl rfl rfl
      · cases stepped
        exact simulates_of_sameReceiver inStep
          ⟨rfl, rfl, rfl, rfl, rfl, rfl⟩ rfl rfl rfl

theorem inStep_boot (handler : SerialType → Bool) : InStep (boot handler) where
  queued := nofun
  running := nofun
  closed := fun _ => rfl

/-- Outside a payload `bus_rx_work` is neither queued nor running. -/
theorem InStep.no_handler (inStep : InStep work)
    (outside : work.bus.state ≠ .data) (handler : label.ofHandler = true) :
    work.step label = none := by
  have idle : work.bus.rxWorkPending = false := by
    simpa [outside] using inStep.queued
  have stopped : work.running = none := by
    cases running : work.running with
    | none => rfl
    | some type => exact absurd (inStep.running type running).1 outside
  cases label with
  | start => simp [step, idle]
  | advance => simp [step, stopped]
  | fail => simp [step, stopped]
  | _ => cases handler

theorem harmless_reached {handler : SerialType → Bool} {labels : List Label}
    (run : Run.GuardedRun step EndsUnqueued (boot handler) labels work) :
    Harmless work := by
  obtain ⟨inStep, balanced⟩ := Slot.balanced_of_run
    (fun _ _ _ inStep unqueued stepped =>
      simulates_step inStep unqueued stepped)
    run (inStep_boot handler) rfl
  constructor
  case quiet =>
    intro label later handler stepped outside
    rw [inStep.no_handler outside handler] at stepped
    cases stepped
  case once => exact balanced

end BusWork

end SerialLink
