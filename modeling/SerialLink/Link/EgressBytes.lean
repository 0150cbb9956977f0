import SerialLink.Device.Egress
import SerialLink.Link.SharedLine

/-!
# Transmission byte by byte

`serial_send_frame` and `send_ack` with every call of `uart_fifo_fill` a step
of its own.  As long as the driver takes what it is given in time, this is the
transmission of `Device.Egress`, in which a call of `serial_data_tx` is one
step: the step is the one that gives `serial_tx_mutex` back.
-/

namespace SerialLink

/-- Where a thread stands in `serial_send_frame` or `send_ack`. -/
inductive ByteSender where
  | outside
  | headerBuilt (frame : Frame)
  /-- Inside the call of `serial_data_tx` for the header. -/
  | writingHeader (frame : Frame)
  | headerWritten (frame : Frame)
  | writingPayload (frame : Frame)
  | payloadWritten
  /-- Inside the call of `serial_data_tx` in `send_ack`. -/
  | writingAck (type : SerialType) (sequenceNumber : Nat) (error : ErrorType)

namespace ByteSender

/-- The place in the transmission by whole writes. -/
def toSender : ByteSender → Sender
  | outside => .outside
  | headerBuilt frame => .headerBuilt frame
  | writingHeader frame => .headerBuilt frame
  | headerWritten frame => .headerWritten frame
  | writingPayload frame => .headerWritten frame
  | payloadWritten => .payloadWritten
  | writingAck _ _ _ => .outside

/-- The argument of the call of `serial_data_tx` that a thread is inside. -/
def writing : ByteSender → Option (List UInt8)
  | writingHeader frame => some frame.header.encode
  | writingPayload frame => some frame.payload
  | writingAck type sequenceNumber error =>
      some (ackFrame type sequenceNumber error).header.encode
  | _ => none

/-- The call that comes next. -/
def enter : ByteSender → Option ByteSender
  | headerBuilt frame => some (writingHeader frame)
  | headerWritten frame => some (writingPayload frame)
  | _ => none

/-- The return of `serial_data_tx`. -/
def leave : ByteSender → ByteSender
  | writingHeader frame =>
      if frame.payload = [] then payloadWritten else headerWritten frame
  | writingPayload _ => payloadWritten
  | writingAck _ _ _ => outside
  | sender => sender

theorem leave_writing {sender : ByteSender} {data : List UInt8}
    (inside : sender.writing = some data) : sender.leave.writing = none := by
  cases sender with
  | writingHeader frame =>
      rw [leave]
      split <;> rfl
  | writingPayload frame => rfl
  | writingAck type sequenceNumber error => rfl
  | outside | headerBuilt _ | headerWritten _ | payloadWritten => cases inside

theorem toSender_enter {sender next : ByteSender}
    (entered : sender.enter = some next) :
    next.toSender = sender.toSender := by
  cases sender <;> cases entered <;> rfl

end ByteSender

/-- The UART under `serial_tx_mutex`, the counter and the threads. -/
structure ByteEgress (τ : Type) where
  turns : Turns τ UInt8
  txSequenceNumber : Nat
  sender : τ → ByteSender

namespace ByteEgress

variable {τ : Type}

inductive Label (τ : Type) where
  /-- `serial_send_frame` is called and reads `tx_sequence_number`. -/
  | call (thread : τ) (request : Request)
  /-- The next call of `serial_data_tx` in it. -/
  | serialDataTx (thread : τ)
  | sendAck (thread : τ) (type : SerialType) (sequenceNumber : Nat)
      (error : ErrorType)
  | lock (thread : τ)
  | fill (thread : τ) (n : Int) (late : Bool)
  | finish (thread : τ)
  /-- `serial_tx_mutex` is given back, and `serial_data_tx` returns. -/
  | unlock (thread : τ)
  | storeSequence (thread : τ)

/-- The driver does not fail, and is not full for too long. -/
def Label.Succeeds : Label τ → Prop
  | .fill _ n late => ∀ code, filled n late ≠ .returns code
  | _ => True

variable [DecidableEq τ]

def setSender (egress : ByteEgress τ) (thread : τ) (sender : ByteSender) :
    ByteEgress τ :=
  { egress with
    sender := fun other => if other = thread then sender
      else egress.sender other }

/-- A step inside `serial_data_tx`, whose only block is its argument. -/
def inside (egress : ByteEgress τ)
    (label : SharedLine.Label τ (List UInt8)) : Option (ByteEgress τ) :=
  (SharedLine.step (fun data => [data]) egress.turns label).map fun turns =>
    { egress with turns }

def step (egress : ByteEgress τ) : Label τ → Option (ByteEgress τ)
  | .call thread request =>
      match egress.sender thread with
      | .outside =>
          if bounded : request.payload.length ≤ serialMaxPayloadLen then
            some (egress.setSender thread
              (.headerBuilt (request.frame egress.txSequenceNumber bounded)))
          else some egress
      | _ => none
  | .serialDataTx thread =>
      match (egress.sender thread).enter with
      | some sender =>
          match sender.writing with
          | some data => (egress.setSender thread sender).inside
              (.call thread data)
          | none => none
      | none => none
  | .sendAck thread type sequenceNumber error =>
      match egress.sender thread with
      | .outside =>
          (egress.setSender thread (.writingAck type sequenceNumber
            error)).inside
            (.call thread (ackFrame type sequenceNumber error).header.encode)
      | _ => none
  | .lock thread => egress.inside (.lock thread)
  | .fill thread n late => egress.inside (.fill thread n late)
  | .finish thread => egress.inside (.finish thread)
  | .unlock thread =>
      (egress.setSender thread (egress.sender thread).leave).inside
        (.unlock thread)
  | .storeSequence thread =>
      match egress.sender thread with
      | .payloadWritten =>
          some
            { egress.setSender thread .outside with
              txSequenceNumber := seqNext egress.txSequenceNumber }
      | _ => none

def initial : ByteEgress τ where
  turns := .initial
  txSequenceNumber := 0
  sender := fun _ => .outside

/-- The two places of a thread fit each other. -/
def Placed (sender : ByteSender) (turn : Turn UInt8) : Prop :=
  turn.called = sender.writing.map fun data => [data]

/-- What the two transmissions have in common. -/
structure Simulates (fine : ByteEgress τ) (coarse : Egress τ) : Prop where
  ordered : fine.turns.Ordered
  complete : fine.turns.Complete
  placed : ∀ thread, Placed (fine.sender thread) (fine.turns.turn thread)
  wire : coarse.wire = (fine.turns.done.map (·.written)).flatten
  counter : coarse.txSequenceNumber = fine.txSequenceNumber
  sender : ∀ thread, coarse.sender thread = (fine.sender thread).toSender

omit [DecidableEq τ] in
theorem simulates_initial :
    Simulates (initial : ByteEgress τ) Egress.initial where
  ordered := Turns.initial_ordered
  complete := Turns.initial_complete
  placed := fun _ => rfl
  wire := rfl
  counter := rfl
  sender := fun _ => rfl

variable {fine later : ByteEgress τ} {coarse : Egress τ} {thread : τ}

theorem inside_eq_some {label : SharedLine.Label τ (List UInt8)}
    (stepped : fine.inside label = some later) :
    ∃ turns, SharedLine.step (fun data => [data]) fine.turns label =
        some turns ∧ later = { fine with turns } := by
  obtain ⟨turns, moved, rfl⟩ := Option.map_eq_some_iff.mp stepped
  exact ⟨turns, moved, rfl⟩

/-- A thread that has the mutex is inside `serial_data_tx`. -/
theorem Placed.writing {sender : ByteSender}
    {blocks unsent : List (List UInt8)} {written : List UInt8}
    (placed : Placed sender (.writing blocks unsent written)) :
    ∃ data, sender.writing = some data ∧ blocks = [data] := by
  obtain ⟨data, inside, rfl⟩ := Option.map_eq_some_iff.mp placed.symm
  exact ⟨data, inside, rfl⟩

/-- Inside `serial_data_tx` nothing is seen of a thread. -/
theorem Simulates.inner {label : SharedLine.Label τ (List UInt8)}
    (simulates : Simulates fine coarse)
    (stepped : fine.inside label = some later) (inner : label.Inner)
    (succeeds : label.Succeeds) : Simulates later coarse := by
  obtain ⟨turns, moved, rfl⟩ := inside_eq_some stepped
  rcases SharedLine.step_turns moved with rfl | ⟨move, turned, -, finishes,
    within⟩
  · exact simulates
  · obtain ⟨done, kept⟩ := Turns.step_inner (within inner) turned
    refine ⟨simulates.ordered.step turned,
      simulates.complete.step (finishes succeeds) turned, ?_, ?_,
      simulates.counter, simulates.sender⟩
    · intro other
      exact (kept other).trans (simulates.placed other)
    · exact simulates.wire.trans (by rw [done])

/-- The blocks of the turns are those of the senders, after one of each has
changed. -/
theorem placed_setSender {turns : Turns τ UInt8} {sender : ByteSender}
    {turn : Turn UInt8} (placed : ∀ thread, Placed (fine.sender thread)
      (fine.turns.turn thread)) (now : Placed sender turn)
    (others : ∀ other, other ≠ thread →
      turns.turn other = fine.turns.turn other)
    (moved : turns.turn thread = turn) (other : τ) :
    Placed ((fine.setSender thread sender).sender other)
      (turns.turn other) := by
  unfold ByteEgress.setSender
  dsimp only
  split
  · rename_i same
    subst same
    rw [moved]
    exact now
  · rename_i different
    rw [others other different]
    exact placed other

theorem sender_setSender {sender : ByteSender} {place : Sender}
    (same : ∀ thread, coarse.sender thread = (fine.sender thread).toSender)
    (moved : place = sender.toSender) (other : τ) :
    (coarse.setSender thread place).sender other =
      ((fine.setSender thread sender).sender other).toSender := by
  unfold ByteEgress.setSender Egress.setSender
  dsimp only
  split
  · exact moved
  · exact same other

/-- A thread may move without being seen. -/
theorem Simulates.sender_kept {sender : ByteSender}
    (simulates : Simulates fine coarse)
    (same : coarse.sender thread = sender.toSender) (other : τ) :
    coarse.sender other =
      ((fine.setSender thread sender).sender other).toSender := by
  unfold ByteEgress.setSender
  dsimp only
  split
  · rename_i moved
    rw [moved, same]
  · exact simulates.sender other

/-- What a step is in the transmission by whole writes. -/
def Matched (coarse : Egress τ) (later : ByteEgress τ) : Prop :=
  ∃ next, Simulates later next ∧
    (next = coarse ∨ ∃ move, coarse.step move = some next)

theorem Simulates.matched (simulates : Simulates later coarse) :
    Matched coarse later :=
  ⟨coarse, simulates, .inl rfl⟩

theorem matched_of_step {next : Egress τ} {move : Egress.Label τ}
    (stepped : coarse.step move = some next)
    (simulates : Simulates later next) : Matched coarse later :=
  ⟨next, simulates, .inr ⟨move, stepped⟩⟩

theorem Simulates.call {request : Request}
    (simulates : Simulates fine coarse)
    (stepped : fine.step (.call thread request) = some later) :
    Matched coarse later := by
  rw [step] at stepped
  split at stepped
  · rename_i outside
    have free : coarse.sender thread = .outside := by
      rw [simulates.sender, outside]
      rfl
    split at stepped
    · rename_i bounded
      cases stepped
      have called : coarse.step (.call thread request) =
          some (coarse.setSender thread (.headerBuilt
            (request.frame coarse.txSequenceNumber bounded))) := by
        simp [Egress.step, free, bounded]
      refine matched_of_step called ?_
      rw [simulates.counter]
      refine ⟨simulates.ordered, simulates.complete, ?_, simulates.wire,
        simulates.counter, sender_setSender simulates.sender rfl⟩
      refine placed_setSender simulates.placed ?_ (fun _ _ => rfl) rfl
      have before := simulates.placed thread
      rwa [outside] at before
    · cases stepped
      exact simulates.matched
  · cases stepped

/-- `serial_data_tx` is called. -/
theorem Simulates.enter {sender : ByteSender} {data : List UInt8}
    (simulates : Simulates fine coarse)
    (writing : sender.writing = some data)
    (same : sender.toSender = (fine.sender thread).toSender)
    (stepped : (fine.setSender thread sender).inside (.call thread data) =
      some later) : Matched coarse later := by
  obtain ⟨turns, moved, rfl⟩ := inside_eq_some stepped
  rw [SharedLine.step] at moved
  change fine.turns.step (.call thread [data]) = some turns at moved
  have ordered := simulates.ordered.step moved
  have finishes : fine.turns.Finishes (.call thread [data]) := trivial
  have complete := simulates.complete.step finishes moved
  rw [Turns.step] at moved
  split at moved
  · cases moved
    refine Simulates.matched ⟨ordered, complete, ?_, simulates.wire,
      simulates.counter, ?_⟩
    · refine placed_setSender simulates.placed ?_
        (fun other different => Turns.setTurn_other _ _ different)
        (Turns.setTurn_self _ _ _)
      rw [Placed, writing]
      rfl
    · exact simulates.sender_kept ((simulates.sender thread).trans same.symm)
  · cases moved

/-- `serial_data_tx` returns: all of its argument is on the line. -/
theorem Simulates.returns (simulates : Simulates fine coarse)
    (stepped : fine.step (.unlock thread) = some later) :
    ∃ data, (fine.sender thread).writing = some data ∧
      later = { fine.setSender thread (fine.sender thread).leave with
        turns := later.turns } ∧
      later.turns.Ordered ∧ later.turns.Complete ∧
      coarse.wire ++ data = (later.turns.done.map (·.written)).flatten ∧
      ∀ other, Placed (later.sender other) (later.turns.turn other) := by
  rw [step] at stepped
  obtain ⟨turns, moved, rfl⟩ := inside_eq_some stepped
  rw [SharedLine.step] at moved
  change fine.turns.step (.unlock thread) = some turns at moved
  have ordered := simulates.ordered.step moved
  have finishes : fine.turns.Finishes (.unlock thread) := trivial
  have complete := simulates.complete.step finishes moved
  rw [Turns.step] at moved
  split at moved
  · rename_i blocks written turn
    cases moved
    have placed := simulates.placed thread
    rw [turn] at placed
    obtain ⟨data, inside, rfl⟩ := placed.writing
    have whole : written = data := by
      simpa using simulates.complete.underway turn
    subst whole
    refine ⟨written, inside, rfl, ordered, complete, ?_, ?_⟩
    · simp [simulates.wire]
    · refine placed_setSender simulates.placed ?_
        (fun other different => Turns.setTurn_other _ _ different)
        (Turns.setTurn_self _ _ _)
      exact congrArg (Option.map fun data => [data])
        (ByteSender.leave_writing inside).symm
  · cases moved

/-- The return is the write. -/
theorem Simulates.unlock (simulates : Simulates fine coarse)
    (stepped : fine.step (.unlock thread) = some later) :
    Matched coarse later := by
  obtain ⟨data, inside, same, ordered, complete, wire, placed⟩ :=
    simulates.returns stepped
  have known := simulates.sender thread
  have moved : later.sender =
      (fine.setSender thread (fine.sender thread).leave).sender := by
    rw [same]
  have counter : coarse.txSequenceNumber = later.txSequenceNumber := by
    rw [same]
    exact simulates.counter
  cases place : fine.sender thread with
  | writingHeader frame =>
      rw [place] at inside known moved
      cases inside
      have written : coarse.step (.writeHeader thread) =
          some (((coarse.write frame.header.encode).start
            { ack := false, frame }).setSender thread
              (if frame.payload = [] then .payloadWritten
                else .headerWritten frame)) := by
        simp [Egress.step, known, ByteSender.toSender]
      refine matched_of_step written
        ⟨ordered, complete, placed, wire, counter, ?_⟩
      rw [moved]
      refine sender_setSender simulates.sender ?_
      rw [ByteSender.leave]
      split <;> rfl
  | writingPayload frame =>
      rw [place] at inside known moved
      cases inside
      have written : coarse.step (.writePayload thread) =
          some ((coarse.write frame.payload).setSender thread
            .payloadWritten) := by
        simp [Egress.step, known, ByteSender.toSender]
      refine matched_of_step written
        ⟨ordered, complete, placed, wire, counter, ?_⟩
      rw [moved]
      exact sender_setSender simulates.sender rfl
  | writingAck type sequenceNumber error =>
      rw [place] at inside known moved
      cases inside
      have written : coarse.step (.sendAck type sequenceNumber error) =
          some ((coarse.write
            (ackFrame type sequenceNumber error).header.encode).start
            { ack := true, frame := ackFrame type sequenceNumber error }) :=
        rfl
      refine matched_of_step written
        ⟨ordered, complete, placed, wire, counter, ?_⟩
      rw [moved]
      have left : coarse.sender thread = ByteSender.outside.toSender := known
      exact simulates.sender_kept left
  | outside | headerBuilt _ | headerWritten _ | payloadWritten =>
      rw [place] at inside
      cases inside

theorem Simulates.storeSequence (simulates : Simulates fine coarse)
    (stepped : fine.step (.storeSequence thread) = some later) :
    Matched coarse later := by
  rw [step] at stepped
  split at stepped
  · rename_i written
    cases stepped
    have known := simulates.sender thread
    rw [written] at known
    have stored : coarse.step (.storeSequence thread) =
        some { coarse.setSender thread .outside with
          txSequenceNumber := seqNext coarse.txSequenceNumber } := by
      simp [Egress.step, known, ByteSender.toSender]
    refine matched_of_step stored ⟨simulates.ordered, simulates.complete, ?_,
      simulates.wire, ?_, sender_setSender simulates.sender rfl⟩
    · refine placed_setSender simulates.placed ?_ (fun _ _ => rfl) rfl
      have before := simulates.placed thread
      rwa [written] at before
    · exact congrArg seqNext simulates.counter
  · cases stepped

/-- A step inside `serial_data_tx` is no step of the transmission by whole
writes, and every other one is a step of it or none. -/
theorem Simulates.step {label : Label τ} (simulates : Simulates fine coarse)
    (succeeds : label.Succeeds) (stepped : fine.step label = some later) :
    Matched coarse later := by
  cases label with
  | call thread request => exact simulates.call stepped
  | serialDataTx thread =>
      rw [ByteEgress.step] at stepped
      split at stepped
      · rename_i sender entered
        split at stepped
        · rename_i data writing
          exact simulates.enter writing (ByteSender.toSender_enter entered)
            stepped
        · cases stepped
      · cases stepped
  | sendAck thread type sequenceNumber error =>
      rw [ByteEgress.step] at stepped
      split at stepped
      · rename_i outside
        exact simulates.enter rfl (by rw [outside]; rfl) stepped
      · cases stepped
  | lock thread =>
      rw [ByteEgress.step] at stepped
      exact (simulates.inner stepped trivial trivial).matched
  | fill thread n late =>
      rw [ByteEgress.step] at stepped
      exact (simulates.inner stepped trivial succeeds).matched
  | finish thread =>
      rw [ByteEgress.step] at stepped
      exact (simulates.inner stepped trivial trivial).matched
  | unlock thread => exact simulates.unlock stepped
  | storeSequence thread => exact simulates.storeSequence stepped

/-- What a run by bytes and a run by whole writes have in common: the line
of the first is that of the second and the bytes that the present call of
`serial_data_tx` has handed over. -/
structure Refines (fine : ByteEgress τ) (coarse : Egress τ) : Prop where
  line : fine.turns.line = coarse.wire ++ fine.turns.current
  counter : fine.txSequenceNumber = coarse.txSequenceNumber
  sender : ∀ thread, (fine.sender thread).toSender = coarse.sender thread

/-- Some run of whole writes leads to what is seen here. -/
def Simulated (fine : ByteEgress τ) : Prop :=
  ∃ coarse, Run.Reaches Egress.step Egress.initial coarse ∧
    Simulates fine coarse

/-- A call of `serial_data_tx` may be taken for one write: whatever the driver
accepts at a time, and however the threads get in each other's way, the run is
one of whole writes. -/
theorem exists_run_of_exec (labels : List (Label τ)) (final : ByteEgress τ)
    (succeeds : ∀ label ∈ labels, label.Succeeds)
    (executed : Run.exec step initial labels = some final) :
    ∃ writes egress, Run.exec Egress.step Egress.initial writes = some egress ∧
      final.Refines egress := by
  have run : Run.GuardedRun step (fun _ label => label.Succeeds) initial
      labels final :=
    Run.guardedRun_of_forall executed fun label member _ =>
      succeeds label member
  have simulated : Simulated final := by
    refine run.preserves ?_ ⟨Egress.initial, .refl _, simulates_initial⟩
    rintro fine label later ⟨coarse, reached, simulates⟩ succeeds stepped
    obtain ⟨next, follows, rfl | ⟨move, moved⟩⟩ :=
      simulates.step succeeds stepped
    · exact ⟨next, reached, follows⟩
    · exact ⟨next, reached.snoc moved, follows⟩
  obtain ⟨egress, ⟨writes, reached⟩, simulates⟩ := simulated
  refine ⟨writes, egress, reached, ?_, simulates.counter.symm,
    fun thread => (simulates.sender thread).symm⟩
  rw [simulates.ordered.line, simulates.wire]

/-- An answer that waits for the header of a notification, of which the driver
takes three bytes at first. -/
def headerInParts : List (Label Bool) :=
  [.call true Egress.shortNotification, .serialDataTx true, .lock true,
    .fill true 3 false, .sendAck false .hci 0 .noError, .fill true 1 false,
    .finish true, .unlock true, .lock false, .fill false 4 false,
    .finish false, .unlock false]

theorem headerInParts_refines :
    ∃ final writes egress,
      Run.exec step (initial : ByteEgress Bool) headerInParts = some final ∧
      final.turns.line = [32, 0, 0, 1, 35, 0, 0, 0] ∧
      Run.exec Egress.step Egress.initial writes = some egress ∧
      final.Refines egress := by
  have succeeds : ∀ label ∈ headerInParts, label.Succeeds := by
    simp [headerInParts, Label.Succeeds, filled]
  obtain ⟨writes, egress, reached, refines⟩ :=
    exists_run_of_exec headerInParts _ succeeds rfl
  exact ⟨_, writes, egress, rfl, rfl, reached, refines⟩

end ByteEgress

end SerialLink
