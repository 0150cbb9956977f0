import SerialLink.Library.Turns
import SerialLink.Link.DataTx
import SerialLink.Host.Bus

/-!
# A line that many threads write to

`bus_send_raw` and `serial_data_tx` as any number of threads execute them: the
mutex, and a loop around `uart_fifo_fill` in which the driver takes what it
likes of a block, fails, or is full for longer than the timeout.  Between any
two calls of the driver another thread may move.

A call is told by the blocks that it writes with the mutex taken: the header
and the payload of a frame on the host, one block of bytes on the device.
-/

namespace SerialLink

/-- What becomes of one execution of the loop of a writer. -/
inductive Filled where
  | wrote (count : Nat)
  /-- The FIFO is full, and the loop waits. -/
  | full
  | returns (code : Int)
  deriving DecidableEq, Repr

/-- The body of the loop, for the result of `uart_fifo_fill`; `late` tells
whether the timeout has passed. -/
def filled (n : Int) (late : Bool) : Filled :=
  if n < 0 then .returns n
  else if n > 0 then .wrote n.toNat
  else if late then .returns (-enospc)
  else .full

namespace SharedLine

variable {θ κ : Type}

inductive Label (θ κ : Type) where
  | call (thread : θ) (call : κ)
  | lock (thread : θ)
  /-- One call of `uart_fifo_fill` in the loop. -/
  | fill (thread : θ) (n : Int) (late : Bool)
  /-- The condition of the loop is false. -/
  | finish (thread : θ)
  | unlock (thread : θ)
  deriving DecidableEq, Repr

/-- The threads write one after another, each what it has been called with. -/
structure Kept (blocks : κ → List (List UInt8)) (turns : Turns θ UInt8) :
    Prop where
  ordered : turns.Ordered
  called : turns.Called fun given => ∃ call, given = blocks call

section

variable {blocks : κ → List (List UInt8)} {turns : Turns θ UInt8}

/-- The mutex is free, or its owner is in the middle of a call. -/
theorem Kept.present (kept : Kept blocks turns) :
    turns.mutex = .free ∧ turns.current = [] ∨
      ∃ thread call unsent, turns.mutex = .held thread 0 ∧
        turns.turn thread = .writing (blocks call) unsent turns.current := by
  cases held : turns.mutex with
  | free => exact .inl ⟨rfl, Turns.current_of_free held⟩
  | held thread again =>
      obtain ⟨given, unsent, written, writing⟩ := kept.ordered.writer held
      obtain ⟨call, rfl⟩ :=
        kept.called.turn thread given (by rw [writing]; rfl)
      refine .inr ⟨thread, call, unsent, ?_, ?_⟩
      · exact held.symm.trans (kept.ordered.owner writing)
      · rw [Turns.current_of_held held writing, writing]

/-- The calls behind what has been done. -/
theorem Kept.exists_calls (kept : Kept blocks turns) :
    ∃ calls : List κ, turns.done.map (·.blocks) = calls.map blocks := by
  have given := kept.called.done
  generalize turns.done = done at given
  induction done with
  | nil => exact ⟨[], rfl⟩
  | cons item done induction =>
      obtain ⟨call, same⟩ := given item List.mem_cons_self
      obtain ⟨calls, rest⟩ := induction fun other member =>
        given other (List.mem_cons_of_mem item member)
      exact ⟨call :: calls, by simp [same, rest]⟩

end

variable [DecidableEq θ]

/-- What is left of a block is at `data + written`, and `written < len` says
that there is something left. -/
def step (blocks : κ → List (List UInt8)) (turns : Turns θ UInt8) :
    Label θ κ → Option (Turns θ UInt8)
  | .call thread call => turns.step (.call thread (blocks call))
  | .lock thread => turns.step (.lock thread)
  | .fill thread n late =>
      match turns.turn thread with
      | .writing _ (block :: _) _ =>
          if block ≠ [] ∧ n ≤ block.length then
            match filled n late with
            | .wrote count => turns.step (.put thread count)
            | .full => some turns
            | .returns _ => turns.step (.leave thread)
          else none
      | _ => none
  | .finish thread =>
      match turns.turn thread with
      | .writing _ ([] :: _) _ => turns.step (.leave thread)
      | _ => none
  | .unlock thread => turns.step (.unlock thread)

/-- The steps of a thread between its call and its return. -/
def Label.Inner : Label θ κ → Prop
  | .lock _ | .fill _ _ _ | .finish _ => True
  | .call _ _ | .unlock _ => False

/-- The driver does not fail, and is not full for too long. -/
def Label.Succeeds : Label θ κ → Prop
  | .fill _ n late => ∀ code, filled n late ≠ .returns code
  | _ => True

variable {blocks : κ → List (List UInt8)} {turns later : Turns θ UInt8}
  {label : Label θ κ}

/-- A step is a step of writers that take turns, or none. -/
theorem step_turns (stepped : step blocks turns label = some later) :
    later = turns ∨ ∃ move, turns.step move = some later ∧
      (∀ thread given, move = .call thread given →
        ∃ call, given = blocks call) ∧
      (label.Succeeds → turns.Finishes move) ∧
      (label.Inner → move.Inner) := by
  cases label with
  | call thread call =>
      rw [step] at stepped
      refine .inr ⟨_, stepped, ?_, fun _ => trivial, id⟩
      intro other given same
      cases same
      exact ⟨call, rfl⟩
  | lock thread =>
      rw [step] at stepped
      exact .inr ⟨_, stepped, by simp, fun _ => trivial, id⟩
  | unlock thread =>
      rw [step] at stepped
      exact .inr ⟨_, stepped, by simp, fun _ => trivial, id⟩
  | fill thread n late =>
      rw [step] at stepped
      split at stepped
      · split at stepped
        · split at stepped
          · exact .inr ⟨_, stepped, by simp, fun _ => trivial, id⟩
          · cases stepped
            exact .inl rfl
          · rename_i code outcome
            refine .inr ⟨_, stepped, by simp, ?_, id⟩
            intro succeeds
            exact absurd outcome (succeeds code)
        · cases stepped
      · cases stepped
  | finish thread =>
      rw [step] at stepped
      split at stepped
      · rename_i begun more written turn
        refine .inr ⟨_, stepped, by simp, ?_, id⟩
        intro _ _ rest _ _ writing
        cases turn.symm.trans writing
        rfl
      · cases stepped

theorem Kept.step (kept : Kept blocks turns)
    (stepped : step blocks turns label = some later) : Kept blocks later := by
  rcases step_turns stepped with rfl | ⟨move, moved, given, -, -⟩
  · exact kept
  · exact ⟨kept.ordered.step moved, kept.called.step given moved⟩

theorem kept_of_exec {labels : List (Label θ κ)}
    (executed : Run.exec (step blocks) Turns.initial labels = some later) :
    Kept blocks later :=
  Run.exec_preserves (fun _ _ _ kept stepped => kept.step stepped) executed
    ⟨Turns.initial_ordered, Turns.initial_called _⟩

/-- Where the driver takes every byte in time, nothing is dropped. -/
theorem complete_of_exec {labels : List (Label θ κ)}
    (executed : Run.exec (step blocks) Turns.initial labels = some later)
    (succeed : ∀ label ∈ labels, label.Succeeds) : later.Complete := by
  have run := Run.guardedRun_of_forall executed
    fun label member _ => succeed label member
  refine run.preserves ?_ Turns.initial_complete
  intro state label next complete succeeds stepped
  rcases step_turns stepped with rfl | ⟨move, moved, -, finishes, -⟩
  · exact complete
  · exact complete.step (finishes succeeds) moved

section Writers

variable {driver : TxDriver} {σ : Type} {unlock : σ → σ} {timeoutMs : Int}
  {data : List UInt8} {locked : σ} {tx next final : DataTx σ}

/-- A thread that has the mutex and is at `data`, after what a writer has
handed over. -/
def handing (turns : Turns θ UInt8) (thread : θ) (begun : List (List UInt8))
    (more : List (List UInt8)) (before : List UInt8) (data : List UInt8)
    (tx : DataTx σ) : Turns θ UInt8 :=
  { turns.setTurn thread
      (.writing begun (data.drop tx.written :: more) (before ++ tx.handed))
    with line := turns.line ++ tx.handed }

/-- The label of one execution of the loop of a writer. -/
def fillOf (driver : TxDriver) (timeoutMs : Int) (data : List UInt8)
    (thread : θ) (tx : DataTx σ) : Label θ κ :=
  .fill thread
    (driver.fill tx.answers.length (data.length - tx.written))
    (decide (driver.uptime (tx.answers.length + 1) - driver.uptime 0 >
      timeoutMs))

variable {thread : θ} {begun more : List (List UInt8)} {before : List UInt8}

theorem handing_turn (turns : Turns θ UInt8) (tx : DataTx σ) :
    (handing turns thread begun more before data tx).turn thread =
      .writing begun (data.drop tx.written :: more) (before ++ tx.handed) :=
  Turns.setTurn_self turns thread _

theorem setTurn_setTurn (turns : Turns θ UInt8) (thread : θ)
    (first second : Turn UInt8) (line : List UInt8) :
    Turns.setTurn { turns.setTurn thread first with line } thread second =
      { turns.setTurn thread second with line } := by
  simp only [Turns.setTurn, Turns.mk.injEq, true_and, and_true]
  funext other
  split <;> rfl

/-- An execution of the body that goes on is one step of the thread. -/
theorem step_of_next
    (entered : TxDriver.pending data tx = true)
    (outcome : driver.body unlock timeoutMs data tx = .next next) :
    step blocks (handing turns thread begun more before data tx)
        (fillOf driver timeoutMs data thread tx) =
      some (handing turns thread begun more before data next) := by
  obtain ⟨n, filledBy, succeeded, offered, early, rfl⟩ :=
    TxDriver.body_next outcome
  have short : tx.written < data.length := by
    simpa [TxDriver.pending] using entered
  have left : data.drop tx.written ≠ [] := by simpa using short
  rw [fillOf, step, handing_turn]
  simp only [filledBy]
  rw [if_pos ⟨left, by simpa using offered⟩]
  by_cases zero : n = 0
  · subst zero
    have waits : filled 0 (decide (driver.uptime (tx.answers.length + 1) -
        driver.uptime 0 > timeoutMs)) = .full := by
      have inTime := early rfl
      simp [filled, Int.not_lt.mpr inTime]
    simp [waits, handing]
  · have wrote : ∀ late, filled n late = .wrote n.toNat := by
      intro late
      rw [filled, if_neg (by omega), if_pos (by omega)]
    have enough : n.toNat ≤ (data.drop tx.written).length := by
      rw [List.length_drop]
      omega
    simp only [wrote]
    rw [Turns.step, handing_turn]
    simp only [if_pos enough, Option.some.injEq]
    simp only [handing, setTurn_setTurn, List.drop_drop, List.append_assoc]

/-- A failure is one step too, which leaves the block. -/
theorem step_of_stop
    (entered : TxDriver.pending data tx = true)
    (outcome : driver.body unlock timeoutMs data tx = .stop final) :
    step blocks (handing turns thread begun more before data tx)
        (fillOf driver timeoutMs data thread tx) =
      some { turns.setTurn thread (.writing begun more (before ++ final.handed))
        with line := turns.line ++ final.handed } := by
  obtain ⟨n, filledBy, code, reason, rfl⟩ := TxDriver.body_stop outcome
  have short : tx.written < data.length := by
    simpa [TxDriver.pending] using entered
  have left : data.drop tx.written ≠ [] := by simpa using short
  have failed : filled n (decide (driver.uptime (tx.answers.length + 1) -
      driver.uptime 0 > timeoutMs)) = .returns code := by
    rcases reason with ⟨negative, rfl⟩ | ⟨rfl, rfl, late⟩
    · rw [filled, if_pos negative]
    · simp [filled, late]
  have offered : n ≤ (data.drop tx.written).length := by
    rcases reason with ⟨negative, -⟩ | ⟨rfl, -⟩ <;> omega
  rw [fillOf, step, handing_turn]
  simp only [filledBy]
  rw [if_pos ⟨left, offered⟩]
  simp only [failed]
  rw [Turns.step, handing_turn]
  simp only [handing, setTurn_setTurn]

/-- A thread that has left a block, after what a writer has handed over. -/
def handed (turns : Turns θ UInt8) (thread : θ) (begun : List (List UInt8))
    (more : List (List UInt8)) (before : List UInt8) (tx : DataTx σ) :
    Turns θ UInt8 :=
  { turns.setTurn thread (.writing begun more (before ++ tx.handed)) with
    line := turns.line ++ tx.handed }

theorem handing_begin
    (writing : turns.turn thread = .writing begun (data :: more) before)
    (locked : σ) :
    handing turns thread begun more before data (TxDriver.begin locked) =
      turns := by
  have same : (fun other => if other = thread then
      Turn.writing begun (data :: more) before else turns.turn other) =
        turns.turn := by
    funext other
    split
    · rename_i moved
      rw [moved, writing]
    · rfl
  simp [handing, TxDriver.begin, Turns.setTurn, same]

/-- What a writer does is what its thread does, step by step. -/
theorem exec_of_writer (blocks : κ → List (List UInt8))
    (writing : turns.turn thread = .writing begun (data :: more) before)
    (steps : Nat) :
    ((driver.dataTx unlock timeoutMs data locked steps).returned = none →
      ∃ labels : List (Label θ κ), Run.exec (step blocks) turns labels =
        some (handing turns thread begun more before data
          (driver.dataTx unlock timeoutMs data locked steps))) ∧
    ∀ code, (driver.dataTx unlock timeoutMs data locked steps).returned =
        some code →
      ∃ labels : List (Label θ κ), Run.exec (step blocks) turns labels =
        some (handed turns thread begun more before
          (driver.dataTx unlock timeoutMs data locked steps)) := by
  have goesOn : ∀ tx later : DataTx σ,
      (TxDriver.Writing data locked tx ∧ Run.Reaches (step blocks) turns
        (handing turns thread begun more before data tx)) →
      TxDriver.pending data tx = true →
      driver.body unlock timeoutMs data tx = .next later →
      TxDriver.Writing data locked later ∧ Run.Reaches (step blocks) turns
        (handing turns thread begun more before data later) := by
    rintro tx later ⟨present, reaches⟩ entered outcome
    exact ⟨present.next outcome, reaches.snoc (step_of_next entered outcome)⟩
  have start : TxDriver.Writing data locked (TxDriver.begin locked) ∧
      Run.Reaches (step blocks) turns
        (handing turns thread begun more before data
          (TxDriver.begin locked)) := by
    rw [handing_begin writing]
    exact ⟨.begin data locked, .refl turns⟩
  rw [TxDriver.dataTx]
  split
  · rename_i tx running
    obtain ⟨⟨present, reaches⟩, -⟩ := Loop.after_next _ goesOn start running
    refine ⟨fun _ => reaches, ?_⟩
    intro code returned
    cases present.returned.symm.trans returned
  · rename_i tx left
    obtain ⟨code, returned⟩ := (TxDriver.left_of_after left).returned
    refine ⟨fun none => absurd (none.symm.trans returned) (by simp), ?_⟩
    intro _ _
    refine Loop.iterate_ends _ (fun tx => Run.Reaches (step blocks) turns
      (handed turns thread begun more before (TxDriver.finish unlock tx)))
      goesOn ?_ ?_ start (Loop.iterate_of_after left)
    · rintro tx final ⟨present, reaches⟩ entered outcome
      rw [TxDriver.finish_of_left (present.stop entered outcome)]
      exact reaches.snoc (step_of_stop entered outcome)
    · rintro tx ⟨present, reaches⟩ whole
      have empty : data.drop tx.written = [] := by
        simpa [TxDriver.pending] using whole
      have same : (TxDriver.finish unlock tx).handed = tx.handed := by
        simp [TxDriver.finish, present.returned]
      have leaves : step blocks
          (handing turns thread begun more before data tx) (.finish thread) =
            some (handed turns thread begun more before
              (TxDriver.finish unlock tx)) := by
        rw [step, handing_turn, empty]
        dsimp only
        rw [Turns.step, handing_turn]
        simp only [handing, handed, setTurn_setTurn, same]
      exact reaches.snoc leaves

end Writers

/-- The calls of `bus_data_tx` in `bus_send_raw`. -/
def busSendRawBlocks (call : SerialHeader × List UInt8) :
    List (List UInt8) :=
  if call.2 = [] then [busHeaderEncode call.1]
  else [busHeaderEncode call.1, call.2]

/-- The bytes of a frame. -/
def frameBytes (call : SerialHeader × List UInt8) : List UInt8 :=
  busHeaderEncode call.1 ++ call.2

/-- The start of a header and the start of a payload. -/
def PartOf (call : SerialHeader × List UInt8) (bytes : List UInt8) : Prop :=
  ∃ first second, first <+: busHeaderEncode call.1 ∧ second <+: call.2 ∧
    bytes = first ++ second

theorem flatten_busSendRawBlocks (call : SerialHeader × List UInt8) :
    (busSendRawBlocks call).flatten = frameBytes call := by
  unfold busSendRawBlocks frameBytes
  split
  · rename_i empty
    simp [empty]
  · simp

theorem partOf_of_cut {call : SerialHeader × List UInt8}
    {bytes : List UInt8} (cut : Turns.Cut (busSendRawBlocks call) bytes) :
    PartOf call bytes := by
  obtain ⟨pieces, starts, rfl⟩ := cut
  unfold busSendRawBlocks at starts
  split at starts
  · rcases starts with _ | ⟨header, _ | _⟩
    exact ⟨_, [], header, List.nil_prefix, by simp⟩
  · rcases starts with _ | ⟨header, _ | ⟨payload, _ | _⟩⟩
    exact ⟨_, _, header, payload, by simp⟩

/-- The line carries one frame after another, each as far as the driver has
taken it, and behind them what the thread with the mutex has written of its
own. -/
structure FramesApart (turns : Turns θ UInt8) : Prop where
  line : turns.line =
    (turns.done.map (·.written)).flatten ++ turns.current
  sent : ∀ item ∈ turns.done, ∃ call,
    item.blocks = busSendRawBlocks call ∧ PartOf call item.written
  present : turns.mutex = .free ∧ turns.current = [] ∨
    ∃ thread call, turns.mutex = .held thread 0 ∧ PartOf call turns.current

/-- The line carries whole frames, and behind them the start of one if a
thread has the mutex. -/
def WholeFrames (turns : Turns θ UInt8) : Prop :=
  ∃ frames : List (SerialHeader × List UInt8),
    turns.done.map (·.blocks) = frames.map busSendRawBlocks ∧
    (turns.line = frames.flatMap frameBytes ∧ turns.mutex = .free ∨
      ∃ thread call written, turns.mutex = .held thread 0 ∧
        written <+: frameBytes call ∧
        turns.line = frames.flatMap frameBytes ++ written)

omit [DecidableEq θ] in
theorem Kept.framesApart (kept : Kept busSendRawBlocks turns) :
    FramesApart turns where
  line := kept.ordered.line
  sent := by
    intro item member
    obtain ⟨call, same⟩ := kept.called.done item member
    refine ⟨call, same, partOf_of_cut ?_⟩
    rw [← same]
    exact kept.ordered.cut item member
  present := by
    rcases kept.present with free | ⟨thread, call, unsent, held, writing⟩
    · exact .inl free
    · refine .inr ⟨thread, call, held, partOf_of_cut ?_⟩
      exact (kept.ordered.underway writing).cut

omit [DecidableEq θ] in
theorem Kept.wholeFrames (kept : Kept busSendRawBlocks turns)
    (complete : turns.Complete) : WholeFrames turns := by
  obtain ⟨frames, same⟩ := kept.exists_calls
  have whole : (turns.done.map (·.written)).flatten =
      frames.flatMap frameBytes := by
    have written : turns.done.map (·.written) =
        (turns.done.map (·.blocks)).map List.flatten := by
      rw [List.map_map]
      exact List.map_congr_left complete.done
    rw [written, same, List.map_map, List.flatMap]
    exact congrArg List.flatten
      (List.map_congr_left fun call _ => flatten_busSendRawBlocks call)
  refine ⟨frames, same, ?_⟩
  rw [kept.ordered.line, whole]
  rcases kept.present with ⟨free, nothing⟩ | ⟨thread, call, unsent, held,
    writing⟩
  · exact .inl ⟨by rw [nothing, List.append_nil], free⟩
  · refine .inr ⟨thread, call, turns.current, held, ?_, rfl⟩
    rw [← flatten_busSendRawBlocks, ← complete.underway writing]
    exact List.prefix_append _ _

/-- Frames of different threads never mix on the host's line: whatever the
driver takes, refuses or fails at, each stands in one piece, cut short only
where the driver has failed or has been full for too long. -/
theorem busSendRaw_apart
    (labels : List (Label θ (SerialHeader × List UInt8)))
    (final : Turns θ UInt8)
    (executed : Run.exec (step busSendRawBlocks) Turns.initial labels =
      some final) :
    FramesApart final ∧
      ((∀ label ∈ labels, label.Succeeds) → WholeFrames final) := by
  have kept := kept_of_exec executed
  refine ⟨kept.framesApart, ?_⟩
  intro succeed
  exact kept.wholeFrames (complete_of_exec executed succeed)

/-- A request and an acknowledgement of two threads; the driver takes the
request in pieces and fails at the acknowledgement. -/
def overlapping : List (Label Bool (SerialHeader × List UInt8)) :=
  [.call true (Bus.ackHeader .hci 1 .noError, [7, 8, 9]),
    .call false (Bus.ackHeader .wifiMgmt 2 .noError, []),
    .lock true, .fill true 3 false, .fill true 0 false, .fill true 1 false,
    .finish true, .fill true 2 false, .fill true 1 false, .finish true,
    .unlock true,
    .lock false, .fill false 2 false, .fill false (-5) false, .unlock false]

theorem overlapping_apart :
    ∃ final, Run.exec (step busSendRawBlocks) Turns.initial overlapping =
        some final ∧
      final.line = [3, 16, 0, 0, 7, 8, 9, 0, 32] ∧ FramesApart final :=
  ⟨_, rfl, rfl, (busSendRaw_apart overlapping _ rfl).1⟩

end SharedLine

end SerialLink
