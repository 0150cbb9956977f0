import Mathlib.Data.List.Forall2
import SerialLink.Library.Mutex
import SerialLink.Library.Run

/-!
# Writers that take turns

Any number of threads write blocks of items to one line, a piece at a time.  A
thread takes a mutex, writes its blocks one after another and gives the mutex
back; it may leave a block before all of it is written.

Whatever the threads and their pieces do, the line is what the threads have
written in the order in which they had the mutex: nothing of one thread stands
between two pieces of another.
-/

namespace SerialLink

/-- Where a thread stands with its blocks. -/
inductive Turn (α : Type) where
  | outside
  | waiting (blocks : List (List α))
  /-- With the mutex: the blocks, what is left of the present one and those
  behind it, and what has been written. -/
  | writing (blocks unsent : List (List α)) (written : List α)

/-- The blocks that a thread has been called with. -/
def Turn.called {α : Type} : Turn α → Option (List (List α))
  | .outside => none
  | .waiting blocks => some blocks
  | .writing blocks _ _ => some blocks

/-- The blocks of a thread that has given the mutex back, and what it has
written of them. -/
structure Written (α : Type) where
  blocks : List (List α)
  written : List α

structure Turns (θ α : Type) where
  mutex : Mutex θ
  turn : θ → Turn α
  line : List α
  done : List (Written α)

namespace Turns

variable {θ α : Type}

inductive Label (θ α : Type) where
  | call (thread : θ) (blocks : List (List α))
  | lock (thread : θ)
  /-- The next items of the present block. -/
  | put (thread : θ) (count : Nat)
  /-- The present block is left, written or not. -/
  | leave (thread : θ)
  | unlock (thread : θ)

/-- The steps of a thread between its call and its return. -/
def Label.Inner : Label θ α → Prop
  | .lock _ | .put _ _ | .leave _ => True
  | .call _ _ | .unlock _ => False

/-- Prefixes of blocks, one after another. -/
def Cut (blocks : List (List α)) (written : List α) : Prop :=
  ∃ pieces, List.Forall₂ (· <+: ·) pieces blocks ∧ written = pieces.flatten

theorem Cut.append {first second : List (List α)} {before more : List α}
    (one : Cut first before) (other : Cut second more) :
    Cut (first ++ second) (before ++ more) := by
  obtain ⟨pieces, starts, rfl⟩ := one
  obtain ⟨others, ends, rfl⟩ := other
  refine ⟨pieces ++ others, List.rel_append starts ends, ?_⟩
  exact List.flatten_append.symm

theorem Cut.piece {piece block : List α} (start : piece <+: block) :
    Cut [block] piece :=
  ⟨[piece], .cons start .nil, by simp⟩

theorem Cut.nothing (blocks : List (List α)) : Cut blocks [] := by
  refine ⟨blocks.map fun _ => [], ?_, by simp⟩
  rw [List.forall₂_map_left_iff]
  exact List.forall₂_same.mpr fun block _ => List.nil_prefix

/-- What a thread with the mutex has written and has left to write. -/
def Underway (blocks : List (List α)) :
    List (List α) → List α → Prop
  | [], written => Cut blocks written
  | rest :: more, written =>
      ∃ begun before piece, blocks = begun ++ (piece ++ rest) :: more ∧
        Cut begun before ∧ written = before ++ piece

theorem Underway.begin (blocks : List (List α)) :
    Underway blocks blocks [] := by
  cases blocks with
  | nil => exact .nothing []
  | cons block more => exact ⟨[], [], [], rfl, .nothing [], rfl⟩

theorem Underway.put {blocks more : List (List α)} {block written : List α}
    (underway : Underway blocks (block :: more) written) (count : Nat) :
    Underway blocks (block.drop count :: more)
      (written ++ block.take count) := by
  obtain ⟨begun, before, piece, rfl, cut, rfl⟩ := underway
  refine ⟨begun, before, piece ++ block.take count, ?_, cut, ?_⟩
  · rw [List.append_assoc, List.take_append_drop]
  · rw [List.append_assoc]

theorem Underway.leave {blocks more : List (List α)} {rest written : List α}
    (underway : Underway blocks (rest :: more) written) :
    Underway blocks more written := by
  obtain ⟨begun, before, piece, rfl, cut, rfl⟩ := underway
  have longer : Cut (begun ++ [piece ++ rest]) (before ++ piece) :=
    cut.append (.piece (List.prefix_append piece rest))
  cases more with
  | nil => exact longer
  | cons block more =>
      refine ⟨begun ++ [piece ++ rest], before ++ piece, [], ?_, longer, ?_⟩
      · simp
      · simp

/-- Of the blocks that have not been begun, nothing has been written. -/
theorem Underway.cut {blocks unsent : List (List α)} {written : List α}
    (underway : Underway blocks unsent written) : Cut blocks written := by
  cases unsent with
  | nil => exact underway
  | cons rest more =>
      obtain ⟨begun, before, piece, rfl, cut, rfl⟩ := underway
      have present := cut.append (.piece (List.prefix_append piece rest))
      have all := present.append (.nothing more)
      rwa [List.append_nil, List.append_assoc] at all

def setTurn [DecidableEq θ] (turns : Turns θ α) (thread : θ)
    (turn : Turn α) : Turns θ α :=
  { turns with
    turn := fun other => if other = thread then turn else turns.turn other }

def step [DecidableEq θ] (turns : Turns θ α) :
    Label θ α → Option (Turns θ α)
  | .call thread blocks =>
      match turns.turn thread with
      | .outside => some (turns.setTurn thread (.waiting blocks))
      | _ => none
  | .lock thread =>
      match turns.turn thread with
      | .waiting blocks =>
          (turns.mutex.lock thread).map fun locked =>
            { turns.setTurn thread (.writing blocks blocks []) with
              mutex := locked }
      | _ => none
  | .put thread count =>
      match turns.turn thread with
      | .writing blocks (block :: more) written =>
          if count ≤ block.length then
            some { turns.setTurn thread
                (.writing blocks (block.drop count :: more)
                  (written ++ block.take count)) with
              line := turns.line ++ block.take count }
          else none
      | _ => none
  | .leave thread =>
      match turns.turn thread with
      | .writing blocks (_ :: more) written =>
          some (turns.setTurn thread (.writing blocks more written))
      | _ => none
  | .unlock thread =>
      match turns.turn thread with
      | .writing blocks [] written =>
          some { turns.setTurn thread .outside with
            mutex := turns.mutex.unlock thread
            done := turns.done ++ [{ blocks, written }] }
      | _ => none

def initial : Turns θ α where
  mutex := .free
  turn := fun _ => .outside
  line := []
  done := []

/-- What the thread with the mutex has written. -/
def current (turns : Turns θ α) : List α :=
  match turns.mutex with
  | .free => []
  | .held owner _ =>
      match turns.turn owner with
      | .writing _ _ written => written
      | _ => []

/-- The threads write one after another. -/
structure Ordered (turns : Turns θ α) : Prop where
  owner : ∀ {thread blocks unsent written},
    turns.turn thread = .writing blocks unsent written →
      turns.mutex = .held thread 0
  writer : ∀ {thread again}, turns.mutex = .held thread again →
    ∃ blocks unsent written,
      turns.turn thread = .writing blocks unsent written
  line : turns.line =
    (turns.done.map (·.written)).flatten ++ turns.current
  cut : ∀ item ∈ turns.done, Cut item.blocks item.written
  underway : ∀ {thread blocks unsent written},
    turns.turn thread = .writing blocks unsent written →
      Underway blocks unsent written

theorem initial_ordered : Ordered (initial : Turns θ α) where
  owner := by
    intro thread blocks unsent written turn
    cases turn
  writer := by
    intro thread again held
    cases held
  line := rfl
  cut := by
    intro item member
    cases member
  underway := by
    intro thread blocks unsent written turn
    cases turn

/-- Nothing that is left of a block is dropped. -/
def Finishes (turns : Turns θ α) : Label θ α → Prop
  | .leave thread => ∀ blocks rest more written,
      turns.turn thread = .writing blocks (rest :: more) written → rest = []
  | _ => True

/-- What is written and what is not make up the blocks. -/
structure Complete (turns : Turns θ α) : Prop where
  done : ∀ item ∈ turns.done, item.written = item.blocks.flatten
  underway : ∀ {thread blocks unsent written},
    turns.turn thread = .writing blocks unsent written →
      written ++ unsent.flatten = blocks.flatten

theorem initial_complete : Complete (initial : Turns θ α) where
  done := by
    intro item member
    cases member
  underway := by
    intro thread blocks unsent written turn
    cases turn

theorem current_of_held {turns : Turns θ α} {thread : θ} {again : Nat}
    {blocks unsent : List (List α)} {written : List α}
    (held : turns.mutex = .held thread again)
    (writing : turns.turn thread = .writing blocks unsent written) :
    turns.current = written := by
  simp [current, held, writing]

theorem current_of_free {turns : Turns θ α} (free : turns.mutex = .free) :
    turns.current = [] := by
  simp [current, free]

theorem Ordered.writes {turns : Turns θ α} {thread : θ}
    (ordered : Ordered turns)
    {blocks unsent : List (List α)} {written : List α}
    (writing : turns.turn thread = .writing blocks unsent written) :
    turns.line = (turns.done.map (·.written)).flatten ++ written := by
  rw [ordered.line, current_of_held (ordered.owner writing) writing]

/-- The threads have been called with such blocks only. -/
structure Called (property : List (List α) → Prop) (turns : Turns θ α) :
    Prop where
  done : ∀ item ∈ turns.done, property item.blocks
  turn : ∀ thread, ∀ blocks ∈ (turns.turn thread).called, property blocks

theorem initial_called (property : List (List α) → Prop) :
    Called property (initial : Turns θ α) where
  done := by
    intro item member
    cases member
  turn := by
    intro thread blocks called
    cases called

section Steps

variable [DecidableEq θ] {turns later : Turns θ α} {thread other : θ}

@[simp] theorem setTurn_self (turns : Turns θ α) (thread : θ)
    (turn : Turn α) : (turns.setTurn thread turn).turn thread = turn := by
  simp [setTurn]

theorem setTurn_other (turns : Turns θ α) {thread other : θ} (turn : Turn α)
    (different : other ≠ thread) :
    (turns.setTurn thread turn).turn other = turns.turn other := by
  simp [setTurn, different]

/-- What a step can be. -/
theorem step_cases {label : Label θ α}
    (stepped : turns.step label = some later) :
    (∃ thread blocks, label = .call thread blocks ∧
        turns.turn thread = .outside ∧
        later = turns.setTurn thread (.waiting blocks)) ∨
    (∃ thread blocks locked, label = .lock thread ∧
        turns.turn thread = .waiting blocks ∧
        turns.mutex.lock thread = some locked ∧
        later = { turns.setTurn thread (.writing blocks blocks []) with
          mutex := locked }) ∨
    (∃ thread blocks block more written count, label = .put thread count ∧
        turns.turn thread = .writing blocks (block :: more) written ∧
        count ≤ block.length ∧
        later = { turns.setTurn thread
            (.writing blocks (block.drop count :: more)
              (written ++ block.take count)) with
          line := turns.line ++ block.take count }) ∨
    (∃ thread blocks rest more written, label = .leave thread ∧
        turns.turn thread = .writing blocks (rest :: more) written ∧
        later = turns.setTurn thread (.writing blocks more written)) ∨
    (∃ thread blocks written, label = .unlock thread ∧
        turns.turn thread = .writing blocks [] written ∧
        later = { turns.setTurn thread .outside with
          mutex := turns.mutex.unlock thread
          done := turns.done ++ [{ blocks, written }] }) := by
  cases label with
  | call thread blocks =>
      rw [step] at stepped
      split at stepped
      · rename_i turn
        cases stepped
        exact .inl ⟨thread, blocks, rfl, turn, rfl⟩
      · cases stepped
  | lock thread =>
      rw [step] at stepped
      split at stepped
      · rename_i blocks turn
        obtain ⟨locked, taken, rfl⟩ := Option.map_eq_some_iff.mp stepped
        exact .inr (.inl ⟨thread, blocks, locked, rfl, turn, taken, rfl⟩)
      · cases stepped
  | put thread count =>
      rw [step] at stepped
      split at stepped
      · rename_i blocks block more written turn
        split at stepped
        · rename_i enough
          cases stepped
          exact .inr (.inr (.inl ⟨thread, blocks, block, more, written, count,
            rfl, turn, enough, rfl⟩))
        · cases stepped
      · cases stepped
  | leave thread =>
      rw [step] at stepped
      split at stepped
      · rename_i blocks rest more written turn
        cases stepped
        exact .inr (.inr (.inr (.inl ⟨thread, blocks, rest, more, written, rfl,
          turn, rfl⟩)))
      · cases stepped
  | unlock thread =>
      rw [step] at stepped
      split at stepped
      · rename_i blocks written turn
        cases stepped
        exact .inr (.inr (.inr (.inr ⟨thread, blocks, written, rfl, turn,
          rfl⟩)))
      · cases stepped

/-- The thread that has moved, or another one, which stands still. -/
theorem turn_cases {turn present : Turn α}
    (now : (turns.setTurn thread turn).turn other = present) :
    other = thread ∧ turn = present ∨
      other ≠ thread ∧ turns.turn other = present := by
  by_cases same : other = thread
  · subst same
    rw [setTurn_self] at now
    exact .inl ⟨rfl, now⟩
  · rw [setTurn_other turns turn same] at now
    exact .inr ⟨same, now⟩

theorem called_setTurn {turn : Turn α}
    (same : turn.called = (turns.turn thread).called) (other : θ) :
    ((turns.setTurn thread turn).turn other).called =
      (turns.turn other).called := by
  by_cases moved : other = thread
  · subst moved
    rw [setTurn_self, same]
  · rw [setTurn_other turns turn moved]

/-- Between its call and its return a thread keeps its blocks, and the others
do not move. -/
theorem step_inner {label : Label θ α} (inner : label.Inner)
    (stepped : turns.step label = some later) :
    later.done = turns.done ∧
      ∀ other, (later.turn other).called = (turns.turn other).called := by
  obtain ⟨thread, blocks, rfl, -⟩ |
    ⟨thread, blocks, locked, -, waiting, taken, rfl⟩ |
    ⟨thread, blocks, block, more, written, count, -, writing, -, rfl⟩ |
    ⟨thread, blocks, rest, more, written, -, writing, rfl⟩ |
    ⟨thread, blocks, written, rfl, -⟩ := step_cases stepped
  · exact inner.elim
  · exact ⟨rfl, called_setTurn (by rw [waiting]; rfl)⟩
  · exact ⟨rfl, called_setTurn (by rw [writing]; rfl)⟩
  · exact ⟨rfl, called_setTurn (by rw [writing]; rfl)⟩
  · exact inner.elim

/-- A thread that writes, where the one that has moved does not. -/
theorem other_writing {turn : Turn α} {blocks unsent : List (List α)}
    {written : List α} (outside : ∀ blocks unsent written,
      turn ≠ .writing blocks unsent written)
    (writing : (turns.setTurn thread turn).turn other =
      .writing blocks unsent written) :
    other ≠ thread ∧ turns.turn other = .writing blocks unsent written := by
  rcases turn_cases writing with ⟨-, moved⟩ | still
  · exact absurd moved (outside _ _ _)
  · exact still

/-- A thread that does not have the mutex may change its own state. -/
theorem Ordered.idle (ordered : Ordered turns) {turn : Turn α}
    (still : ∀ blocks unsent written,
      turns.turn thread ≠ .writing blocks unsent written)
    (outside : ∀ blocks unsent written,
      turn ≠ .writing blocks unsent written) :
    Ordered (turns.setTurn thread turn) := by
  have kept : ∀ {other again}, turns.mutex = .held other again →
      (turns.setTurn thread turn).turn other = turns.turn other := by
    intro other again held
    obtain ⟨blocks, unsent, written, writing⟩ := ordered.writer held
    apply setTurn_other
    rintro rfl
    exact still _ _ _ writing
  refine ⟨?_, ?_, ?_, ordered.cut, ?_⟩
  · intro other _ _ _ writing
    exact ordered.owner (other_writing outside writing).2
  · intro other again held
    rw [kept held]
    exact ordered.writer held
  · refine ordered.line.trans (congrArg _ ?_)
    have mutex : (turns.setTurn thread turn).mutex = turns.mutex := rfl
    cases held : turns.mutex with
    | free => rw [current_of_free held, current_of_free (mutex.trans held)]
    | held owner again =>
        obtain ⟨_, _, _, writing⟩ := ordered.writer held
        rw [current_of_held held writing,
          current_of_held (mutex.trans held) ((kept held).trans writing)]
  · intro other _ _ _ writing
    exact ordered.underway (other_writing outside writing).2

/-- The thread with the mutex writes or goes on to the next block. -/
theorem Ordered.move (ordered : Ordered turns)
    {blocks unsent next : List (List α)} {written more : List α}
    (writing : turns.turn thread = .writing blocks unsent written)
    (underway : Underway blocks next (written ++ more)) :
    Ordered { turns.setTurn thread (.writing blocks next (written ++ more))
      with line := turns.line ++ more } where
  owner := by
    intro other _ _ _ held
    rcases turn_cases held with ⟨rfl, -⟩ | ⟨-, still⟩
    · exact ordered.owner writing
    · exact ordered.owner still
  writer := by
    intro other again held
    obtain ⟨_, _, _, present⟩ := ordered.writer held
    by_cases same : other = thread
    · subst same
      exact ⟨_, _, _, setTurn_self turns other _⟩
    · refine ⟨_, _, _, (setTurn_other turns _ same).trans present⟩
  line := by
    have now : Turns.current { turns.setTurn thread
        (.writing blocks next (written ++ more)) with
          line := turns.line ++ more } = written ++ more :=
      current_of_held (ordered.owner writing)
        (setTurn_self turns thread (.writing blocks next (written ++ more)))
    rw [now, ← List.append_assoc]
    exact congrArg (· ++ more) (ordered.writes writing)
  cut := ordered.cut
  underway := by
    intro other _ _ _ held
    rcases turn_cases held with ⟨rfl, same⟩ | ⟨-, still⟩
    · cases same
      exact underway
    · exact ordered.underway still

theorem Ordered.lock (ordered : Ordered turns) {blocks : List (List α)}
    {locked : Mutex θ} (waiting : turns.turn thread = .waiting blocks)
    (taken : turns.mutex.lock thread = some locked) :
    Ordered { turns.setTurn thread (.writing blocks blocks []) with
      mutex := locked } := by
  obtain ⟨free, rfl⟩ | ⟨again, held, -⟩ := Mutex.lock_cases taken
  · -- Nobody has the mutex, hence nobody is writing.
    have nobody : ∀ {other blocks unsent written},
        turns.turn other ≠ .writing blocks unsent written := by
      intro other _ _ _ writing
      have held := ordered.owner writing
      rw [free] at held
      cases held
    have now : Turns.current { turns.setTurn thread (.writing blocks blocks [])
        with mutex := .held thread 0 } = [] :=
      current_of_held rfl
        (setTurn_self turns thread (.writing blocks blocks []))
    refine ⟨?_, ?_, ?_, ordered.cut, ?_⟩
    · intro other _ _ _ writing
      rcases turn_cases writing with ⟨rfl, -⟩ | ⟨-, still⟩
      · rfl
      · exact absurd still nobody
    · intro other again held
      cases held
      exact ⟨_, _, _, setTurn_self turns thread _⟩
    · rw [now]
      rw [← current_of_free free]
      exact ordered.line
    · intro other _ _ _ writing
      rcases turn_cases writing with ⟨rfl, same⟩ | ⟨-, still⟩
      · cases same
        exact .begin blocks
      · exact absurd still nobody
  · -- A thread that waits does not have the mutex.
    obtain ⟨_, _, _, writing⟩ := ordered.writer held
    cases waiting.symm.trans writing

theorem Ordered.unlock (ordered : Ordered turns) {blocks : List (List α)}
    {written : List α}
    (writing : turns.turn thread = .writing blocks [] written) :
    Ordered { turns.setTurn thread .outside with
      mutex := turns.mutex.unlock thread
      done := turns.done ++ [{ blocks, written }] } := by
  have free : turns.mutex.unlock thread = .free := by
    simp [ordered.owner writing, Mutex.unlock]
  have nobody : ∀ {other blocks unsent written},
      (turns.setTurn thread .outside).turn other ≠
        .writing blocks unsent written := by
    intro other _ _ _ still
    obtain ⟨different, still⟩ := other_writing (by simp) still
    have held := (ordered.owner writing).symm.trans (ordered.owner still)
    cases held
    exact different rfl
  refine ⟨?_, ?_, ?_, ?_, ?_⟩
  · intro other _ _ _ still
    exact absurd still nobody
  · intro other again held
    cases free.symm.trans held
  · rw [current_of_free free, List.append_nil, List.map_append,
      List.flatten_append]
    exact (ordered.writes writing).trans (by simp)
  · intro item member
    rcases List.mem_append.mp member with before | last
    · exact ordered.cut item before
    · cases List.mem_singleton.mp last
      exact ordered.underway writing
  · intro other _ _ _ still
    exact absurd still nobody

theorem Ordered.step {label : Label θ α} (ordered : Ordered turns)
    (stepped : turns.step label = some later) : Ordered later := by
  obtain ⟨thread, blocks, -, outside, rfl⟩ |
    ⟨thread, blocks, locked, -, waiting, taken, rfl⟩ |
    ⟨thread, blocks, block, more, written, count, -, writing, -, rfl⟩ |
    ⟨thread, blocks, rest, more, written, -, writing, rfl⟩ |
    ⟨thread, blocks, written, -, writing, rfl⟩ := step_cases stepped
  · exact ordered.idle (by simp [outside]) (by simp)
  · exact ordered.lock waiting taken
  · exact ordered.move writing ((ordered.underway writing).put count)
  · have underway : Underway blocks more (written ++ []) := by
      rw [List.append_nil]
      exact (ordered.underway writing).leave
    have moved := ordered.move writing underway
    rw [List.append_nil, List.append_nil] at moved
    exact moved
  · exact ordered.unlock writing

theorem Complete.step {label : Label θ α} (complete : Complete turns)
    (finishes : Finishes turns label)
    (stepped : turns.step label = some later) : Complete later := by
  obtain ⟨thread, blocks, -, outside, rfl⟩ |
    ⟨thread, blocks, locked, -, waiting, taken, rfl⟩ |
    ⟨thread, blocks, block, more, written, count, -, writing, -, rfl⟩ |
    ⟨thread, blocks, rest, more, written, rfl, writing, rfl⟩ |
    ⟨thread, blocks, written, -, writing, rfl⟩ := step_cases stepped
  · refine ⟨complete.done, ?_⟩
    intro other _ _ _ still
    exact complete.underway (other_writing (by simp) still).2
  · refine ⟨complete.done, ?_⟩
    intro other _ _ _ still
    rcases turn_cases still with ⟨-, same⟩ | ⟨-, still⟩
    · cases same
      rfl
    · exact complete.underway still
  · refine ⟨complete.done, ?_⟩
    intro other _ _ _ still
    rcases turn_cases still with ⟨-, same⟩ | ⟨-, still⟩
    · cases same
      rw [← complete.underway writing, List.flatten_cons, List.flatten_cons,
        List.append_assoc, ← List.append_assoc (block.take count),
        List.take_append_drop]
    · exact complete.underway still
  · refine ⟨complete.done, ?_⟩
    intro other _ _ _ still
    rcases turn_cases still with ⟨-, same⟩ | ⟨-, still⟩
    · cases same
      rw [← complete.underway writing, finishes _ _ _ _ writing]
      rfl
    · exact complete.underway still
  · refine ⟨?_, ?_⟩
    · intro item member
      rcases List.mem_append.mp member with before | last
      · exact complete.done item before
      · cases List.mem_singleton.mp last
        simpa using complete.underway writing
    · intro other _ _ _ still
      exact complete.underway (other_writing (by simp) still).2

theorem Called.step {property : List (List α) → Prop} {label : Label θ α}
    (called : Called property turns)
    (given : ∀ thread blocks, label = .call thread blocks → property blocks)
    (stepped : turns.step label = some later) : Called property later := by
  by_cases inner : label.Inner
  · obtain ⟨done, kept⟩ := step_inner inner stepped
    refine ⟨done ▸ called.done, fun thread => ?_⟩
    rw [kept]
    exact called.turn thread
  · obtain ⟨thread, blocks, rfl, -, rfl⟩ | ⟨_, _, _, rfl, -⟩ |
      ⟨_, _, _, _, _, _, rfl, -⟩ | ⟨_, _, _, _, _, rfl, -⟩ |
      ⟨thread, blocks, written, rfl, writing, rfl⟩ := step_cases stepped
    · refine ⟨called.done, fun other present now => ?_⟩
      by_cases same : other = thread
      · subst same
        rw [setTurn_self] at now
        cases now
        exact given other blocks rfl
      · rw [setTurn_other turns _ same] at now
        exact called.turn other present now
    · exact absurd trivial inner
    · exact absurd trivial inner
    · exact absurd trivial inner
    · refine ⟨?_, ?_⟩
      · intro item member
        rcases List.mem_append.mp member with before | last
        · exact called.done item before
        · cases List.mem_singleton.mp last
          exact called.turn thread blocks (by rw [writing]; rfl)
      · intro other present now
        by_cases same : other = thread
        · subst same
          rw [show _ = Turn.outside from setTurn_self turns other .outside]
            at now
          cases now
        · rw [show _ = turns.turn other from setTurn_other turns _ same]
            at now
          exact called.turn other present now

end Steps

end Turns

end SerialLink
