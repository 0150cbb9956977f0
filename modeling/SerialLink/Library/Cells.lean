import SerialLink.Library.Run

/-!
# Components over shared cells

Components with a state each work on one store of cells, a step of one
component at a time.  Every cell has an owner, and a component that keeps to
its own cells does not notice what stands in the others.

A run of all the components is then, for each of them, the run of that
component alone.
-/

namespace SerialLink

/-- A component and the store it works on. -/
structure Worker (σ κ ν : Type) where
  state : σ
  store : κ → ν

/-- All the components and the store. -/
structure Cells (ι σ κ ν : Type) where
  state : ι → σ
  store : κ → ν

namespace Cells

variable {ι σ κ ν α : Type}

/-- The cells of `who` as in `store`, the others as in `others`. -/
def overlay [DecidableEq ι] (owner : κ → ι) (who : ι)
    (store others : κ → ν) : κ → ν :=
  fun cell => if owner cell = who then store cell else others cell

/-- The same component on a store in which other cells are different. -/
def elsewhere [DecidableEq ι] (owner : κ → ι) (who : ι) (others : κ → ν)
    (worker : Worker σ κ ν) : Worker σ κ ν :=
  { worker with store := overlay owner who worker.store others }

/-- A component, taken out with the store. -/
def worker (cells : Cells ι σ κ ν) (who : ι) : Worker σ κ ν where
  state := cells.state who
  store := cells.store

/-- The component is put back. -/
def replace [DecidableEq ι] (cells : Cells ι σ κ ν) (who : ι)
    (worker : Worker σ κ ν) : Cells ι σ κ ν where
  state := fun other => if other = who then worker.state
    else cells.state other
  store := worker.store

/-- A label says which component makes which step. -/
def step [DecidableEq ι] (move : Worker σ κ ν → α → Option (Worker σ κ ν))
    (cells : Cells ι σ κ ν) (label : ι × α) : Option (Cells ι σ κ ν) :=
  (move (cells.worker label.1) label.2).map (cells.replace label.1)

/-- A step that neither reads nor writes the cells of another component. -/
def Confined [DecidableEq ι]
    (move : Worker σ κ ν → α → Option (Worker σ κ ν)) (owner : κ → ι)
    (cells : Cells ι σ κ ν) (label : ι × α) : Prop :=
  ∀ others, move (elsewhere owner label.1 others (cells.worker label.1))
      label.2 =
    (move (cells.worker label.1) label.2).map
      (elsewhere owner label.1 others)

/-- The steps of one component. -/
def ofWorker [DecidableEq ι] (who : ι) (labels : List (ι × α)) : List α :=
  (labels.filter fun label => label.1 = who).map (·.2)

section Runs

variable [DecidableEq ι] {move : Worker σ κ ν → α → Option (Worker σ κ ν)}
  {owner : κ → ι} {cells later : Cells ι σ κ ν} {label : ι × α}

@[simp] theorem replace_state_self (who : ι) (worker : Worker σ κ ν) :
    (cells.replace who worker).state who = worker.state := by
  simp [replace]

theorem replace_state_other {who other : ι} (worker : Worker σ κ ν)
    (different : other ≠ who) :
    (cells.replace who worker).state other = cells.state other := by
  simp [replace, different]

theorem overlay_self (who : ι) (store : κ → ν) :
    overlay owner who store store = store := by
  funext cell
  unfold overlay
  split <;> rfl

/-- A confined step leaves the cells of the others as they are. -/
theorem Confined.store (confined : Confined move owner cells label)
    (stepped : cells.step move label = some later) {cell : κ}
    (foreign : owner cell ≠ label.1) :
    later.store cell = cells.store cell := by
  obtain ⟨moved, made, rfl⟩ := Option.map_eq_some_iff.mp stepped
  -- Put the cells that are there in their own place.
  have same := confined cells.store
  have here : elsewhere owner label.1 cells.store (cells.worker label.1) =
      cells.worker label.1 := by
    unfold elsewhere worker
    rw [overlay_self]
  rw [here, made, Option.map_some, Option.some.injEq] at same
  have unchanged := congrFun (congrArg Worker.store same) cell
  simpa [elsewhere, overlay, foreign, replace] using unchanged

/-- A component alone makes the steps that it makes among the others. -/
theorem Confined.own (confined : Confined move owner cells label)
    (stepped : cells.step move label = some later) (others : κ → ν) :
    move (elsewhere owner label.1 others (cells.worker label.1)) label.2 =
      some (elsewhere owner label.1 others (later.worker label.1)) := by
  obtain ⟨moved, made, rfl⟩ := Option.map_eq_some_iff.mp stepped
  rw [confined others, made, Option.map_some]
  simp [worker, replace]

/-- A component does not notice a step of another one. -/
theorem Confined.other (confined : Confined move owner cells label)
    (stepped : cells.step move label = some later) {who : ι}
    (different : who ≠ label.1) (others : κ → ν) :
    elsewhere owner who others (later.worker who) =
      elsewhere owner who others (cells.worker who) := by
  have kept : overlay owner who later.store others =
      overlay owner who cells.store others := by
    funext cell
    unfold overlay
    split
    · rename_i own
      refine confined.store stepped ?_
      rw [own]
      exact different
    · rfl
  obtain ⟨moved, made, rfl⟩ := Option.map_eq_some_iff.mp stepped
  unfold elsewhere worker
  rw [replace_state_other moved different, kept]

/-- What a component does among the others it does alone. -/
theorem exec_alone {labels : List (ι × α)} {final : Cells ι σ κ ν}
    (run : Run.GuardedRun (step move) (Confined move owner) cells labels
      final) (who : ι) (others : κ → ν) :
    Run.exec move (elsewhere owner who others (cells.worker who))
        (ofWorker who labels) =
      some (elsewhere owner who others (final.worker who)) := by
  induction run with
  | nil => rfl
  | @cons state next last label rest confined stepped _ induction =>
      by_cases own : label.1 = who
      · subst own
        have taken := confined.own stepped others
        simpa [ofWorker, Run.exec, taken] using induction
      · have unnoticed := confined.other stepped (Ne.symm own) others
        rw [unnoticed] at induction
        simpa [ofWorker, own] using induction

end Runs

end Cells

end SerialLink
