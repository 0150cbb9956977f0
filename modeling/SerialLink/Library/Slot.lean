import SerialLink.Library.Run

/-!
# A place for one item

Items are put into an empty place and taken out of a full one.  Both are
recorded, so that what has been taken is what has been put, in the same order,
up to the item in the place.  A system whose steps are steps of a place, seen
through a projection, hands every item over exactly once.
-/

namespace SerialLink

structure Slot (α : Type) where
  content : Option α
  puts : List α
  takes : List α

namespace Slot

variable {α : Type} {slot later : Slot α}

inductive Step (slot : Slot α) : Slot α → Prop where
  | rest : Step slot slot
  | put (item : α) (empty : slot.content = none) :
      Step slot { slot with
        content := some item
        puts := slot.puts ++ [item] }
  | take {item : α} (full : slot.content = some item) :
      Step slot { slot with
        content := none
        takes := slot.takes ++ [item] }

/-- Every item but the one in the place has been taken once. -/
def Balanced (slot : Slot α) : Prop :=
  slot.puts = slot.takes ++ slot.content.toList

theorem Balanced.step (balanced : slot.Balanced) (stepped : Step slot later) :
    later.Balanced := by
  unfold Balanced at balanced ⊢
  cases stepped with
  | rest => exact balanced
  | put item empty => simp [balanced, empty]
  | take full => simp [balanced, full]

/-- An item is taken at most once. -/
theorem Balanced.takes_le (balanced : slot.Balanced) :
    slot.takes.length ≤ slot.puts.length := by
  rw [balanced, List.length_append]
  exact Nat.le_add_right _ _

/-- The simulation rule: an invariant under which every guarded step is a step
of a place keeps the place balanced along a run. -/
theorem balanced_of_run {σ ι : Type} {step : σ → ι → Option σ}
    {guard : σ → ι → Prop} {invariant : σ → Prop} {view : σ → Slot α}
    (simulated : ∀ state label later, invariant state → guard state label →
      step state label = some later →
        invariant later ∧ Step (view state) (view later))
    {state final : σ} {labels : List ι}
    (run : Run.GuardedRun step guard state labels final)
    (holds : invariant state) (balanced : (view state).Balanced) :
    invariant final ∧ (view final).Balanced := by
  have preserved : ∀ state label later,
      invariant state ∧ (view state).Balanced → guard state label →
        step state label = some later →
          invariant later ∧ (view later).Balanced := by
    rintro state label later ⟨holds, balanced⟩ allowed stepped
    obtain ⟨kept, simulating⟩ :=
      simulated state label later holds allowed stepped
    exact ⟨kept, balanced.step simulating⟩
  exact run.preserves preserved ⟨holds, balanced⟩

end Slot

end SerialLink
