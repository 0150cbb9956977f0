/-!
# Calls one after another, up to the first that fails

A function that makes a list of calls and returns at the first that fails.
What the calls before that one did stays done: `applied` are the calls that
took effect, and `settle` is the state they leave.  Where each call sets a
cell of its own, the state is what it was just when every cell that was set
had its value before.
-/

namespace SerialLink

namespace Attempt

variable {κ σ γ : Type} (call : κ → Int)

/-- The calls that are made, with their results. -/
def attempt : List κ → List (κ × Int)
  | [] => []
  | item :: items =>
      if call item ≠ 0 then [(item, call item)]
      else (item, call item) :: attempt items

/-- The calls before the first that fails. -/
def applied (items : List κ) : List κ :=
  items.takeWhile (fun item => decide (call item = 0))

/-- The state after calls with their results; a call that fails changes
nothing. -/
def settle (effect : σ → κ → σ) (state : σ) (calls : List (κ × Int)) : σ :=
  calls.foldl
    (fun state (item, ret) => if ret = 0 then effect state item else state)
    state

variable {call} {effect : σ → κ → σ}

theorem settle_attempt (state : σ) (items : List κ) :
    settle effect state (attempt call items) =
      (applied call items).foldl effect state := by
  induction items generalizing state with
  | nil => rfl
  | cons item items induction =>
      by_cases done : call item = 0
      · have later := induction (effect state item)
        simpa [attempt, applied, settle, done] using later
      · simp [attempt, applied, settle, done]

theorem mem_of_mem_attempt {item : κ} {ret : Int} {items : List κ}
    (made : (item, ret) ∈ attempt call items) : item ∈ items := by
  induction items with
  | nil => exact absurd made List.not_mem_nil
  | cons first items induction =>
      rw [attempt] at made
      split at made
      · obtain ⟨rfl, -⟩ := Prod.mk.inj (List.mem_singleton.mp made)
        exact List.mem_cons_self
      · rcases List.mem_cons.mp made with same | later
        · obtain ⟨rfl, -⟩ := Prod.mk.inj same
          exact List.mem_cons_self
        · exact List.mem_cons_of_mem first (induction later)

/-- Another call than the first is made only if the first has succeeded. -/
theorem first_done_of_mem_attempt {first item : κ} {ret : Int}
    {items : List κ} (made : (item, ret) ∈ attempt call (first :: items))
    (other : item ≠ first) : call first = 0 := by
  rw [attempt] at made
  split at made
  · obtain ⟨same, -⟩ := Prod.mk.inj (List.mem_singleton.mp made)
    exact absurd same other
  · rename_i done
    exact Decidable.not_not.mp done

theorem applied_eq_self {items : List κ}
    (done : ∀ item ∈ items, call item = 0) : applied call items = items := by
  induction items with
  | nil => rfl
  | cons item items induction =>
      obtain ⟨first, rest⟩ := List.forall_mem_cons.mp done
      have later := induction rest
      simpa [applied, first] using later

/-- Items that set cells of their own: `has` says that an item's cell has the
value that the item sets. -/
structure Cells (effect : σ → κ → σ) (cell : κ → γ) (has : σ → κ → Prop) :
    Prop where
  sets : ∀ state item, has (effect state item) item
  keeps : ∀ state item other, cell item ≠ cell other →
    (has (effect state item) other ↔ has state other)
  idle : ∀ state item, has state item → effect state item = state

variable {cell : κ → γ} {has : σ → κ → Prop}

theorem Cells.foldl_keeps (cells : Cells effect cell has) {other : κ}
    (items : List κ) (apart : ∀ item ∈ items, cell item ≠ cell other)
    (state : σ) :
    has (items.foldl effect state) other ↔ has state other := by
  induction items generalizing state with
  | nil => rfl
  | cons item items induction =>
      have rest := induction
        (fun later member => apart later (List.mem_cons_of_mem item member))
        (effect state item)
      exact rest.trans
        (cells.keeps state item other (apart item List.mem_cons_self))

/-- Each cell that was set keeps its value to the end. -/
theorem Cells.foldl_sets (cells : Cells effect cell has) (items : List κ)
    (apart : items.Pairwise fun left right => cell left ≠ cell right)
    (state : σ) : ∀ item ∈ items, has (items.foldl effect state) item := by
  induction items generalizing state with
  | nil => exact fun item member => absurd member List.not_mem_nil
  | cons first items induction =>
      obtain ⟨firstApart, restApart⟩ := List.pairwise_cons.mp apart
      intro item member
      rcases List.mem_cons.mp member with rfl | later
      · apply (cells.foldl_keeps items _ _).mpr (cells.sets state item)
        intro other otherMember
        exact (firstApart other otherMember).symm
      · exact induction restApart (effect state first) item later

theorem Cells.foldl_idle (cells : Cells effect cell has) (items : List κ)
    {state : σ} (had : ∀ item ∈ items, has state item) :
    items.foldl effect state = state := by
  induction items with
  | nil => rfl
  | cons item items induction =>
      rw [List.foldl_cons,
        cells.idle state item (had item List.mem_cons_self)]
      apply induction
      intro later member
      exact had later (List.mem_cons_of_mem item member)

/-- The calls leave the state as it was just when every cell that was set had
its value before. -/
theorem Cells.settle_eq_self_iff (cells : Cells effect cell has)
    (items : List κ)
    (apart : items.Pairwise fun left right => cell left ≠ cell right)
    (state : σ) :
    settle effect state (attempt call items) = state ↔
      ∀ item ∈ applied call items, has state item := by
  rw [settle_attempt]
  have appliedApart := apart.sublist
    (List.takeWhile_sublist fun item => decide (call item = 0))
  constructor
  · intro same item member
    have final := cells.foldl_sets _ appliedApart state item member
    change has ((applied call items).foldl effect state) item at final
    rwa [same] at final
  · exact cells.foldl_idle _

end Attempt

end SerialLink
