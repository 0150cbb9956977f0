import Mathlib.Data.List.Forall2

/-!
# Waiting for items one after the other

`seek` passes over the items of a list up to the first that matches, and
`pick` does this for several conditions in turn, each from where the last one
stopped.  Taking the first match every time misses nothing: `pick` succeeds
wherever the list has matching items in the order of the conditions.
-/

namespace SerialLink

namespace FirstMatch

variable {α : Type}

/-- The first item that matches, and those behind it. -/
def seek (matching : α → Bool) : List α → Option (α × List α)
  | [] => none
  | item :: items =>
      if matching item then some (item, items) else seek matching items

/-- The items found for the conditions, each behind the last. -/
def pick : List (α → Bool) → List α → Option (List α)
  | [], _ => some []
  | matching :: conditions, items =>
      match seek matching items with
      | none => none
      | some (item, rest) => (pick conditions rest).map (item :: ·)

/-- A sought item is found, or none is there. -/
theorem seek_cases (matching : α → Bool) (items : List α) :
    (seek matching items = none ∧ ∀ item ∈ items, matching item = false) ∨
      ∃ skips item rest, seek matching items = some (item, rest) ∧
        items = skips ++ item :: rest ∧
        (∀ skip ∈ skips, matching skip = false) ∧ matching item = true := by
  induction items with
  | nil => exact .inl ⟨rfl, by simp⟩
  | cons item items induction =>
      cases matched : matching item with
      | true =>
          refine .inr ⟨[], item, items, ?_, rfl, by simp, matched⟩
          rw [seek, if_pos matched]
      | false =>
          have passed : seek matching (item :: items) =
              seek matching items := by
            rw [seek, matched, if_neg (by decide)]
          rcases induction with ⟨nothing, others⟩ |
            ⟨skips, found, rest, sought, split, skipped, answer⟩
          · refine .inl ⟨passed.trans nothing, ?_⟩
            intro other member
            rcases List.mem_cons.mp member with rfl | later
            · exact matched
            · exact others other later
          · refine .inr ⟨item :: skips, found, rest, passed.trans sought,
              by rw [split]; rfl, ?_, answer⟩
            intro other member
            rcases List.mem_cons.mp member with rfl | later
            · exact matched
            · exact skipped other later

/-- The first match leaves room for whatever could follow a later one. -/
theorem exists_seek {matching : α → Bool} {item : α}
    {others items : List α} (chosen : (item :: others).Sublist items)
    (matched : matching item = true) :
    ∃ found rest, seek matching items = some (found, rest) ∧
      others.Sublist rest := by
  induction items with
  | nil => cases chosen
  | cons first items induction =>
      rw [seek]
      split
      · exact ⟨first, items, rfl, chosen.of_cons_cons⟩
      · rename_i unmatched
        cases chosen with
        | cons _ later => exact induction later
        | cons_cons => exact absurd matched unmatched

theorem pick_pair_iff {first second : α → Bool} {items : List α}
    {one other : α} :
    pick [first, second] items = some [one, other] ↔
      ∃ behind, seek first items = some (one, behind) ∧
        ∃ rest, seek second behind = some (other, rest) := by
  cases sought : seek first items with
  | none => simp [pick, sought]
  | some found =>
      obtain ⟨item, behind⟩ := found
      cases later : seek second behind with
      | none =>
          simp only [pick, sought, later, Option.map_none, reduceCtorEq,
            Option.some.injEq, Prod.mk.injEq, false_iff]
          rintro ⟨_, ⟨-, rfl⟩, rest, found⟩
          rw [later] at found
          cases found
      | some next =>
          obtain ⟨item', rest⟩ := next
          simp [pick, sought, later]

/-- What is picked matches, in its order. -/
theorem pick_sound {conditions : List (α → Bool)} {items chosen : List α}
    (picked : pick conditions items = some chosen) :
    chosen.Sublist items ∧
      List.Forall₂ (fun matching item => matching item = true) conditions
        chosen := by
  induction conditions generalizing items chosen with
  | nil =>
      cases picked
      exact ⟨List.nil_sublist _, .nil⟩
  | cons matching conditions induction =>
      rw [pick] at picked
      rcases seek_cases matching items with ⟨nothing, -⟩ |
        ⟨skips, item, rest, sought, split, -, matched⟩
      · rw [nothing] at picked
        cases picked
      · rw [sought] at picked
        obtain ⟨others, later, rfl⟩ := Option.map_eq_some_iff.mp picked
        obtain ⟨among, agree⟩ := induction later
        refine ⟨?_, .cons matched agree⟩
        rw [split]
        exact (among.cons_cons item).trans (List.sublist_append_right _ _)

/-- If there are items to be picked, some are. -/
theorem exists_pick {conditions : List (α → Bool)} {items chosen : List α}
    (among : chosen.Sublist items)
    (agree : List.Forall₂ (fun matching item => matching item = true)
      conditions chosen) :
    ∃ found, pick conditions items = some found := by
  induction conditions generalizing items chosen with
  | nil => exact ⟨[], rfl⟩
  | cons matching conditions induction =>
      cases agree with
      | cons matched others =>
          obtain ⟨item, rest, sought, later⟩ := exists_seek among matched
          obtain ⟨found, picked⟩ := induction later others
          refine ⟨item :: found, ?_⟩
          rw [pick, sought]
          exact congrArg (Option.map _) picked

end FirstMatch

end SerialLink
