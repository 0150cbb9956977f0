import SerialLink.Library.Run

/-!
# A cell that is read late

Every offer overwrites the cell, whether it is accepted or not.  An accepted
offer waits its turn, and is carried out with what the cell holds by then.
`taken` keeps, for every offer that has been carried out, its own value and
the one that has been read.
-/

namespace SerialLink

structure SharedCell (α : Type) where
  content : α
  waiting : List α
  taken : List (α × α)

namespace SharedCell

variable {α : Type}

inductive Label (α : Type) where
  | offer (value : α) (accepted : Bool)
  | take

def step (cell : SharedCell α) : Label α → Option (SharedCell α)
  | .offer value accepted =>
      some { cell with
        content := value
        waiting :=
          if accepted then cell.waiting ++ [value] else cell.waiting }
  | .take =>
      match cell.waiting with
      | [] => none
      | own :: rest =>
          some { cell with
            waiting := rest
            taken := cell.taken ++ [(own, cell.content)] }

/-- Nothing has been offered yet. -/
def initial (content : α) : SharedCell α where
  content
  waiting := []
  taken := []

def Label.offered : Label α → Option α
  | .offer value _ => some value
  | .take => none

def Label.accepted : Label α → Option α
  | .offer value true => some value
  | _ => none

def Label.isTake : Label α → Bool
  | .take => true
  | .offer _ _ => false

/-- The state behind a run: the cell holds the last offer, and the accepted
ones are taken in their order. -/
structure After (labels : List (Label α)) (cell : SharedCell α) : Prop where
  content : ∀ value, (labels.filterMap Label.offered).getLast? = some value →
    cell.content = value
  order : cell.taken.map Prod.fst ++ cell.waiting =
    labels.filterMap Label.accepted
  count : cell.taken.length = labels.countP Label.isTake

variable {labels before after : List (Label α)} {label : Label α}
  {start : α} {cell later final : SharedCell α}

theorem step_take (stepped : cell.step .take = some later) :
    ∃ own, cell.waiting = own :: later.waiting ∧
      later.content = cell.content ∧
      later.taken = cell.taken ++ [(own, cell.content)] := by
  rw [step] at stepped
  split at stepped
  · cases stepped
  · rename_i own rest waiting
    cases stepped
    exact ⟨own, waiting, rfl, rfl⟩

theorem After.step (reached : After labels cell)
    (stepped : cell.step label = some later) :
    After (labels ++ [label]) later := by
  cases label with
  | offer value accepted =>
      cases stepped
      refine ⟨?_, ?_, ?_⟩
      · intro last found
        simpa [Label.offered] using found
      · have order := reached.order
        cases accepted with
        | true => simp [Label.accepted, ← order]
        | false => simp [Label.accepted, order]
      · simp [Label.isTake, reached.count]
  | take =>
      obtain ⟨own, waiting, content, taken⟩ := step_take stepped
      refine ⟨?_, ?_, ?_⟩
      · intro last found
        rw [content]
        exact reached.content last (by simpa [Label.offered] using found)
      · have order := reached.order
        rw [waiting] at order
        simp [taken, Label.accepted, ← order]
      · simp [taken, Label.isTake, reached.count]

theorem after_of_exec (reached : After before cell)
    (executed : Run.exec step cell labels = some later) :
    After (before ++ labels) later := by
  induction labels generalizing before cell with
  | nil =>
      cases executed
      simpa using reached
  | cons label labels induction =>
      rw [Run.exec] at executed
      split at executed
      · rename_i next stepped
        have ends := induction (reached.step stepped) executed
        simpa using ends
      · cases executed

/-- What has been taken stays. -/
theorem taken_prefix_of_exec
    (executed : Run.exec step cell labels = some later) :
    cell.taken <+: later.taken := by
  have grows : ∀ state label next, cell.taken <+: state.taken →
      step state label = some next → cell.taken <+: next.taken := by
    intro state label next kept stepped
    refine kept.trans ?_
    cases label with
    | offer value accepted =>
        cases stepped
        exact List.prefix_refl _
    | take =>
        obtain ⟨own, -, -, taken⟩ := step_take stepped
        exact ⟨_, taken.symm⟩
  have kept := Run.exec_preserves grows executed (List.prefix_refl _)
  exact kept

theorem After.nil (content : α) : After [] (initial content) where
  content := by simp
  order := rfl
  count := rfl

/-- There is a last offer where something has been accepted. -/
theorem exists_offered {own : α}
    (member : own ∈ labels.filterMap Label.accepted) :
    ∃ last, (labels.filterMap Label.offered).getLast? = some last := by
  obtain ⟨label, among, accepted⟩ := List.mem_filterMap.mp member
  have offered : own ∈ labels.filterMap Label.offered := by
    refine List.mem_filterMap.mpr ⟨label, among, ?_⟩
    cases label with
    | offer value taken =>
        cases taken with
        | true => exact accepted
        | false => cases accepted
    | take => cases accepted
  exact ⟨_, List.getLast?_eq_some_getLast (List.ne_nil_of_mem offered)⟩

/-- An accepted offer is carried out with the last one before that moment. -/
theorem taken_of_exec
    (executed : Run.exec step (initial start) (before ++ .take :: after) =
      some final) :
    ∃ own seen,
      final.taken[before.countP Label.isTake]? = some (own, seen) ∧
      (before.filterMap Label.accepted)[before.countP Label.isTake]? =
        some own ∧
      (before.filterMap Label.offered).getLast? = some seen := by
  rw [Run.exec_append] at executed
  obtain ⟨cell, first, second⟩ := Option.bind_eq_some_iff.mp executed
  rw [Run.exec] at second
  split at second
  · rename_i next stepped
    have reached := after_of_exec (After.nil start) first
    rw [List.nil_append] at reached
    obtain ⟨own, waiting, -, taken⟩ := step_take stepped
    have order := reached.order
    rw [waiting] at order
    have place : (cell.taken.map Prod.fst).length =
        before.countP Label.isTake := by
      rw [List.length_map, reached.count]
    have member : own ∈ before.filterMap Label.accepted := by
      rw [← order]
      exact List.mem_append_right _ List.mem_cons_self
    obtain ⟨last, offered⟩ := exists_offered member
    obtain ⟨more, grown⟩ := taken_prefix_of_exec second
    refine ⟨own, last, ?_, ?_, offered⟩
    · rw [← grown, taken, reached.content last offered, ← reached.count]
      simp
    · rw [← order, ← place]
      simp
  · cases second

/-- Whatever has been carried out was carried out with its own value. -/
structure Own (cell : SharedCell α) : Prop where
  taken : ∀ pair ∈ cell.taken, pair.2 = pair.1
  waiting : cell.waiting = [] ∨ cell.waiting = [cell.content]

/-- One cell is enough where nothing is offered while an offer waits. -/
theorem Own.step (own : Own cell)
    (alone : label.offered ≠ none → cell.waiting = [])
    (stepped : cell.step label = some later) : Own later := by
  cases label with
  | offer value accepted =>
      have none := alone (Option.some_ne_none value)
      cases stepped
      refine ⟨own.taken, ?_⟩
      cases accepted with
      | true => exact .inr (by simp [none])
      | false => exact .inl (by simp [none])
  | take =>
      obtain ⟨first, waiting, content, taken⟩ := step_take stepped
      have only := own.waiting
      rw [waiting] at only
      rcases only with absent | single
      · cases absent
      · obtain ⟨rfl, rest⟩ := List.cons.inj single
        refine ⟨?_, .inl rest⟩
        intro pair member
        rw [taken] at member
        rcases List.mem_append.mp member with earlier | last
        · exact own.taken pair earlier
        · rw [List.mem_singleton.mp last]

end SharedCell

end SerialLink
