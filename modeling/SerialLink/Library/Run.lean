/-!
# Runs of partial step functions

A system is a step function `σ → ι → Option σ`: a label is the choice the
scheduler or the environment makes, and `none` says that the choice is not
enabled.  `GuardedRun` is a run every step of which meets a condition on the
state it starts from.
-/

namespace SerialLink

namespace Run

variable {σ ι : Type}

/-- Execute a list of labels. -/
def exec (step : σ → ι → Option σ) : σ → List ι → Option σ
  | state, [] => some state
  | state, label :: labels =>
      match step state label with
      | some later => exec step later labels
      | none => none

/-- A run whose steps all meet `guard` in the state they start from. -/
inductive GuardedRun (step : σ → ι → Option σ) (guard : σ → ι → Prop) :
    σ → List ι → σ → Prop where
  | nil (state : σ) : GuardedRun step guard state [] state
  | cons {state later final : σ} {label : ι} {labels : List ι} :
      guard state label → step state label = some later →
      GuardedRun step guard later labels final →
      GuardedRun step guard state (label :: labels) final

variable {step : σ → ι → Option σ} {guard : σ → ι → Prop}

theorem GuardedRun.exec_eq {state final : σ} {labels : List ι}
    (run : GuardedRun step guard state labels final) :
    exec step state labels = some final := by
  induction run with
  | nil => rfl
  | cons _ stepped _ induction => simpa [exec, stepped] using induction

theorem GuardedRun.weaken {weaker : σ → ι → Prop}
    (implied : ∀ state label, guard state label → weaker state label)
    {state final : σ} {labels : List ι}
    (run : GuardedRun step guard state labels final) :
    GuardedRun step weaker state labels final := by
  induction run with
  | nil state => exact .nil state
  | cons allowed stepped _ induction =>
      exact .cons (implied _ _ allowed) stepped induction

/-- Execute a list of labels as long as the guard allows it. -/
def execGuarded (step : σ → ι → Option σ) (guard : σ → ι → Prop)
    [∀ state label, Decidable (guard state label)] :
    σ → List ι → Option σ
  | state, [] => some state
  | state, label :: labels =>
      if guard state label then
        match step state label with
        | some later => execGuarded step guard later labels
        | none => none
      else none

theorem guardedRun_of_execGuarded
    [∀ state label, Decidable (guard state label)] {state final : σ}
    {labels : List ι}
    (executed : execGuarded step guard state labels = some final) :
    GuardedRun step guard state labels final := by
  induction labels generalizing state with
  | nil =>
      cases executed
      exact .nil _
  | cons label labels induction =>
      rw [execGuarded] at executed
      split at executed
      · rename_i allowed
        split at executed
        · rename_i later stepped
          exact .cons allowed stepped (induction executed)
        · cases executed
      · cases executed

theorem guardedRun_of_exec {state final : σ} {labels : List ι}
    (executed : exec step state labels = some final) :
    GuardedRun step (fun _ _ => True) state labels final := by
  induction labels generalizing state with
  | nil =>
      simp only [exec, Option.some.injEq] at executed
      exact executed ▸ .nil state
  | cons label labels induction =>
      rw [exec] at executed
      cases stepped : step state label with
      | none => simp [stepped] at executed
      | some later =>
          simp only [stepped] at executed
          exact .cons trivial stepped (induction executed)

theorem guardedRun_of_forall {state final : σ} {labels : List ι}
    (executed : exec step state labels = some final)
    (allowed : ∀ label ∈ labels, ∀ state, guard state label) :
    GuardedRun step guard state labels final := by
  induction labels generalizing state with
  | nil =>
      cases executed
      exact .nil _
  | cons label labels induction =>
      rw [exec] at executed
      cases stepped : step state label with
      | none => simp [stepped] at executed
      | some later =>
          simp only [stepped] at executed
          refine .cons (allowed label List.mem_cons_self state) stepped
            (induction executed ?_)
          intro other member
          exact allowed other (List.mem_cons_of_mem label member)

/-- The invariant rule: what every guarded step preserves holds at the end
of every guarded run, hence in every state such a run reaches. -/
theorem GuardedRun.preserves {invariant : σ → Prop}
    (preserved : ∀ state label later, invariant state → guard state label →
      step state label = some later → invariant later)
    {state final : σ} {labels : List ι}
    (run : GuardedRun step guard state labels final)
    (holds : invariant state) : invariant final := by
  induction run with
  | nil => exact holds
  | cons allowed stepped _ induction =>
      exact induction (preserved _ _ _ holds allowed stepped)

theorem exec_preserves {invariant : σ → Prop}
    (preserved : ∀ state label later, invariant state →
      step state label = some later → invariant later)
    {state final : σ} {labels : List ι}
    (executed : exec step state labels = some final)
    (holds : invariant state) : invariant final :=
  (guardedRun_of_exec executed).preserves
    (fun state label later kept _ stepped =>
      preserved state label later kept stepped) holds

/-- The exact rule: where a step keeps a property just when it meets the
guard, a run keeps it just when all its steps do. -/
theorem exec_iff_guarded {invariant good : σ → Prop}
    (preserved : ∀ state label later, invariant state →
      step state label = some later → invariant later)
    (kept : ∀ state label later, invariant state →
      step state label = some later →
      (good later ↔ good state ∧ guard state label))
    {state final : σ} {labels : List ι}
    (executed : exec step state labels = some final)
    (holds : invariant state) :
    good final ↔ good state ∧ GuardedRun step guard state labels final := by
  induction labels generalizing state with
  | nil =>
      cases executed
      exact ⟨fun good => ⟨good, .nil _⟩, And.left⟩
  | cons label labels induction =>
      rw [exec] at executed
      cases stepped : step state label with
      | none => simp [stepped] at executed
      | some later =>
          simp only [stepped] at executed
          rw [induction executed (preserved _ _ _ holds stepped),
            kept _ _ _ holds stepped]
          constructor
          · rintro ⟨⟨good, allowed⟩, run⟩
            exact ⟨good, .cons allowed stepped run⟩
          · rintro ⟨good, run⟩
            cases run with
            | cons allowed taken run =>
                cases stepped.symm.trans taken
                exact ⟨⟨good, allowed⟩, run⟩

theorem exec_append (state : σ) (first second : List ι) :
    exec step state (first ++ second) =
      (exec step state first).bind (exec step · second) := by
  induction first generalizing state with
  | nil => rfl
  | cons label first induction =>
      rw [List.cons_append, exec, exec]
      cases step state label with
      | none => rfl
      | some later => exact induction later

/-- Some run leads there. -/
def Reaches (step : σ → ι → Option σ) (start state : σ) : Prop :=
  ∃ labels, exec step start labels = some state

theorem Reaches.refl (start : σ) : Reaches step start start :=
  ⟨[], rfl⟩

theorem Reaches.snoc {start state later : σ} {label : ι}
    (reaches : Reaches step start state)
    (stepped : step state label = some later) : Reaches step start later := by
  obtain ⟨labels, executed⟩ := reaches
  refine ⟨labels ++ [label], ?_⟩
  rw [exec_append, executed]
  simp [exec, stepped]

end Run

end SerialLink
