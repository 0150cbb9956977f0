/-!
# Fuel-bounded execution of loops with early exit

A `while` loop whose body may `continue` or `break` is a guard and a body
returning an `Outcome`.  `iterate` runs it for a bounded number of tests of
the guard and is `none` when the bound is too small, so that a loop which
never ends is `none` for every bound.
-/

namespace SerialLink

namespace Loop

/-- What one execution of a loop body asks for: another test of the guard,
or leaving the loop. -/
inductive Outcome (σ : Type) where
  | next (state : σ)
  | stop (state : σ)

/-- The state an execution of the body ends in. -/
def Outcome.state {σ : Type} : Outcome σ → σ
  | .next later => later
  | .stop final => final

/-- The same outcome in another state. -/
def Outcome.map {σ : Type} (change : σ → σ) : Outcome σ → Outcome σ
  | .next later => .next (change later)
  | .stop final => .stop (change final)

variable {σ : Type} (guard : σ → Bool) (body : σ → Outcome σ)

def iterate : Nat → σ → Option σ
  | 0, _ => none
  | fuel + 1, state =>
      if guard state then
        match body state with
        | .next later => iterate fuel later
        | .stop final => some final
      else some state

/-- The loop after at most `steps` executions of the body: `next` in it and
`stop` out of it. -/
def after : Nat → σ → Outcome σ
  | 0, state => if guard state then .next state else .stop state
  | steps + 1, state =>
      if guard state then
        match body state with
        | .next later => after steps later
        | .stop final => .stop final
      else .stop state

/-- The loop leaves its last state when given enough fuel. -/
def Returns (state final : σ) : Prop :=
  ∃ fuel, iterate guard body fuel state = some final

variable {guard body}

theorem iterate_succ_of_some {fuel : Nat} {state final : σ}
    (result : iterate guard body fuel state = some final) :
    iterate guard body (fuel + 1) state = some final := by
  induction fuel generalizing state with
  | zero => simp [iterate] at result
  | succ fuel induction =>
      rw [iterate] at result ⊢
      by_cases entered : guard state = true
      · simp only [entered, if_true] at result ⊢
        cases outcome : body state with
        | next later =>
            simp only [outcome] at result ⊢
            exact induction result
        | stop last => simpa only [outcome] using result
      · simpa [entered] using result

theorem iterate_mono {fuel more : Nat} {state final : σ}
    (enough : fuel ≤ more)
    (result : iterate guard body fuel state = some final) :
    iterate guard body more state = some final := by
  induction enough with
  | refl => exact result
  | step _ induction => exact iterate_succ_of_some induction

theorem Returns.unique {state left right : σ}
    (first : Returns guard body state left)
    (second : Returns guard body state right) : left = right := by
  obtain ⟨firstFuel, firstResult⟩ := first
  obtain ⟨secondFuel, secondResult⟩ := second
  have leftAt := iterate_mono (Nat.le_max_left firstFuel secondFuel) firstResult
  have rightAt :=
    iterate_mono (Nat.le_max_right firstFuel secondFuel) secondResult
  exact Option.some.inj (leftAt.symm.trans rightAt)

theorem returns_of_stop {state final : σ} (entered : guard state = true)
    (outcome : body state = .stop final) :
    Returns guard body state final :=
  ⟨1, by simp [iterate, entered, outcome]⟩

theorem returns_of_next {state later final : σ} (entered : guard state = true)
    (outcome : body state = .next later)
    (rest : Returns guard body later final) :
    Returns guard body state final := by
  obtain ⟨fuel, result⟩ := rest
  exact ⟨fuel + 1, by simpa [iterate, entered, outcome] using result⟩

theorem returns_stop_iff {state last final : σ} (entered : guard state = true)
    (outcome : body state = .stop last) :
    Returns guard body state final ↔ final = last := by
  constructor
  · intro returns
    exact returns.unique (returns_of_stop entered outcome)
  · rintro rfl
    exact returns_of_stop entered outcome

theorem returns_next_iff {state later final : σ} (entered : guard state = true)
    (outcome : body state = .next later) :
    Returns guard body state final ↔ Returns guard body later final := by
  constructor
  · rintro ⟨fuel, result⟩
    cases fuel with
    | zero => simp [iterate] at result
    | succ fuel =>
        exact ⟨fuel, by simpa [iterate, entered, outcome] using result⟩
  · exact returns_of_next entered outcome

/-- A loop that takes the items of a list one at a time and does nothing but
pass over them. -/
theorem returns_of_skips {α : Type} {kept : α → Prop} (rest : List α → σ)
    (skips : ∀ item items, kept item → guard (rest (item :: items)) = true ∧
      body (rest (item :: items)) = .next (rest items))
    (items : List α) (all : ∀ item ∈ items, kept item) {final : σ}
    (last : Returns guard body (rest []) final) :
    Returns guard body (rest items) final := by
  induction items with
  | nil => exact last
  | cons item items induction =>
      obtain ⟨entered, outcome⟩ :=
        skips item items (all item List.mem_cons_self)
      apply returns_of_next entered outcome
      apply induction
      intro other member
      exact all other (List.mem_cons_of_mem item member)

/-- The invariant rule: iterations that go on keep `kept`, and leaving the loop
from there establishes `post`. -/
theorem iterate_ends (kept post : σ → Prop)
    (goesOn : ∀ state later, kept state → guard state = true →
      body state = .next later → kept later)
    (stops : ∀ state final, kept state → guard state = true →
      body state = .stop final → post final)
    (leaves : ∀ state, kept state → ¬guard state = true → post state)
    {fuel : Nat} {state final : σ} (holds : kept state)
    (result : iterate guard body fuel state = some final) : post final := by
  induction fuel generalizing state with
  | zero => simp [iterate] at result
  | succ fuel induction =>
      rw [iterate] at result
      by_cases entered : guard state = true
      · simp only [entered, if_true] at result
        cases outcome : body state with
        | next later =>
            simp only [outcome] at result
            exact induction (goesOn state later holds entered outcome) result
        | stop last =>
            simp only [outcome, Option.some.injEq] at result
            exact result ▸ stops state last holds entered outcome
      · have unchanged : state = final := by simpa [entered] using result
        exact unchanged ▸ leaves state holds entered

/-- What every execution of the body keeps, the whole loop keeps. -/
theorem iterate_preserves (kept : σ → Prop)
    (preserved : ∀ state, kept state → guard state = true →
      kept (body state).state)
    {fuel : Nat} {state final : σ} (holds : kept state)
    (result : iterate guard body fuel state = some final) : kept final := by
  apply iterate_ends kept kept _ _ _ holds result
  · intro state later before entered outcome
    have after := preserved state before entered
    rwa [outcome] at after
  · intro state last before entered outcome
    have after := preserved state before entered
    rwa [outcome] at after
  · intro state before _
    exact before

theorem iterate_of_after {steps : Nat} {state final : σ}
    (left : after guard body steps state = .stop final) :
    iterate guard body (steps + 1) state = some final := by
  induction steps generalizing state with
  | zero =>
      by_cases entered : guard state = true
      · simp [after, entered] at left
      · simpa [after, iterate, entered] using left
  | succ steps induction =>
      rw [after] at left
      rw [iterate]
      by_cases entered : guard state = true
      · simp only [entered, if_true] at left ⊢
        cases outcome : body state with
        | next later =>
            simp only [outcome] at left ⊢
            exact induction left
        | stop last => simpa [outcome] using left
      · simpa [entered] using left

theorem after_of_iterate {fuel : Nat} {state final : σ}
    (result : iterate guard body fuel state = some final) :
    after guard body fuel state = .stop final := by
  induction fuel generalizing state with
  | zero => simp [iterate] at result
  | succ fuel induction =>
      rw [iterate] at result
      rw [after]
      by_cases entered : guard state = true
      · simp only [entered, if_true] at result ⊢
        cases outcome : body state with
        | next later =>
            simp only [outcome] at result ⊢
            exact induction result
        | stop last => simpa [outcome] using result
      · simpa [entered] using result

/-- The invariant rule for a loop that is still running. -/
theorem after_next (kept : σ → Prop)
    (goesOn : ∀ state later, kept state → guard state = true →
      body state = .next later → kept later)
    {steps : Nat} {state later : σ} (holds : kept state)
    (running : after guard body steps state = .next later) :
    kept later ∧ guard later = true := by
  induction steps generalizing state with
  | zero =>
      by_cases entered : guard state = true
      · have unchanged : state = later := by
          simpa [after, entered] using running
        exact unchanged ▸ ⟨holds, entered⟩
      · simp [after, entered] at running
  | succ steps induction =>
      rw [after] at running
      by_cases entered : guard state = true
      · simp only [entered, if_true] at running
        cases outcome : body state with
        | next following =>
            simp only [outcome] at running
            exact induction (goesOn state following holds entered outcome)
              running
        | stop last => simp [outcome] at running
      · simp [entered] at running

/-- The simulation rule: loops whose guards agree and whose bodies match step
by step end in related states. -/
theorem iterate_simulates {τ : Type} {other : τ → Bool}
    {matching : τ → Outcome τ} (related ended : σ → τ → Prop)
    (agree : ∀ state twin, related state twin → guard state = other twin)
    (goesOn : ∀ state twin later, related state twin → guard state = true →
      body state = .next later →
      ∃ follower, matching twin = .next follower ∧ related later follower)
    (stops : ∀ state twin final, related state twin → guard state = true →
      body state = .stop final →
      ∃ last, matching twin = .stop last ∧ ended final last)
    (leaves : ∀ state twin, related state twin → ¬guard state = true →
      ended state twin)
    {fuel : Nat} {state final : σ} {twin : τ} (holds : related state twin)
    (result : iterate guard body fuel state = some final) :
    ∃ last, iterate other matching fuel twin = some last ∧
      ended final last := by
  induction fuel generalizing state twin with
  | zero => simp [iterate] at result
  | succ fuel induction =>
      rw [iterate] at result
      by_cases entered : guard state = true
      · have alike : other twin = true := by
          rw [← agree state twin holds, entered]
        simp only [entered, if_true] at result
        simp only [iterate, alike, if_true]
        cases outcome : body state with
        | next later =>
            obtain ⟨follower, stepped, still⟩ :=
              goesOn state twin later holds entered outcome
            simp only [outcome] at result
            simp only [stepped]
            exact induction still result
        | stop last =>
            obtain ⟨matched, stepped, done⟩ :=
              stops state twin last holds entered outcome
            simp only [outcome, Option.some.injEq] at result
            simp only [stepped]
            exact ⟨matched, rfl, result ▸ done⟩
      · have alike : ¬other twin = true := by
          rw [← agree state twin holds]
          exact entered
        have unchanged : state = final := by simpa [entered] using result
        exact ⟨twin, by simp [iterate, alike],
          unchanged ▸ leaves state twin holds entered⟩

/-- The termination rule: a loop returns if every iteration that goes on keeps
`kept` and lowers `measure`. -/
theorem returns_of_measure (measure : σ → Nat) (kept : σ → Prop)
    (lowered : ∀ state later, kept state → guard state = true →
      body state = .next later → kept later ∧ measure later < measure state)
    {state : σ} (holds : kept state) :
    ∃ final, Returns guard body state final := by
  induction bound : measure state using Nat.strongRecOn generalizing state with
  | ind bound induction =>
      by_cases entered : guard state = true
      · cases outcome : body state with
        | next later =>
            obtain ⟨laterHolds, lower⟩ :=
              lowered state later holds entered outcome
            rw [bound] at lower
            obtain ⟨final, rest⟩ := induction _ lower laterHolds rfl
            exact ⟨final, returns_of_next entered outcome rest⟩
        | stop final => exact ⟨final, returns_of_stop entered outcome⟩
      · exact ⟨state, 1, by simp [iterate, entered]⟩

/-- The divergence rule: a loop that goes on in every state of `kept`, and
stays there, never returns. -/
theorem not_returns_of_invariant (kept : σ → Prop)
    (continues : ∀ state, kept state → guard state = true ∧
      ∃ later, body state = .next later ∧ kept later)
    {state final : σ} (holds : kept state) :
    ¬Returns guard body state final := by
  rintro ⟨fuel, result⟩
  induction fuel generalizing state with
  | zero => simp [iterate] at result
  | succ fuel induction =>
      obtain ⟨entered, later, outcome, laterHolds⟩ := continues state holds
      apply induction laterHolds
      simpa [iterate, entered, outcome] using result

end Loop

end SerialLink
