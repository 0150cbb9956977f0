import SerialLink.Library.Loop

/-!
# Writes with backpressure

A `Fifo` takes some of the items it is offered, is full, or fails.  `write`
offers what is left until everything is taken, a call fails, or the FIFO is
still full when more than `timeout` has passed since `start`.

The behaviour of the FIFO is arbitrary but for its clock, which exceeds every
bound in the end.
-/

namespace SerialLink

/-- The answers of a FIFO to the calls of one write. -/
structure Fifo (ε : Type) where
  /-- The clock when the write begins. -/
  start : Int
  /-- The number of items the call takes, where 0 is a full FIFO. -/
  fill : Nat → Except ε Nat
  /-- The clock after the call. -/
  uptime : Nat → Int
  advances : ∀ bound, ∃ index, ∀ later, index ≤ later → bound < uptime later

/-- A write that is under way, or has ended. -/
structure Write (ε α : Type) where
  unsent : List α
  accepted : List α
  /-- The calls made so far. -/
  fills : Nat
  result : Except ε Unit

namespace Fifo

variable {ε α : Type} (fifo : Fifo ε) (timeout : Int) (full : ε)

/-- The body of the loop, which runs while something is unsent. -/
def body (write : Write ε α) : Loop.Outcome (Write ε α) :=
  let called := { write with fills := write.fills + 1 }
  match fifo.fill write.fills with
  | .error error => .stop { called with result := .error error }
  | .ok (count + 1) =>
      .next
        { called with
          unsent := write.unsent.drop (count + 1)
          accepted := write.accepted ++ write.unsent.take (count + 1) }
  | .ok 0 =>
      if fifo.uptime write.fills - fifo.start > timeout then
        .stop { called with result := .error full }
      else .next called

def pending (write : Write ε α) : Bool :=
  !write.unsent.isEmpty

def begin (items : List α) : Write ε α :=
  { unsent := items, accepted := [], fills := 0, result := .ok () }

/-- The write, for at most `fuel` tests of the loop's condition. -/
def write (fuel : Nat) (items : List α) : Option (Write ε α) :=
  Loop.iterate pending (fifo.body timeout full) fuel (begin items)

/-- The room that the calls before the given one have found. -/
def room : Nat → Nat
  | 0 => 0
  | index + 1 =>
      match fifo.fill index with
      | .ok count => room index + count
      | .error _ => room index

/-- The call fails, or finds the FIFO full after the timeout. -/
def GivesUp (index : Nat) : Prop :=
  match fifo.fill index with
  | .error _ => True
  | .ok 0 => fifo.uptime index - fifo.start > timeout
  | .ok _ => False

/-- A call gives up before the FIFO has had room for `length` items. -/
def CutsShort (length : Nat) : Prop :=
  ∃ index, fifo.room index < length ∧ fifo.GivesUp timeout index

variable {fifo timeout full}

theorem room_mono {first second : Nat} (before : first ≤ second) :
    fifo.room first ≤ fifo.room second := by
  induction before with
  | refl => exact Nat.le_refl _
  | @step second _ induction =>
      apply Nat.le_trans induction
      rw [room]
      split
      · exact Nat.le_add_right _ _
      · exact Nat.le_refl _

/-- A write that goes on: the FIFO has taken what it had room for. -/
structure Underway (fifo : Fifo ε) (timeout : Int) (items : List α)
    (write : Write ε α) : Prop where
  unsent : write.unsent = items.drop (fifo.room write.fills)
  accepted : write.accepted = items.take (fifo.room write.fills)
  result : write.result = .ok ()
  patient : ∀ index, index < write.fills → ¬fifo.GivesUp timeout index

/-- What a write ends with. -/
def Ended (fifo : Fifo ε) (timeout : Int) (items : List α)
    (write : Write ε α) : Prop :=
  (¬fifo.CutsShort timeout items.length ∧ write.result = .ok () ∧
      write.accepted = items) ∨
    fifo.CutsShort timeout items.length ∧ write.result ≠ .ok () ∧
      ∃ count, count < items.length ∧ write.accepted = items.take count

theorem Underway.begin (items : List α) :
    Underway fifo timeout items (begin items) where
  unsent := rfl
  accepted := rfl
  result := rfl
  patient := by
    intro index before
    exact absurd before (Nat.not_lt_zero index)

theorem Underway.room_lt {items : List α} {write : Write ε α}
    (underway : Underway fifo timeout items write)
    (entered : pending write = true) :
    fifo.room write.fills < items.length := by
  simpa [pending, underway.unsent] using entered

/-- The calls up to `fills` have not given up if the last one has not. -/
theorem Underway.patient_succ {items : List α} {write : Write ε α}
    (underway : Underway fifo timeout items write)
    (last : ¬fifo.GivesUp timeout write.fills) :
    ∀ index, index < write.fills + 1 → ¬fifo.GivesUp timeout index := by
  intro index before
  rcases Nat.lt_succ_iff_lt_or_eq.mp before with earlier | rfl
  · exact underway.patient index earlier
  · exact last

theorem Underway.next {items : List α} {write later : Write ε α}
    (underway : Underway fifo timeout items write)
    (outcome : fifo.body timeout full write = .next later) :
    Underway fifo timeout items later := by
  rw [body] at outcome
  split at outcome
  · cases outcome
  · rename_i count filled
    cases outcome
    have more : fifo.room (write.fills + 1) =
        fifo.room write.fills + (count + 1) := by
      rw [room, filled]
    constructor
    · rw [more, underway.unsent, List.drop_drop]
    · show write.accepted ++ write.unsent.take (count + 1) =
        items.take (fifo.room (write.fills + 1))
      rw [more, underway.unsent, underway.accepted]
      exact List.take_add.symm
    · exact underway.result
    · exact underway.patient_succ (by simp [GivesUp, filled])
  · rename_i filled
    split at outcome
    · cases outcome
    · rename_i early
      cases outcome
      have same : fifo.room (write.fills + 1) = fifo.room write.fills := by
        simp [room, filled]
      constructor
      · rw [same, underway.unsent]
      · rw [same, underway.accepted]
      · exact underway.result
      · exact underway.patient_succ (by simpa [GivesUp, filled] using early)

/-- The body leaves the loop with an error, without having sent anything
more, and only for a call that gives up. -/
theorem body_stop {write final : Write ε α}
    (outcome : fifo.body timeout full write = .stop final) :
    final.result ≠ .ok () ∧ final.accepted = write.accepted ∧
      fifo.GivesUp timeout write.fills := by
  rw [body] at outcome
  split at outcome
  · rename_i filled
    cases outcome
    exact ⟨by simp, rfl, by simp [GivesUp, filled]⟩
  · cases outcome
  · rename_i filled
    split at outcome
    · rename_i late
      cases outcome
      exact ⟨by simp, rfl, by simpa [GivesUp, filled] using late⟩
    · cases outcome

theorem Underway.stop {items : List α} {write final : Write ε α}
    (underway : Underway fifo timeout items write)
    (entered : pending write = true)
    (outcome : fifo.body timeout full write = .stop final) :
    Ended fifo timeout items final := by
  obtain ⟨failed, unchanged, givesUp⟩ := body_stop outcome
  have short := underway.room_lt entered
  refine .inr ⟨⟨write.fills, short, givesUp⟩, failed,
    fifo.room write.fills, short, ?_⟩
  rw [unchanged, underway.accepted]

theorem Underway.leave {items : List α} {write : Write ε α}
    (underway : Underway fifo timeout items write)
    (left : ¬pending write = true) : Ended fifo timeout items write := by
  have whole : items.length ≤ fifo.room write.fills := by
    simpa [pending, underway.unsent] using left
  refine .inl ⟨?_, underway.result, ?_⟩
  · rintro ⟨index, short, givesUp⟩
    -- The room grows with the calls, so that this call has been made.
    have made : index < write.fills := by
      rcases Nat.lt_or_ge index write.fills with earlier | later
      · exact earlier
      · have grown : fifo.room write.fills ≤ fifo.room index :=
          room_mono later
        omega
    exact underway.patient index made givesUp
  · rw [underway.accepted, List.take_of_length_le whole]

theorem ended_of_write {fuel : Nat} {items : List α} {final : Write ε α}
    (written : fifo.write timeout full fuel items = some final) :
    Ended fifo timeout items final := by
  refine Loop.iterate_ends (Underway fifo timeout items)
    (Ended fifo timeout items) ?_ ?_ ?_ (Underway.begin items) written
  · intro write later underway _ outcome
    exact underway.next outcome
  · intro write final underway entered outcome
    exact underway.stop entered outcome
  · intro write underway left
    exact underway.leave left

/-- A call that goes on takes something, or is made before the timeout. -/
theorem body_next {write later : Write ε α}
    (outcome : fifo.body timeout full write = .next later) :
    later.fills = write.fills + 1 ∧
      ((∃ count, later.unsent = write.unsent.drop (count + 1)) ∨
        later.unsent = write.unsent ∧
          fifo.uptime write.fills ≤ timeout + fifo.start) := by
  rw [body] at outcome
  split at outcome
  · cases outcome
  · rename_i count filled
    cases outcome
    exact ⟨rfl, .inl ⟨count, rfl⟩⟩
  · split at outcome
    · cases outcome
    · rename_i early
      cases outcome
      exact ⟨rfl, .inr ⟨rfl, by omega⟩⟩

variable (fifo timeout full) in
/-- Every write returns: what is unsent gets less, or time passes. -/
theorem exists_write (items : List α) :
    ∃ fuel final, fifo.write timeout full fuel items = some final := by
  obtain ⟨bound, late⟩ := fifo.advances (timeout + fifo.start)
  have lowered : ∀ write later : Write ε α, True → pending write = true →
      fifo.body timeout full write = .next later →
      True ∧ later.unsent.length + (bound - later.fills) <
        write.unsent.length + (bound - write.fills) := by
    intro write later _ entered outcome
    have nonempty : 0 < write.unsent.length := by
      simpa [pending, List.length_pos_iff] using entered
    refine ⟨trivial, ?_⟩
    obtain ⟨made, ⟨count, taken⟩ | ⟨same, early⟩⟩ := body_next outcome
    · rw [made, taken, List.length_drop]
      omega
    · have before : write.fills < bound := by
        rcases Nat.lt_or_ge write.fills bound with before | after
        · exact before
        · have passed := late write.fills after
          omega
      rw [made, same]
      omega
  have returns : ∃ final, Loop.Returns pending (fifo.body timeout full)
      (begin items) final :=
    Loop.returns_of_measure _ (fun _ => True) lowered trivial
  obtain ⟨final, fuel, returned⟩ := returns
  exact ⟨fuel, final, returned⟩

theorem write_mono {fuel more : Nat} {items : List α} {final : Write ε α}
    (enough : fuel ≤ more)
    (written : fifo.write timeout full fuel items = some final) :
    fifo.write timeout full more items = some final :=
  Loop.iterate_mono enough written

end Fifo

end SerialLink
