/-!
# A mutex that its owner may lock again

`lock` waits, and is `none`, while another thread has the mutex.  Every `lock`
takes an `unlock` of the same thread to undo it; an `unlock` of a thread that
does not have the mutex is refused.
-/

namespace SerialLink

inductive Mutex (θ : Type) where
  | free
  /-- The owner has locked it, and then `again` more times. -/
  | held (owner : θ) (again : Nat)
  deriving DecidableEq, Repr

namespace Mutex

variable {θ : Type} [DecidableEq θ]

def lock (mutex : Mutex θ) (thread : θ) : Option (Mutex θ) :=
  match mutex with
  | .free => some (.held thread 0)
  | .held owner again =>
      if owner = thread then some (.held owner (again + 1)) else none

def unlock (mutex : Mutex θ) (thread : θ) : Mutex θ :=
  match mutex with
  | .free => .free
  | .held owner again =>
      if owner = thread then
        match again with
        | 0 => .free
        | again + 1 => .held owner again
      else .held owner again

variable {mutex locked : Mutex θ} {thread : θ}

theorem lock_cases (taken : mutex.lock thread = some locked) :
    mutex = .free ∧ locked = .held thread 0 ∨
      ∃ again, mutex = .held thread again ∧
        locked = .held thread (again + 1) := by
  cases mutex with
  | free =>
      cases taken
      exact .inl ⟨rfl, rfl⟩
  | held owner again =>
      rw [lock] at taken
      split at taken
      · rename_i same
        subst same
        cases taken
        exact .inr ⟨again, rfl, rfl⟩
      · cases taken

theorem unlock_of_lock (taken : mutex.lock thread = some locked) :
    locked.unlock thread = mutex := by
  obtain ⟨rfl, rfl⟩ | ⟨again, rfl, rfl⟩ := lock_cases taken
  · simp [unlock]
  · simp [unlock]

/-- While a thread has the mutex, every other thread waits for it. -/
theorem lock_other (taken : mutex.lock thread = some locked) {other : θ}
    (different : other ≠ thread) : locked.lock other = none := by
  obtain ⟨rfl, rfl⟩ | ⟨again, rfl, rfl⟩ := lock_cases taken
  · simp [lock, different.symm]
  · simp [lock, different.symm]

end Mutex

end SerialLink
