import SerialLink.Library.Mutex
import SerialLink.Link.Transmission

/-!
# The writers themselves

`serial_data_tx` and `bus_data_tx` as they count the bytes, read the clock and
return a code, over a driver that answers each call as it likes.  A writer is
looked at after any number of executions of its loop, so that what is said of
it covers a writer that never returns.

`serialDataTx` and `busDataTx` of the transmission are what is left of them
when the clock and the mutex are not of interest.
-/

namespace SerialLink

/-- `ENOSPC` -/
def enospc : Int := 28

/-- What `uart_fifo_fill` and `k_uptime_get` return during one write. -/
structure TxDriver where
  /-- The result of the call of this index when so many bytes are offered. -/
  fill : Nat → Nat → Int
  fill_le : ∀ index offered, fill index offered ≤ offered
  /-- The clock at the start, at 0, and after each call. -/
  uptime : Nat → Int
  uptime_le : ∀ index, uptime index ≤ uptime (index + 1)

/-- A writer under way, or one that has returned. -/
structure DataTx (κ : Type) where
  written : Nat
  /-- What the FIFO has taken. -/
  handed : List UInt8
  /-- The results of `uart_fifo_fill`. -/
  answers : List Int
  /-- What the writer has locked. -/
  lock : κ
  returned : Option Int
  deriving DecidableEq, Repr

namespace TxDriver

section

variable (driver : TxDriver) {κ : Type} (unlock : κ → κ) (timeoutMs : Int)
  (data : List UInt8)

def pending (tx : DataTx κ) : Bool :=
  tx.written < data.length

/-- The body of the loop.  A call that fails takes nothing. -/
def body (tx : DataTx κ) : Loop.Outcome (DataTx κ) :=
  let n := driver.fill tx.answers.length (data.length - tx.written)
  let called :=
    { tx with
      handed := tx.handed ++ (data.drop tx.written).take n.toNat
      answers := tx.answers ++ [n] }
  if n < 0 then
    .stop { called with lock := unlock tx.lock, returned := some n }
  else if n > 0 then
    .next { called with written := tx.written + n.toNat }
  -- The FIFO is full.  The start was read before the mutex was taken, so that
  -- the wait for the mutex counts too.
  else if driver.uptime (tx.answers.length + 1) - driver.uptime 0 >
      timeoutMs then
    .stop { called with lock := unlock tx.lock, returned := some (-enospc) }
  else .next called

def begin (lock : κ) : DataTx κ :=
  { written := 0, handed := [], answers := [], lock, returned := none }

/-- What follows the loop where the function has not returned in it. -/
def finish (tx : DataTx κ) : DataTx κ :=
  match tx.returned with
  | some _ => tx
  | none => { tx with lock := unlock tx.lock, returned := some 0 }

/-- A writer after at most `steps` executions of the body of its loop. -/
def dataTx (lock : κ) (steps : Nat) : DataTx κ :=
  match Loop.after (pending data) (driver.body unlock timeoutMs data) steps
      (begin lock) with
  | .next tx => tx
  | .stop tx => finish unlock tx

/-- `serial_data_tx`, which is `none` as long as it waits for
`serial_tx_mutex`. -/
def serialDataTx {θ : Type} [DecidableEq θ] (thread : θ) (mutex : Mutex θ)
    (steps : Nat) : Option (DataTx (Mutex θ)) :=
  match mutex.lock thread with
  | none => none
  | some locked =>
      some (driver.dataTx (·.unlock thread) serialTxTimeoutMs data locked
        steps)

/-- `bus_data_tx` -/
def busDataTx (steps : Nat) : DataTx Unit :=
  driver.dataTx id busTxTimeoutMs data () steps

/-- The last call has found the FIFO full, and after the timeout. -/
def FullLate (tx : DataTx κ) : Prop :=
  tx.answers.getLast? = some 0 ∧
    driver.uptime tx.answers.length - driver.uptime 0 > timeoutMs

/-- What a writer keeps to at all times. -/
structure EmitsPrefix (tx : DataTx κ) : Prop where
  handed : tx.handed <+: data
  whole : tx.returned = some 0 ↔ tx.handed = data
  failed : ∀ n ∈ tx.answers, n < 0 → tx.returned = some n
  full : tx.returned = some (-enospc) →
    -enospc ∈ tx.answers ∨ driver.FullLate timeoutMs tx

end

variable {driver : TxDriver} {κ : Type} {unlock : κ → κ} {timeoutMs : Int}
  {data : List UInt8} {locked : κ} {tx later final : DataTx κ}

/-- A call that goes on takes something, or is made before the timeout. -/
theorem body_next
    (outcome : driver.body unlock timeoutMs data tx = .next later) :
    ∃ n, driver.fill tx.answers.length (data.length - tx.written) = n ∧
      0 ≤ n ∧ n ≤ (data.length - tx.written : Nat) ∧
      (n = 0 → driver.uptime (tx.answers.length + 1) - driver.uptime 0 ≤
        timeoutMs) ∧
      later = { tx with
        written := tx.written + n.toNat
        handed := tx.handed ++ (data.drop tx.written).take n.toNat
        answers := tx.answers ++ [n] } := by
  have offered :=
    driver.fill_le tx.answers.length (data.length - tx.written)
  rw [body] at outcome
  refine ⟨_, rfl, ?_⟩
  generalize driver.fill _ _ = n at outcome offered ⊢
  dsimp only at outcome
  split at outcome
  · cases outcome
  · rename_i succeeded
    split at outcome
    · cases outcome
      exact ⟨by omega, offered, by omega, rfl⟩
    · split at outcome
      · cases outcome
      · rename_i early
        have zero : n = 0 := by omega
        subst zero
        cases outcome
        exact ⟨by omega, offered, fun _ => by omega, rfl⟩

/-- A writer that returns in the loop has unlocked, and has sent nothing more
with the last call. -/
theorem body_stop
    (outcome : driver.body unlock timeoutMs data tx = .stop final) :
    ∃ n, driver.fill tx.answers.length (data.length - tx.written) = n ∧
      ∃ code,
        (n < 0 ∧ code = n ∨
          n = 0 ∧ code = -enospc ∧
            driver.uptime (tx.answers.length + 1) - driver.uptime 0 >
              timeoutMs) ∧
        final = { tx with
          answers := tx.answers ++ [n]
          lock := unlock tx.lock
          returned := some code } := by
  rw [body] at outcome
  refine ⟨_, rfl, ?_⟩
  generalize driver.fill _ _ = n at outcome ⊢
  dsimp only at outcome
  split at outcome
  · rename_i failed
    have nothing : n.toNat = 0 := by omega
    cases outcome
    exact ⟨n, .inl ⟨failed, rfl⟩, by simp [nothing]⟩
  · split at outcome
    · cases outcome
    · split at outcome
      · rename_i late
        have zero : n = 0 := by omega
        subst zero
        cases outcome
        exact ⟨-enospc, .inr ⟨rfl, rfl, late⟩, by simp⟩
      · cases outcome

/-- A writer in its loop: every byte before `written` has been handed over
once. -/
structure Writing (data : List UInt8) (locked : κ) (tx : DataTx κ) :
    Prop where
  written : tx.written ≤ data.length
  handed : tx.handed = data.take tx.written
  answers : ∀ n ∈ tx.answers, 0 ≤ n
  lock : tx.lock = locked
  returned : tx.returned = none

theorem Writing.begin (data : List UInt8) (locked : κ) :
    Writing data locked (begin locked) where
  written := Nat.zero_le _
  handed := rfl
  answers := by simp [TxDriver.begin]
  lock := rfl
  returned := rfl

theorem Writing.next (writing : Writing data locked tx)
    (outcome : driver.body unlock timeoutMs data tx = .next later) :
    Writing data locked later := by
  obtain ⟨n, _, succeeded, offered, _, rfl⟩ := body_next outcome
  have bounded := writing.written
  constructor
  · show tx.written + n.toNat ≤ data.length
    omega
  · show tx.handed ++ (data.drop tx.written).take n.toNat =
      data.take (tx.written + n.toNat)
    rw [writing.handed]
    exact List.take_add.symm
  · intro answer member
    rcases List.mem_append.mp member with earlier | last
    · exact writing.answers answer earlier
    · rw [List.mem_singleton.mp last]
      exact succeeded
  · exact writing.lock
  · exact writing.returned

theorem Writing.prefixed (writing : Writing data locked tx) :
    tx.handed <+: data := by
  rw [writing.handed]
  exact List.take_prefix tx.written data

theorem Writing.handed_ne (writing : Writing data locked tx)
    (entered : pending data tx = true) : tx.handed ≠ data := by
  intro same
  have short : tx.written < data.length := by simpa [pending] using entered
  have lengths := congrArg List.length same
  rw [writing.handed, List.length_take] at lengths
  omega

/-- In the loop nothing has failed, and there is something left to send. -/
theorem Writing.emitsPrefix (writing : Writing data locked tx)
    (entered : pending data tx = true) :
    driver.EmitsPrefix timeoutMs data tx where
  handed := writing.prefixed
  whole := by
    rw [writing.returned]
    exact iff_of_false (by simp) (writing.handed_ne entered)
  failed := by
    intro n member negative
    have succeeded := writing.answers n member
    omega
  full := by
    rw [writing.returned]
    intro returned
    cases returned

/-- What holds after a return. -/
structure Left (driver : TxDriver) (unlock : κ → κ) (timeoutMs : Int)
    (data : List UInt8) (locked : κ) (tx : DataTx κ) : Prop where
  emits : driver.EmitsPrefix timeoutMs data tx
  lock : tx.lock = unlock locked
  returned : ∃ code, tx.returned = some code

theorem Writing.stop (writing : Writing data locked tx)
    (entered : pending data tx = true)
    (outcome : driver.body unlock timeoutMs data tx = .stop final) :
    Left driver unlock timeoutMs data locked final := by
  obtain ⟨n, _, code, reason, rfl⟩ := body_stop outcome
  have error : code ≠ 0 := by
    rcases reason with ⟨negative, rfl⟩ | ⟨_, rfl, _⟩
    · omega
    · decide
  refine ⟨⟨writing.prefixed, ?_, ?_, ?_⟩, ?_, code, rfl⟩
  · exact iff_of_false (by simpa using error) (writing.handed_ne entered)
  · intro answer member negative
    rcases List.mem_append.mp member with earlier | last
    · have succeeded := writing.answers answer earlier
      omega
    · have last := List.mem_singleton.mp last
      rcases reason with ⟨_, rfl⟩ | ⟨zero, _, _⟩
      · exact congrArg some last.symm
      · omega
  · intro returned
    rcases reason with ⟨_, rfl⟩ | ⟨rfl, _, late⟩
    · have same : code = -enospc := by simpa using returned
      exact .inl (by simp [same])
    · exact .inr ⟨by simp, by simpa using late⟩
  · exact congrArg unlock writing.lock

theorem Writing.leave (writing : Writing data locked tx)
    (left : ¬pending data tx = true) :
    Left driver unlock timeoutMs data locked (finish unlock tx) := by
  have whole : tx.handed = data := by
    rw [writing.handed, List.take_of_length_le]
    simpa [pending] using left
  rw [finish, writing.returned]
  refine ⟨⟨writing.prefixed, iff_of_true rfl whole, ?_, ?_⟩, ?_, 0, rfl⟩
  · intro n member negative
    have succeeded := writing.answers n member
    omega
  · intro returned
    cases returned
  · exact congrArg unlock writing.lock

/-- A return in the loop is not followed by anything. -/
theorem finish_of_left (left : Left driver unlock timeoutMs data locked tx) :
    finish unlock tx = tx := by
  obtain ⟨code, returned⟩ := left.returned
  rw [finish, returned]

/-- A loop that has not been left is in the middle of a write. -/
theorem writing_of_after {steps : Nat}
    (running : Loop.after (pending data) (driver.body unlock timeoutMs data)
      steps (begin locked) = .next tx) :
    Writing data locked tx ∧ pending data tx = true := by
  refine Loop.after_next _ ?_ (Writing.begin data locked) running
  intro tx later writing _ outcome
  exact writing.next outcome

/-- A loop that has been left ends in a return. -/
theorem left_of_after {steps : Nat}
    (left : Loop.after (pending data) (driver.body unlock timeoutMs data)
      steps (begin locked) = .stop tx) :
    Left driver unlock timeoutMs data locked (finish unlock tx) := by
  refine Loop.iterate_ends (Writing data locked)
    (fun tx => Left driver unlock timeoutMs data locked (finish unlock tx))
    ?_ ?_ ?_ (Writing.begin data locked) (Loop.iterate_of_after left)
  · intro tx later writing _ outcome
    exact writing.next outcome
  · intro tx final writing entered outcome
    have stopped := writing.stop entered outcome
    rw [finish_of_left stopped]
    exact stopped
  · intro tx writing left
    exact writing.leave left

variable (driver unlock timeoutMs data locked) in
theorem dataTx_cases (steps : Nat) :
    (driver.dataTx unlock timeoutMs data locked steps).returned = none ∧
        (driver.dataTx unlock timeoutMs data locked steps).lock = locked ∧
        driver.EmitsPrefix timeoutMs data
          (driver.dataTx unlock timeoutMs data locked steps) ∨
      Left driver unlock timeoutMs data locked
        (driver.dataTx unlock timeoutMs data locked steps) := by
  rw [dataTx]
  split
  · rename_i tx running
    obtain ⟨writing, entered⟩ := writing_of_after running
    exact .inl ⟨writing.returned, writing.lock, writing.emitsPrefix entered⟩
  · rename_i tx left
    exact .inr (left_of_after left)

theorem uptime_mono {first second : Nat} (before : first ≤ second) :
    driver.uptime first ≤ driver.uptime second := by
  induction before with
  | refl => exact Int.le_refl _
  | step _ induction => exact Int.le_trans induction (driver.uptime_le _)

variable (driver unlock timeoutMs data locked) in
/-- A writer returns once the clock is past the timeout: until then there is
less to send, or less time, after every call. -/
theorem exists_returned {index : Nat}
    (passed : driver.uptime index - driver.uptime 0 > timeoutMs) :
    ∃ steps code,
      (driver.dataTx unlock timeoutMs data locked steps).returned =
        some code := by
  have lowered : ∀ tx later : DataTx κ, True → pending data tx = true →
      driver.body unlock timeoutMs data tx = .next later →
      True ∧
        data.length - later.written + (index - later.answers.length) <
          data.length - tx.written + (index - tx.answers.length) := by
    intro tx later _ entered outcome
    have short : tx.written < data.length := by simpa [pending] using entered
    obtain ⟨n, _, succeeded, _, early, rfl⟩ := body_next outcome
    refine ⟨trivial, ?_⟩
    show data.length - (tx.written + n.toNat) +
        (index - (tx.answers ++ [n]).length) < _
    rw [List.length_append, List.length_singleton]
    by_cases full : n = 0
    · have before : tx.answers.length + 1 < index := by
        rcases Nat.lt_or_ge (tx.answers.length + 1) index with before | past
        · exact before
        · have inTime := early full
          have later : driver.uptime index ≤
              driver.uptime (tx.answers.length + 1) := uptime_mono past
          omega
      omega
    · omega
  have returns : ∃ final, Loop.Returns (pending data)
      (driver.body unlock timeoutMs data) (begin locked) final :=
    Loop.returns_of_measure _ (fun _ => True) lowered trivial
  obtain ⟨final, fuel, result⟩ := returns
  refine ⟨fuel, ?_⟩
  rw [dataTx, Loop.after_of_iterate result]
  show ∃ code, (finish unlock final).returned = some code
  rw [finish]
  split
  · rename_i code returned
    exact ⟨code, returned⟩
  · exact ⟨0, rfl⟩

theorem serialDataTx_eq_some {θ : Type} [DecidableEq θ] {thread : θ}
    {mutex : Mutex θ} {steps : Nat} {tx : DataTx (Mutex θ)}
    (under : driver.serialDataTx data thread mutex steps = some tx) :
    ∃ locked, mutex.lock thread = some locked ∧
      tx = driver.dataTx (·.unlock thread) serialTxTimeoutMs data locked
        steps := by
  rw [serialDataTx] at under
  split at under
  · cases under
  · rename_i locked taken
    cases under
    exact ⟨locked, taken, rfl⟩

/-- No other thread writes to the UART before this one has returned. -/
theorem serialDataTx_excludes {θ : Type} [DecidableEq θ] {thread other : θ}
    {mutex : Mutex θ} {steps : Nat} {tx : DataTx (Mutex θ)}
    (under : driver.serialDataTx data thread mutex steps = some tx)
    (writing : tx.returned = none) (different : other ≠ thread)
    (otherDriver : TxDriver) (otherData : List UInt8) (otherSteps : Nat) :
    otherDriver.serialDataTx otherData other tx.lock otherSteps = none := by
  obtain ⟨locked, taken, rfl⟩ := serialDataTx_eq_some under
  rcases driver.dataTx_cases (·.unlock thread) serialTxTimeoutMs data locked
    steps with ⟨_, lock, _⟩ | left
  · rw [lock, serialDataTx, Mutex.lock_other taken different]
  · obtain ⟨code, returned⟩ := left.returned
    rw [writing] at returned
    cases returned

/-- Both writers hand over a prefix whatever the driver and the clock do, and
the device's leaves the mutex as it has found it.  They return when the clock
gets past the timeout. -/
theorem writers_emitsPrefix (driver : TxDriver) (data : List UInt8)
    {θ : Type} [DecidableEq θ] (thread : θ) (mutex : Mutex θ) :
    (∀ steps tx, driver.serialDataTx data thread mutex steps = some tx →
      driver.EmitsPrefix serialTxTimeoutMs data tx ∧
        ∀ code, tx.returned = some code → tx.lock = mutex) ∧
    (∀ steps, driver.EmitsPrefix busTxTimeoutMs data
      (driver.busDataTx data steps)) ∧
    ∀ index,
      (driver.uptime index - driver.uptime 0 > serialTxTimeoutMs →
        mutex.lock thread ≠ none →
        ∃ steps tx code,
          driver.serialDataTx data thread mutex steps = some tx ∧
            tx.returned = some code) ∧
      (driver.uptime index - driver.uptime 0 > busTxTimeoutMs →
        ∃ steps code,
          (driver.busDataTx data steps).returned = some code) := by
  refine ⟨?_, ?_, ?_⟩
  · intro steps tx under
    obtain ⟨locked, taken, rfl⟩ := serialDataTx_eq_some under
    rcases driver.dataTx_cases (·.unlock thread) serialTxTimeoutMs data
      locked steps with ⟨running, _, emits⟩ | left
    · refine ⟨emits, ?_⟩
      intro code returned
      rw [running] at returned
      cases returned
    · refine ⟨left.emits, ?_⟩
      intro code _
      rw [left.lock]
      exact Mutex.unlock_of_lock taken
  · intro steps
    rcases driver.dataTx_cases id busTxTimeoutMs data () steps with
      ⟨_, _, emits⟩ | left
    · exact emits
    · exact left.emits
  · intro index
    constructor
    · intro passed available
      obtain ⟨locked, taken⟩ := Option.ne_none_iff_exists'.mp available
      obtain ⟨steps, code, returned⟩ := driver.exists_returned
        (·.unlock thread) serialTxTimeoutMs data locked passed
      exact ⟨steps, _, code, by rw [serialDataTx, taken], returned⟩
    · intro passed
      exact driver.exists_returned id busTxTimeoutMs data () passed

/-- The driver gives the same answer to every call, as far as that is as much
as it is offered, and a call takes `period` ms. -/
def steady (answer : Int) (period : Nat) : TxDriver where
  fill := fun _ offered => min answer offered
  fill_le := fun _ offered => Int.min_le_right answer offered
  uptime := fun index => (period * index : Nat)
  uptime_le := by
    intro index
    exact Int.ofNat_le.mpr (Nat.mul_le_mul_left period (Nat.le_succ index))

/-- Two bytes at a time are whole after two calls, nothing at all ends the
write with the first call after half a second. -/
theorem writers_emitsPrefix_steady :
    (∃ tx, (steady 2 1).serialDataTx [1, 2, 3] 0 (.free : Mutex Nat) 2 =
        some tx ∧ tx.returned = some 0 ∧ tx.handed = [1, 2, 3] ∧
      (steady 2 1).EmitsPrefix serialTxTimeoutMs [1, 2, 3] tx ∧
      tx.lock = .free) ∧
    ((steady 0 501).busDataTx [1, 2, 3] 1).returned = some (-enospc) ∧
    (steady 0 501).EmitsPrefix busTxTimeoutMs [1, 2, 3]
      ((steady 0 501).busDataTx [1, 2, 3] 1) := by
  have whole := (writers_emitsPrefix (steady 2 1) [1, 2, 3] 0
    (.free : Mutex Nat)).1 2 _ rfl
  have none := (writers_emitsPrefix (steady 0 501) [1, 2, 3] 0
    (.free : Mutex Nat)).2.1 1
  exact ⟨⟨_, rfl, by decide, by decide, whole.1, whole.2 0 (by decide)⟩,
    by decide, none⟩

/-- A driver whose own code is that of a full FIFO: both writers pass it on
after the first call, which has not found the FIFO full. -/
theorem enospc_of_driver :
    (∃ tx, (steady (-28) 1).serialDataTx [7] 0 (.free : Mutex Nat) 1 =
        some tx ∧ tx.returned = some (-enospc) ∧ tx.answers = [-28] ∧
      ¬(steady (-28) 1).FullLate serialTxTimeoutMs tx) ∧
    ((steady (-28) 1).busDataTx [7] 1).returned = some (-enospc) ∧
    ((steady (-28) 1).busDataTx [7] 1).answers = [-28] ∧
    ¬(steady (-28) 1).FullLate busTxTimeoutMs
      ((steady (-28) 1).busDataTx [7] 1) := by
  refine ⟨⟨_, rfl, by decide, by decide, ?_⟩, by decide, by decide, ?_⟩
  · rintro ⟨zero, _⟩
    exact absurd zero (by decide)
  · rintro ⟨zero, _⟩
    exact absurd zero (by decide)

section Refinement

/-- The result of a call as the transmission has it. -/
def answer (n : Int) : Except TxError Nat :=
  if n < 0 then .error (.driver n.natAbs) else .ok n.toNat

/-- The `int` that a result of the transmission stands for. -/
def returnCode : Except TxError Unit → Int
  | .ok () => 0
  | .error .enospc => -enospc
  | .error (.driver code) => -code

/-- The bytes that the calls before the given one take of `length`. -/
def taken (driver : TxDriver) (length : Nat) : Nat → Nat
  | 0 => 0
  | index + 1 =>
      taken driver length index +
        (driver.fill index (length - taken driver length index)).toNat

/-- The driver as the FIFO of one write of `length` bytes. -/
def fifo (driver : TxDriver) (length : Nat)
    (advances : ∀ bound, ∃ index, bound < driver.uptime index) :
    Fifo TxError where
  start := driver.uptime 0
  fill := fun index =>
    answer (driver.fill index (length - driver.taken length index))
  uptime := fun index => driver.uptime (index + 1)
  advances := by
    intro bound
    obtain ⟨index, passed⟩ := advances bound
    refine ⟨index, ?_⟩
    intro later after
    exact Int.lt_of_lt_of_le passed (uptime_mono (Nat.le_succ_of_le after))

/-- A writer and its write, with the same bytes sent and left. -/
structure Matches (driver : TxDriver) (data : List UInt8) (tx : DataTx κ)
    (write : Write TxError UInt8) : Prop where
  unsent : write.unsent = data.drop tx.written
  accepted : write.accepted = tx.handed
  fills : write.fills = tx.answers.length
  taken : driver.taken data.length tx.answers.length = tx.written
  result : write.result = .ok ()
  returned : tx.returned = none

/-- What a writer has returned is the result of its write. -/
def Agrees (tx : DataTx κ) (write : Write TxError UInt8) : Prop :=
  write.accepted = tx.handed ∧ tx.returned = some (returnCode write.result)

variable {write : Write TxError UInt8}
  {advances : ∀ bound, ∃ index, bound < driver.uptime index}

theorem Matches.begin (driver : TxDriver) (data : List UInt8) (locked : κ) :
    Matches driver data (begin locked) (Fifo.begin data) where
  unsent := rfl
  accepted := rfl
  fills := rfl
  taken := rfl
  result := rfl
  returned := rfl

theorem Matches.pending_eq (same : Matches driver data tx write) :
    pending data tx = Fifo.pending write := by
  rw [Bool.eq_iff_iff]
  simp [pending, Fifo.pending, same.unsent]

theorem Matches.fill_eq (same : Matches driver data tx write) :
    (driver.fifo data.length advances).fill write.fills =
      answer (driver.fill tx.answers.length (data.length - tx.written)) := by
  show answer _ = _
  rw [same.fills, same.taken]

theorem Matches.next (same : Matches driver data tx write)
    (outcome : driver.body unlock timeoutMs data tx = .next later) :
    ∃ follower,
      (driver.fifo data.length advances).body timeoutMs .enospc write =
        .next follower ∧
      Matches driver data later follower := by
  obtain ⟨n, filled, succeeded, _, early, rfl⟩ := body_next outcome
  have more : driver.taken data.length (tx.answers ++ [n]).length =
      tx.written + n.toNat := by
    rw [List.length_append, List.length_singleton, TxDriver.taken,
      same.taken, filled]
  have answered : (driver.fifo data.length advances).fill write.fills =
      .ok n.toNat := by
    rw [same.fill_eq, filled, answer, if_neg (by omega)]
  cases count : n.toNat with
  | zero =>
      rw [count] at answered
      have inTime : ¬(driver.fifo data.length advances).uptime write.fills -
          (driver.fifo data.length advances).start > timeoutMs := by
        have bound := early (by omega)
        show ¬driver.uptime (write.fills + 1) - driver.uptime 0 > timeoutMs
        rw [same.fills]
        omega
      refine ⟨{ write with fills := write.fills + 1 }, ?_, ?_⟩
      · rw [Fifo.body]
        simp only [answered, if_neg inTime]
      · exact {
          unsent := same.unsent
          accepted := by simp [same.accepted]
          fills := by simp [same.fills]
          taken := by rw [more, count]
          result := same.result
          returned := same.returned }
  | succ rest =>
      rw [count] at answered
      refine ⟨{ write with
          unsent := write.unsent.drop (rest + 1)
          accepted := write.accepted ++ write.unsent.take (rest + 1)
          fills := write.fills + 1 }, ?_, ?_⟩
      · rw [Fifo.body]
        simp only [answered]
      · exact {
          unsent := by simp [same.unsent]
          accepted := by simp [same.accepted, same.unsent]
          fills := by simp [same.fills]
          taken := by rw [more, count]
          result := same.result
          returned := same.returned }

theorem Matches.stop (same : Matches driver data tx write)
    (outcome : driver.body unlock timeoutMs data tx = .stop final) :
    ∃ last,
      (driver.fifo data.length advances).body timeoutMs .enospc write =
        .stop last ∧
      Agrees (finish unlock final) last := by
  obtain ⟨n, filled, code, reason, rfl⟩ := body_stop outcome
  rcases reason with ⟨failed, rfl⟩ | ⟨rfl, rfl, late⟩
  · have answered : (driver.fifo data.length advances).fill write.fills =
        .error (.driver code.natAbs) := by
      rw [same.fill_eq, filled, answer, if_pos failed]
    refine ⟨{ write with
        fills := write.fills + 1
        result := .error (.driver code.natAbs) }, ?_, same.accepted, ?_⟩
    · rw [Fifo.body]
      simp only [answered]
    · show some code = some (-(code.natAbs : Int))
      rw [Option.some.injEq]
      omega
  · have answered : (driver.fifo data.length advances).fill write.fills =
        .ok 0 := by
      rw [same.fill_eq, filled]
      rfl
    have passed : (driver.fifo data.length advances).uptime write.fills -
        (driver.fifo data.length advances).start > timeoutMs := by
      show driver.uptime (write.fills + 1) - driver.uptime 0 > timeoutMs
      rw [same.fills]
      exact late
    refine ⟨{ write with
        fills := write.fills + 1
        result := .error .enospc }, ?_, same.accepted, rfl⟩
    rw [Fifo.body]
    simp only [answered, if_pos passed]

theorem Matches.leave (same : Matches driver data tx write) :
    Agrees (finish unlock tx) write := by
  rw [finish, same.returned]
  refine ⟨same.accepted, ?_⟩
  rw [same.result]
  rfl

variable (advances) in
/-- A loop that has been left is a write of the FIFO that the driver is. -/
theorem exists_write_of_after {steps : Nat}
    (left : Loop.after (pending data) (driver.body unlock timeoutMs data)
      steps (begin locked) = .stop tx) :
    ∃ write,
      (driver.fifo data.length advances).write timeoutMs .enospc (steps + 1)
        data = some write ∧
      Agrees (finish unlock tx) write := by
  refine Loop.iterate_simulates (Matches driver data)
    (fun tx write => Agrees (finish unlock tx) write) ?_ ?_ ?_ ?_
    (Matches.begin driver data locked) (Loop.iterate_of_after left)
  · intro tx write same
    exact same.pending_eq
  · intro tx write later same _ outcome
    exact same.next outcome
  · intro tx write final same _ outcome
    exact same.stop outcome
  · intro tx write same _
    exact same.leave

theorem exists_write_of_returned {steps : Nat} {code : Int}
    (returned : (driver.dataTx unlock timeoutMs data locked steps).returned =
      some code)
    (advances : ∀ bound, ∃ index, bound < driver.uptime index) :
    ∃ fuel write,
      (driver.fifo data.length advances).write timeoutMs .enospc fuel data =
        some write ∧
      write.accepted =
        (driver.dataTx unlock timeoutMs data locked steps).handed ∧
      returnCode write.result = code := by
  rw [dataTx] at returned ⊢
  split at returned
  · rename_i tx running
    rw [(writing_of_after running).1.returned] at returned
    cases returned
  · rename_i tx left
    obtain ⟨write, written, accepted, agreed⟩ :=
      exists_write_of_after advances left
    refine ⟨steps + 1, write, written, accepted, ?_⟩
    rw [returned, Option.some.injEq] at agreed
    exact agreed.symm

/-- The writers are `serialDataTx` and `busDataTx` of the transmission. -/
theorem writers_refine (driver : TxDriver) (data : List UInt8)
    (advances : ∀ bound, ∃ index, bound < driver.uptime index)
    {θ : Type} [DecidableEq θ] (thread : θ) (mutex : Mutex θ) :
    (∀ steps tx code,
      driver.serialDataTx data thread mutex steps = some tx →
      tx.returned = some code →
      ∃ fuel write,
        SerialLink.serialDataTx (driver.fifo data.length advances) fuel
          data = some write ∧
        write.accepted = tx.handed ∧ returnCode write.result = code) ∧
    ∀ steps code, (driver.busDataTx data steps).returned = some code →
      ∃ fuel write,
        SerialLink.busDataTx (driver.fifo data.length advances) fuel data =
          some write ∧
        write.accepted = (driver.busDataTx data steps).handed ∧
        returnCode write.result = code := by
  constructor
  · intro steps tx code under returned
    obtain ⟨locked, _, rfl⟩ := serialDataTx_eq_some under
    exact exists_write_of_returned returned advances
  · intro steps code returned
    exact exists_write_of_returned returned advances

end Refinement

end TxDriver

end SerialLink
