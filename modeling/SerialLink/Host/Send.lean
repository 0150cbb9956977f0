import Mathlib.Data.List.Chain
import SerialLink.Host.Thread

/-!
# `bus_send` and its concurrent callers

`bus_send` and `bus_request` read and advance `tx_seq` before they enter
`bus_send_raw`, whose mutex orders the frames on the wire.  `Sending` is the
bus with any number of callers between the two: `waiting` lists the frames
whose number is reserved and which are not written yet, in the order of the
reservations.  No step reads that order.  A `bus_sync`, of `bus_open` or of a
`bus_request` whose frame was rejected, sets `tx_seq` to the number it is told.
-/

namespace SerialLink

namespace Bus

/-- `tx_seq` is advanced. -/
def reserveSend (bus : Bus) : Bus :=
  { bus with txSeq := seqNext bus.txSeq }

/-- The arguments of `bus_send`, whose checks and header are those of
`bus_request`. -/
def sendCall (type : SerialType) (payload : List UInt8) : Call :=
  { type, request := payload, resp := false }

/-- `bus_send` -/
def busSend (bus : Bus) (type : SerialType) (payload : List UInt8) :
    Except Errno Bus :=
  match bus.checkRequest (sendCall type payload) with
  | .error errno => .error errno
  | .ok () =>
      .ok (bus.reserveSend.busSendRaw .request
        (bus.requestHeader (sendCall type payload)) payload)

/-- The checks are passed by every payload of a legal length. -/
theorem checkRequest_ok {bus : Bus} {call : Call} (opened : bus.opened = true)
    (known : call.type.known = true) (positive : 0 < call.request.length)
    (bounded : call.request.length ≤ serialMaxPayloadLen) :
    bus.checkRequest call = .ok () := by
  have small : call.request.length % 65536 = call.request.length := by
    unfold serialMaxPayloadLen at bounded
    exact Nat.mod_eq_of_lt (by omega)
  have nonempty : call.request ≠ [] := List.length_pos_iff.mp positive
  simp [checkRequest, opened, known, small, busValidateTx,
    Nat.not_lt.mpr bounded, nonempty]

/-- The sequence numbers of the data frames on the wire. -/
def dataNumbers (wire : List (Purpose × SerialHeader × List UInt8)) :
    List Nat :=
  wire.filterMap fun (purpose, header, _) =>
    if purpose = .request then some header.sequenceNumber.val else none

@[simp] theorem dataNumbers_request
    (wire : List (Purpose × SerialHeader × List UInt8))
    (header : SerialHeader) (payload : List UInt8) :
    dataNumbers (wire ++ [(.request, header, payload)]) =
      dataNumbers wire ++ [header.sequenceNumber.val] := by
  simp [dataNumbers]

theorem dataNumbers_other
    (wire : List (Purpose × SerialHeader × List UInt8)) {purpose : Purpose}
    (other : purpose ≠ .request) (header : SerialHeader)
    (payload : List UInt8) :
    dataNumbers (wire ++ [(purpose, header, payload)]) =
      dataNumbers wire := by
  simp [dataNumbers, other]

end Bus

/-- A frame with its number, and the thread that is to write it. -/
structure Reservation (τ : Type) where
  thread : τ
  header : SerialHeader
  payload : List UInt8

structure Sending (τ : Type) where
  bus : Bus
  waiting : List (Reservation τ)

namespace Sending

variable {τ : Type} {sending later : Sending τ}

/-- The data frames on the wire follow each other in the 0..15 sequence
space. -/
def InOrder (sending : Sending τ) : Prop :=
  (Bus.dataNumbers sending.bus.wire).IsChain fun first second =>
    second = seqNext first

/-- The numbers that have been reserved, written or not. -/
def numbers (sending : Sending τ) : List Nat :=
  Bus.dataNumbers sending.bus.wire ++
    sending.waiting.map (·.header.sequenceNumber.val)

/-- The numbers on the wire and those waiting form one chain, which `tx_seq`
continues. -/
structure Orderly (sending : Sending τ) : Prop where
  chain : sending.numbers.IsChain fun first second => second = seqNext first
  continued : ∀ last ∈ sending.numbers.getLast?,
    sending.bus.txSeq = seqNext last
  bounded : sending.bus.txSeq ≤ sequenceNumberMax

theorem Orderly.inOrder (orderly : Orderly sending) : InOrder sending :=
  orderly.chain.left_of_append

theorem Orderly.of_same (orderly : Orderly sending)
    (numbers : later.numbers = sending.numbers)
    (txSeq : later.bus.txSeq = sending.bus.txSeq) : Orderly later where
  chain := numbers ▸ orderly.chain
  continued := by
    rw [numbers, txSeq]
    exact orderly.continued
  bounded := txSeq ▸ orderly.bounded

/-- The function a thread has called. -/
inductive Caller where
  | busSend
  | busRequest
  deriving DecidableEq, Repr

inductive Label (τ : Type) where
  /-- The checks are passed, `tx_seq` is read and advanced. -/
  | reserve (thread : τ) (caller : Caller) (call : Call)
  /-- `bus_send_raw` -/
  | write (thread : τ)
  /-- `bus_rx_work` or `bus_rx_isr` answers a frame. -/
  | busSendAck (type : SerialType) (sequenceNumber : Fin 16)
      (error : ErrorType)
  /-- `bus_sync` sends a query. -/
  | query
  /-- It takes the response from `rx_buf`. -/
  | learn (rxBuf : Nat → UInt8)

/-- Only `bus_request` sets `request_pending`. -/
def reserveFor (bus : Bus) : Caller → Bus
  | .busSend => bus.reserveSend
  | .busRequest => bus.reserveRequest

variable [DecidableEq τ]

def step (sending : Sending τ) : Label τ → Option (Sending τ)
  | .reserve thread caller call =>
      if sending.waiting.any (·.thread = thread) then none
      else
        match sending.bus.checkRequest call with
        | .error _ => some sending
        | .ok () =>
            some
              { bus := reserveFor sending.bus caller
                waiting := sending.waiting ++
                  [{ thread, header := sending.bus.requestHeader call
                     payload := call.request }] }
  | .write thread =>
      match sending.waiting.find? (·.thread = thread) with
      | none => none
      | some reservation =>
          some
            { bus := sending.bus.busSendRaw .request reservation.header
                reservation.payload
              waiting := sending.waiting.eraseP (·.thread = thread) }
  | .busSendAck type sequenceNumber error =>
      some { sending with
        bus := sending.bus.busSendAck type sequenceNumber error }
  | .query =>
      some { sending with
        bus := sending.bus.busSendRaw .query sending.bus.queryHeader [] }
  | .learn rxBuf =>
      some { sending with bus := { sending.bus with rxBuf }.learn }

/-- A frame is written only when all frames with an earlier reservation have
been written, and a response reports the number that comes next, or one of the
numbers 0..15 while none has been reserved. -/
def InTurn (sending : Sending τ) : Label τ → Prop
  | .write thread =>
      ∃ reservation, sending.waiting.head? = some reservation ∧
        reservation.thread = thread
  | .learn rxBuf =>
      (rxBuf 3).toNat = sending.bus.txSeq ∨
        sending.numbers = [] ∧ (rxBuf 3).toNat ≤ sequenceNumberMax
  | _ => True

theorem reserveFor_wire (bus : Bus) (caller : Caller) :
    (reserveFor bus caller).wire = bus.wire := by
  cases caller <;> rfl

theorem reserveFor_txSeq (bus : Bus) (caller : Caller) :
    (reserveFor bus caller).txSeq = seqNext bus.txSeq := by
  cases caller <;> rfl

theorem Orderly.reserve {thread : τ} {caller : Caller} {call : Call}
    (orderly : Orderly sending)
    (stepped : sending.step (.reserve thread caller call) = some later) :
    Orderly later := by
  simp only [step] at stepped
  split at stepped
  · cases stepped
  · split at stepped
    · cases stepped
      exact orderly
    · cases stepped
      have small := orderly.bounded
      unfold sequenceNumberMax at small
      have numbered : (sending.bus.requestHeader call).sequenceNumber.val =
          sending.bus.txSeq := Nat.mod_eq_of_lt (by omega)
      have extended : numbers
          { bus := reserveFor sending.bus caller
            waiting := sending.waiting ++
              [{ thread, header := sending.bus.requestHeader call
                 payload := call.request }] } =
          sending.numbers ++ [sending.bus.txSeq] := by
        simp [numbers, reserveFor_wire, numbered]
      constructor
      · rw [extended]
        apply orderly.chain.append (.singleton _)
        intro last member next first
        cases first
        exact orderly.continued last member
      · rw [extended, reserveFor_txSeq]
        simp
      · rw [reserveFor_txSeq]
        exact seqNext_le _

theorem Orderly.write {thread : τ} (orderly : Orderly sending)
    (inTurn : InTurn sending (.write thread))
    (stepped : sending.step (.write thread) = some later) :
    Orderly later := by
  obtain ⟨first, head, rfl⟩ := inTurn
  obtain ⟨rest, waiting⟩ : ∃ rest, sending.waiting = first :: rest :=
    List.head?_eq_some_iff.mp head
  simp only [step, waiting, List.find?_cons, decide_true,
    Option.some.injEq] at stepped
  subst stepped
  apply orderly.of_same
  · simp [numbers, Bus.busSendRaw, waiting]
  · rfl

theorem step_orderly {label : Label τ} (orderly : Orderly sending)
    (inTurn : InTurn sending label)
    (stepped : sending.step label = some later) : Orderly later := by
  cases label with
  | reserve thread caller call => exact orderly.reserve stepped
  | write thread => exact orderly.write inTurn stepped
  | busSendAck type sequenceNumber error =>
      cases stepped
      refine orderly.of_same ?_ rfl
      rw [numbers, Bus.busSendAck, Bus.busSendRaw,
        Bus.dataNumbers_other _ (by decide)]
      rfl
  | query =>
      cases stepped
      refine orderly.of_same ?_ rfl
      rw [numbers, Bus.busSendRaw, Bus.dataNumbers_other _ (by decide)]
      rfl
  | learn rxBuf =>
      cases stepped
      rcases inTurn with next | ⟨none, small⟩
      · exact orderly.of_same rfl next
      · have kept : numbers
            { sending with bus := { sending.bus with rxBuf }.learn } = [] :=
          none
        exact
          { chain := by simp [kept]
            continued := by simp [kept]
            bounded := small }

/-- A thread that runs through `bus_send` with nothing in between does what
`busSend` does in one step. -/
theorem exec_busSend {thread : τ} {type : SerialType} {payload : List UInt8}
    {bus : Bus} (sent : sending.bus.busSend type payload = .ok bus)
    (outside : sending.waiting.any (·.thread = thread) = false) :
    Run.exec step sending
        [.reserve thread .busSend (Bus.sendCall type payload),
          .write thread] = some { sending with bus } := by
  simp only [Bus.busSend] at sent
  split at sent
  · cases sent
  · rename_i passed
    cases sent
    have absent : sending.waiting.find? (·.thread = thread) = none := by
      simpa using outside
    simp [Run.exec, step, outside, passed, absent, reserveFor,
      List.eraseP_append]
    rfl

/-- If every frame is written in the turn of its number, and no response sets
`tx_seq` to another number once one has been taken, the data frames on the
wire are consecutive after every run. -/
theorem inOrder_of_inTurn (bus : Bus) (labels : List (Label τ))
    (final : Sending τ) (bounded : bus.txSeq ≤ sequenceNumberMax)
    (unused : Bus.dataNumbers bus.wire = [])
    (run : Run.GuardedRun step InTurn { bus, waiting := [] } labels final) :
    InOrder final := by
  have start : Orderly ({ bus, waiting := [] } : Sending τ) :=
    { chain := by simp [numbers, unused]
      continued := by simp [numbers, unused]
      bounded }
  have orderly := run.preserves
    (fun _ _ _ orderly inTurn stepped =>
      step_orderly orderly inTurn stepped) start
  exact orderly.inOrder

/-- A handshake from which two threads go on that overlap but write in
turn. -/
def overlapping : List (Label Bool) :=
  [.query, .learn fun _ => 15, .reserve true .busSend (Bus.sendCall .hci [1]),
    .reserve false .busRequest Bus.shortCall, .write true,
    .busSendAck .hci 0 .noError, .write false]

theorem inOrder_overlapping :
    ∃ final : Sending Bool,
      Run.exec step { bus := Bus.inUse, waiting := [] } overlapping =
        some final ∧
      Bus.dataNumbers final.bus.wire = [15, 0] ∧ InOrder final := by
  refine ⟨_, rfl, rfl, inOrder_of_inTurn Bus.inUse overlapping _ (by decide)
    rfl ?_⟩
  have reported : (15 : UInt8).toNat ≤ sequenceNumberMax := by decide
  exact .cons trivial rfl (.cons (.inr ⟨rfl, reported⟩) rfl
    (.cons trivial rfl (.cons trivial rfl (.cons ⟨_, rfl, rfl⟩ rfl
      (.cons trivial rfl (.cons ⟨_, rfl, rfl⟩ rfl (.nil _)))))))

/-- The thread with the later number reaches the mutex first. -/
theorem overtaken_not_inOrder :
    ∃ final : Sending Bool,
      Run.exec step { bus := Bus.inUse, waiting := [] }
        [.reserve true .busSend (Bus.sendCall .hci [1]),
          .reserve false .busSend (Bus.sendCall .hci [2]), .write false,
          .write true] = some final ∧
      Bus.dataNumbers final.bus.wire = [1, 0] ∧ ¬InOrder final := by
  refine ⟨_, rfl, rfl, ?_⟩
  rw [InOrder]
  decide

end Sending

end SerialLink
