import SerialLink.Host.Handshake

/-!
# The sequence counter of the host

`bus_sync` takes the next sequence number from the fourth byte of a response
and does not look whether it is one of 0..15.  As long as it is, `tx_seq` stays
in that range, and the frames that take a number count on from the response.

`Counting` is the bus with a mark on its wire where `bus_sync` has last
returned 0.  Frames arrive at any time, and `bus_send` may be called by other
threads.
-/

namespace SerialLink

/-- The numbers follow each other modulo 16, and `next` continues them. -/
structure InSequence (numbers : List Nat) (next : Nat) : Prop where
  chain : numbers.IsChain fun first second => second = (first + 1) % 16
  continued : ∀ last ∈ numbers.getLast?, next = (last + 1) % 16

namespace InSequence

theorem nil (next : Nat) : InSequence [] next :=
  ⟨.nil, nofun⟩

theorem snoc {numbers : List Nat} {next : Nat}
    (inSequence : InSequence numbers next) :
    InSequence (numbers ++ [next]) ((next + 1) % 16) where
  chain := by
    apply inSequence.chain.append (.singleton _)
    intro last member first head
    cases head
    exact inSequence.continued last member
  continued := by simp

end InSequence

theorem seqNext_eq {sequence : Nat} (small : sequence ≤ sequenceNumberMax) :
    seqNext sequence = (sequence + 1) % 16 := by
  unfold sequenceNumberMax at small
  unfold seqNext sequenceNumberMax
  split <;> omega

/-- The number of a request that is to be sent. -/
def Thread.reserved : Thread → List Nat
  | .requestSend _ _ _ header => [header.sequenceNumber.val]
  | _ => []

structure Counting where
  bus : Bus
  /-- The length of the wire when `bus_sync` has last returned 0. -/
  mark : Nat

namespace Counting

inductive Label where
  | thread (label : Bus.Label)
  | busSend (type : SerialType) (payload : List UInt8)

def step (counting : Counting) : Label → Option Counting
  | .thread label =>
      match counting.bus.step label with
      | some bus =>
          some
            { bus
              mark := if Handshake.syncReturnsZero counting.bus label then
                bus.wire.length else counting.mark }
      | none => none
  | .busSend type payload =>
      match counting.bus.busSend type payload with
      | .ok bus => some { counting with bus }
      | .error _ => some counting

/-- A response that `bus_sync` accepts reports one of the numbers 0..15. -/
def Reported (counting : Counting) : Label → Prop
  | .thread label =>
      Handshake.syncReturnsZero counting.bus label = true →
        (counting.bus.rxBuf 3).toNat ≤ sequenceNumberMax
  | .busSend _ _ => True

/-- No frame overtakes a request that has its number and is to be sent. -/
def InTurn (counting : Counting) : Label → Prop
  | .thread _ => True
  | .busSend _ _ => counting.bus.thread.reserved = []

/-- The sequence numbers in the headers of the frames that take a number,
since `bus_sync` has last returned 0. -/
def numbers (counting : Counting) : List Nat :=
  Bus.dataNumbers (counting.bus.wire.drop counting.mark)

/-- Consecutive frames carry consecutive numbers. -/
def Consecutive (counting : Counting) : Prop :=
  counting.numbers.IsChain fun first second => second = (first + 1) % 16

/-- The static memory of the host. -/
def boot (handler : SerialType → Bool) : Counting where
  bus := .boot handler
  mark := 0

variable {counting later : Counting} {bus next : Bus}

section Moves

/-- No frame with a number of its own is sent. -/
def Quiet (bus next : Bus) : Prop :=
  ∃ sent, next.wire = bus.wire ++ sent ∧ ∀ frame ∈ sent, frame.1 ≠ .request

theorem Quiet.of_same (same : next.wire = bus.wire) : Quiet bus next :=
  ⟨[], by rw [same, List.append_nil],
    fun _ member => absurd member List.not_mem_nil⟩

theorem Quiet.of_other {frame : Purpose × SerialHeader × List UInt8}
    (appended : next.wire = bus.wire ++ [frame])
    (other : frame.1 ≠ .request) : Quiet bus next := by
  refine ⟨[frame], appended, ?_⟩
  intro one member
  rw [List.mem_singleton.mp member]
  exact other

/-- What a step of the thread does to the counter and to the wire, according
to whether `bus_sync` returns 0 in it. -/
inductive Moves (bus next : Bus) : Bool → Prop where
  | keep (txSeq : next.txSeq = bus.txSeq)
      (reserved : next.thread.reserved = bus.thread.reserved)
      (quiet : Quiet bus next) : Moves bus next false
  /-- A request takes its number. -/
  | reserve (txSeq : next.txSeq = seqNext bus.txSeq)
      (none : bus.thread.reserved = [])
      (reserved : next.thread.reserved = [bus.txSeq % 16])
      (wire : next.wire = bus.wire) : Moves bus next false
  /-- The request is sent. -/
  | send (txSeq : next.txSeq = bus.txSeq) (header : SerialHeader)
      (payload : List UInt8)
      (reserved : bus.thread.reserved = [header.sequenceNumber.val])
      (none : next.thread.reserved = [])
      (wire : next.wire = bus.wire ++ [(.request, header, payload)]) :
      Moves bus next false
  /-- `bus_open` begins. -/
  | begin (closed : bus.opened = false) (txSeq : next.txSeq = 0)
      (none : next.thread.reserved = []) (wire : next.wire = bus.wire) :
      Moves bus next false
  | learn (txSeq : next.txSeq = (bus.rxBuf 3).toNat)
      (none : next.thread.reserved = []) : Moves bus next true

theorem reserved_finishSync (bus : Bus) (outcome : Except Errno Unit)
    (caller : SyncCaller) :
    (bus.finishSync outcome caller).thread.reserved = [] := by
  cases caller with
  | busOpen => rfl
  | busRequest call attempt => cases outcome <;> rfl

theorem finishSync_same (bus : Bus) (outcome : Except Errno Unit)
    (caller : SyncCaller) :
    (bus.finishSync outcome caller).txSeq = bus.txSeq ∧
      (bus.finishSync outcome caller).wire = bus.wire := by
  cases caller with
  | busOpen => exact ⟨rfl, rfl⟩
  | busRequest call attempt => cases outcome <;> exact ⟨rfl, rfl⟩

theorem moves_of_advances (advances : Bus.Advances bus next) :
    Moves bus next (Handshake.syncReturnsZero bus .advance) := by
  have plain : ∀ thread, bus.thread = thread →
      (∀ caller, thread ≠ .syncResponse caller) →
      Handshake.syncReturnsZero bus .advance = false := by
    intro thread position other
    rw [Handshake.syncReturnsZero, position]
    split
    · exact absurd rfl (other _)
    · rfl
  cases advances with
  | beginAttempt position allowed =>
      rw [plain _ position (by simp)]
      exact .reserve rfl (by rw [position]; rfl) rfl rfl
  | sendRequest position =>
      rw [plain _ position (by simp)]
      exact .send rfl _ _ (by rw [position]; rfl) rfl rfl
  | sendQuery position =>
      rw [plain _ position (by simp)]
      exact .keep rfl (by rw [position]; rfl) (.of_other rfl (by simp))
  | endQueries position =>
      rw [plain _ position (by simp)]
      obtain ⟨txSeq, wire⟩ := finishSync_same bus (.error .etimedout) _
      exact .keep txSeq (by rw [reserved_finishSync, position]; rfl)
        (.of_same wire)
  | drainToken position given =>
      rw [plain _ position (by simp), Bus.discardFrame_eq]
      exact .keep rfl rfl (.of_same rfl)
  | rejectResponse position =>
      rw [plain _ position (by simp), Bus.discardFrame_eq]
      exact .keep rfl (by rw [position]; rfl) (.of_same rfl)
  | readResponse position =>
      rename_i caller
      rw [Bus.readResponse]
      split
      · rename_i version
        have failed : Handshake.syncReturnsZero bus .advance = false := by
          rw [Handshake.syncReturnsZero, position]
          exact decide_eq_false version
        obtain ⟨txSeq, wire⟩ := finishSync_same
          (bus.dispose .synced .protocolInfo (bus.rxPayload 4))
          (.error .enotsup) caller
        rw [failed]
        exact .keep txSeq (by rw [reserved_finishSync, position]; rfl)
          (.of_same wire)
      · rename_i version
        have succeeded : Handshake.syncReturnsZero bus .advance = true := by
          rw [Handshake.syncReturnsZero, position]
          exact decide_eq_true (not_not.mp version)
        obtain ⟨txSeq, -⟩ := finishSync_same
          (bus.dispose .synced .protocolInfo (bus.rxPayload 4)).learn (.ok ())
          caller
        rw [succeeded]
        exact .learn txSeq (reserved_finishSync _ _ _)
  | _ position =>
      rw [plain _ position (by simp)]
      exact .keep rfl (by rw [position]; rfl) (.of_same rfl)

theorem moves_of_step {label : Bus.Label}
    (stepped : bus.step label = some next) :
    Moves bus next (Handshake.syncReturnsZero bus label) := by
  cases label with
  | busOpen =>
      simp only [Bus.step, Option.ite_none_right_eq_some, Option.some.injEq]
        at stepped
      obtain ⟨outside, rfl⟩ := stepped
      rw [Bus.busOpen]
      split
      · exact .keep rfl (by rw [outside]; rfl) (.of_same rfl)
      · rename_i closed
        exact .begin (Bool.eq_false_iff.mpr closed) rfl rfl rfl
  | advance =>
      cases Bus.steps_of_step stepped with
      | advance advances => exact moves_of_advances advances
  | expire =>
      cases Bus.steps_of_step stepped with
      | expireRequest position =>
          exact .keep rfl (by rw [position]; rfl) (.of_same rfl)
      | expireSync position =>
          exact .keep rfl (by rw [position]; rfl) (.of_same rfl)
  | receive frame =>
      cases Bus.steps_of_step stepped with
      | receive =>
          have same := Bus.receive_sameThread bus frame
          refine .keep same.txSeq (by rw [same.thread]) ?_
          rcases Bus.completeFrame_wire (bus.holding frame) with kept | answered
          · exact .of_same kept
          · exact .of_other answered (by simp)
  | readPart frame count =>
      cases Bus.steps_of_step stepped with
      | readPart => exact .keep rfl rfl (.of_same rfl)
  | busRequest call =>
      cases Bus.steps_of_step stepped with
      | refuseRequest position =>
          exact .keep rfl (by rw [position]; rfl) (.of_same rfl)
      | beginRequest position =>
          exact .keep rfl (by rw [position]; rfl) (.of_same rfl)

/-- The number in the header of a request. -/
theorem busSend_cases {type : SerialType} {payload : List UInt8}
    (sent : bus.busSend type payload = .ok next) :
    bus.opened = true ∧ next.txSeq = seqNext bus.txSeq ∧
      next.thread = bus.thread ∧ next.opened = bus.opened ∧
      ∃ header, header.sequenceNumber.val = bus.txSeq % 16 ∧
        next.wire = bus.wire ++ [(.request, header, payload)] := by
  rw [Bus.busSend] at sent
  split at sent
  · cases sent
  · rename_i passed
    cases sent
    refine ⟨?_, rfl, rfl, rfl, _, rfl, rfl⟩
    rw [Bus.checkRequest] at passed
    split at passed
    · cases passed
    · rename_i opened
      simpa using opened

end Moves

section Range

/-- `tx_seq` stays in 0..15 as long as the responses report numbers that are,
whatever else arrives and whoever sends. -/
theorem step_bounded {label : Label}
    (bounded : counting.bus.txSeq ≤ sequenceNumberMax)
    (reported : Reported counting label)
    (stepped : counting.step label = some later) :
    later.bus.txSeq ≤ sequenceNumberMax := by
  cases label with
  | thread label =>
      simp only [step] at stepped
      split at stepped
      · rename_i bus busStepped
        cases stepped
        have moves := moves_of_step busStepped
        generalize zero : Handshake.syncReturnsZero counting.bus label = flag
          at moves
        cases moves with
        | keep txSeq _ _ => exact txSeq ▸ bounded
        | reserve txSeq _ _ _ => exact txSeq ▸ seqNext_le _
        | send txSeq _ _ _ _ _ => exact txSeq ▸ bounded
        | begin _ txSeq _ _ => exact txSeq ▸ Nat.zero_le _
        | learn txSeq _ => exact txSeq ▸ reported zero
      · cases stepped
  | busSend type payload =>
      simp only [step] at stepped
      split at stepped
      · rename_i bus sent
        cases stepped
        obtain ⟨-, txSeq, -⟩ := busSend_cases sent
        exact txSeq ▸ seqNext_le _
      · cases stepped
        exact bounded

theorem bounded_of_reported {handler : SerialType → Bool}
    {labels : List Label} {final : Counting}
    (run : Run.GuardedRun step Reported (boot handler) labels final) :
    final.bus.txSeq ≤ sequenceNumberMax :=
  run.preserves
    (fun _ _ _ bounded reported stepped =>
      step_bounded bounded reported stepped) (Nat.zero_le _)

end Range

section Sequence

/-- The numbers since the mark and the one that is reserved form one chain,
which `tx_seq` continues. -/
structure Counted (counting : Counting) : Prop where
  bounded : counting.bus.txSeq ≤ sequenceNumberMax
  marked : counting.mark ≤ counting.bus.wire.length
  sequence : InSequence
    (counting.numbers ++ counting.bus.thread.reserved) counting.bus.txSeq
  unopened : counting.bus.opened = false →
    counting.bus.thread = .outside ∧ counting.numbers = []

theorem Counted.consecutive (counted : Counted counting) :
    Consecutive counting :=
  counted.sequence.chain.left_of_append

theorem numbers_append (marked : counting.mark ≤ counting.bus.wire.length)
    {sent : List (Purpose × SerialHeader × List UInt8)}
    (wire : next.wire = counting.bus.wire ++ sent) :
    numbers { bus := next, mark := counting.mark } =
      counting.numbers ++ Bus.dataNumbers sent := by
  rw [numbers, numbers, wire, List.drop_append_of_le_length marked,
    Bus.dataNumbers, List.filterMap_append]
  rfl

theorem numbers_quiet (marked : counting.mark ≤ counting.bus.wire.length)
    (quiet : Quiet counting.bus next) :
    numbers { bus := next, mark := counting.mark } = counting.numbers := by
  obtain ⟨sent, wire, others⟩ := quiet
  rw [numbers_append marked wire, Bus.dataNumbers,
    List.filterMap_eq_nil_iff.mpr, List.append_nil]
  rintro ⟨purpose, header, payload⟩ member
  exact if_neg (others _ member)

theorem marked_append (marked : counting.mark ≤ counting.bus.wire.length)
    {sent : List (Purpose × SerialHeader × List UInt8)}
    (wire : next.wire = counting.bus.wire ++ sent) :
    counting.mark ≤ next.wire.length := by
  rw [wire, List.length_append]
  exact Nat.le_add_right_of_le marked

theorem advances_opened (advances : Bus.Advances bus next) :
    next.opened = bus.opened := by
  have finished : ∀ (bus : Bus) outcome caller,
      (bus.finishSync outcome caller).opened = bus.opened := by
    intro bus outcome caller
    cases caller with
    | busOpen => rfl
    | busRequest call attempt => cases outcome <;> rfl
  cases advances with
  | endQueries position => exact finished _ _ _
  | drainToken position given =>
      rw [Bus.discardFrame_eq]
      rfl
  | rejectResponse position =>
      rw [Bus.discardFrame_eq]
      rfl
  | readResponse position =>
      rw [Bus.readResponse]
      split <;> exact finished _ _ _
  | _ => rfl

/-- Before `bus_open` no request is under way. -/
theorem step_unopened {label : Bus.Label}
    (unopened : bus.opened = false → bus.thread = .outside)
    (stepped : bus.step label = some next) (closed : next.opened = false) :
    bus.opened = false ∧ next.thread = .outside := by
  cases label with
  | advance =>
      have same := advances_opened (Bus.advances_of_advance stepped)
      have outside := unopened (same ▸ closed)
      rw [Bus.step, Bus.advance, outside] at stepped
      cases stepped
  | expire =>
      have same : next.opened = bus.opened := by
        cases Bus.steps_of_step stepped <;> rfl
      have outside := unopened (same ▸ closed)
      rw [Bus.step, Bus.expire, outside] at stepped
      split at stepped <;> cases stepped
  | receive frame =>
      cases Bus.steps_of_step stepped with
      | receive =>
          have same := Bus.receive_sameThread bus frame
          have before : bus.opened = false := same.opened ▸ closed
          exact ⟨before, same.thread.trans (unopened before)⟩
  | readPart frame count =>
      cases Bus.steps_of_step stepped with
      | readPart => exact ⟨closed, unopened closed⟩
  | busRequest call =>
      have same : next.opened = bus.opened := by
        cases Bus.steps_of_step stepped <;> rfl
      have before : bus.opened = false := same ▸ closed
      have refused : bus.checkRequest call = .error .enodev := by
        rw [Bus.checkRequest, if_pos before]
      rw [Bus.step, if_pos (unopened before), Bus.busRequest, refused]
        at stepped
      cases stepped
      exact ⟨before, rfl⟩
  | busOpen =>
      simp only [Bus.step, Option.ite_none_right_eq_some, Option.some.injEq]
        at stepped
      obtain ⟨-, rfl⟩ := stepped
      rw [Bus.busOpen] at closed
      split at closed
      · rename_i opened
        rw [show bus.opened = false from closed] at opened
        cases opened
      · cases closed

/-- A step that keeps the mark and sends no request keeps the numbers. -/
theorem Counted.quiet (counted : Counted counting)
    (bounded : next.txSeq ≤ sequenceNumberMax)
    (before : next.opened = false →
      counting.bus.opened = false ∧ next.thread = .outside)
    (quiet : Quiet counting.bus next)
    (sequence : InSequence (counting.numbers ++ next.thread.reserved)
      next.txSeq) :
    Counted { bus := next, mark := counting.mark } := by
  have same := numbers_quiet counted.marked quiet
  obtain ⟨sent, wire, -⟩ := quiet
  have marked := marked_append counted.marked wire
  refine ⟨bounded, marked, ?_, ?_⟩
  · rw [same]
    exact sequence
  · intro closed
    rw [same]
    exact ⟨(before closed).2, (counted.unopened (before closed).1).2⟩

theorem Counted.moves {label : Bus.Label} (counted : Counted counting)
    (reported : Reported counting (.thread label))
    (stepped : counting.bus.step label = some next) :
    Counted
      { bus := next
        mark := if Handshake.syncReturnsZero counting.bus label then
          next.wire.length else counting.mark } := by
  have bounded : next.txSeq ≤ sequenceNumberMax :=
    step_bounded counted.bounded reported
      (show counting.step (.thread label) = some _ by rw [step, stepped])
  have sequence := counted.sequence
  have small := counted.bounded
  have before (closed : next.opened = false) :=
    step_unopened (fun closed => (counted.unopened closed).1) stepped closed
  have moves := moves_of_step stepped
  generalize Handshake.syncReturnsZero counting.bus label = flag at moves ⊢
  cases moves with
  | keep txSeq reserved quiet =>
      apply counted.quiet bounded before quiet
      rw [txSeq, reserved]
      exact sequence
  | reserve txSeq none reserved wire =>
      apply counted.quiet bounded before (.of_same wire)
      rw [none, List.append_nil] at sequence
      rw [reserved, txSeq, seqNext_eq small, Nat.mod_eq_of_lt (by
        unfold sequenceNumberMax at small; omega)]
      exact sequence.snoc
  | send txSeq header payload reserved none wire =>
      have extended := numbers_append counted.marked wire
      have marked := marked_append counted.marked wire
      refine ⟨bounded, marked, ?_, ?_⟩
      · rw [reserved] at sequence
        rw [none, List.append_nil, txSeq]
        exact extended ▸ sequence
      · intro closed
        obtain ⟨unopened, -⟩ := before closed
        rw [(counted.unopened unopened).1] at reserved
        cases reserved
  | begin closed txSeq none wire =>
      apply counted.quiet bounded before (.of_same wire)
      rw [none, (counted.unopened closed).2]
      exact .nil _
  | learn txSeq none =>
      have renewed :
          numbers { bus := next, mark := next.wire.length } = [] := by
        rw [numbers, List.drop_length]
        rfl
      refine ⟨bounded, Nat.le_refl _, ?_, ?_⟩
      · show InSequence
          (numbers { bus := next, mark := next.wire.length } ++ _) _
        rw [renewed, none]
        exact .nil _
      · intro closed
        exact ⟨(before closed).2, renewed⟩

theorem Counted.busSend {type : SerialType} {payload : List UInt8}
    (counted : Counted counting)
    (alone : counting.bus.thread.reserved = [])
    (sent : counting.bus.busSend type payload = .ok next) :
    Counted { bus := next, mark := counting.mark } := by
  obtain ⟨opened, txSeq, thread, same, header, number, wire⟩ :=
    busSend_cases sent
  have small := counted.bounded
  have sequence := counted.sequence
  rw [alone, List.append_nil] at sequence
  have extended : numbers { bus := next, mark := counting.mark } =
      counting.numbers ++ [counting.bus.txSeq] := by
    rw [numbers_append counted.marked wire]
    show _ ++ [header.sequenceNumber.val] = _
    rw [number, Nat.mod_eq_of_lt (by unfold sequenceNumberMax at small; omega)]
  have marked := marked_append counted.marked wire
  refine ⟨txSeq ▸ seqNext_le _, marked, ?_, ?_⟩
  · rw [extended, thread, alone, List.append_nil, txSeq, seqNext_eq small]
    exact sequence.snoc
  · intro closed
    exact absurd (opened.symm.trans (same.symm.trans closed)) nofun

theorem counted_boot (handler : SerialType → Bool) :
    Counted (boot handler) where
  bounded := Nat.zero_le _
  marked := Nat.le_refl _
  sequence := .nil _
  unopened := fun _ => ⟨rfl, rfl⟩

theorem Counted.step {label : Label} (counted : Counted counting)
    (reported : Reported counting label) (inTurn : InTurn counting label)
    (stepped : counting.step label = some later) : Counted later := by
  cases label with
  | thread label =>
      simp only [Counting.step] at stepped
      split at stepped
      · rename_i bus busStepped
        cases stepped
        exact counted.moves reported busStepped
      · cases stepped
  | busSend type payload =>
      simp only [Counting.step] at stepped
      split at stepped
      · rename_i bus sent
        cases stepped
        exact counted.busSend inTurn sent
      · cases stepped
        exact counted

theorem consecutive_of_reported {handler : SerialType → Bool}
    {labels : List Label} {final : Counting}
    (run : Run.GuardedRun Counting.step
      (fun counting label => Reported counting label ∧ InTurn counting label)
      (boot handler) labels final) : Consecutive final := by
  have counted := run.preserves
    (fun _ _ _ counted allowed stepped =>
      Counted.step counted allowed.1 allowed.2 stepped) (counted_boot handler)
  exact counted.consecutive

end Sequence

end Counting

end SerialLink
