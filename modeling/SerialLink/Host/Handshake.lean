import Mathlib.Control.Monad.Basic
import SerialLink.Host.Send

/-!
# The handshake of `bus_open`

`bus_open` marks the bus as open before it calls `bus_sync`, and the mark is
all that later calls look at.  A bus is used before a handshake has succeeded
only if a call is made after one that failed, or while one is under way.

`Handshake` is the bus with a record of whether `bus_sync` has ever returned
0.  `bus_send` and a second `bus_open` may be called by other threads at any
time.
-/

namespace SerialLink

/-- The caller of `bus_sync`, for a thread inside it. -/
def Thread.syncCaller : Thread → Option SyncCaller
  | .syncLoop caller _ => some caller
  | .syncDrain caller _ _ => some caller
  | .syncSend caller _ _ => some caller
  | .syncTake caller _ => some caller
  | .syncInspect caller _ => some caller
  | .syncClear caller _ => some caller
  | .syncAccept caller => some caller
  | .syncResponse caller => some caller
  | _ => none

structure Handshake where
  bus : Bus
  /-- Some `bus_sync` has returned 0. -/
  synced : Bool

namespace Handshake

inductive Label where
  | thread (label : Bus.Label)
  | busSend (type : SerialType) (payload : List UInt8)
  /-- `bus_open` is called once more. -/
  | busOpenAgain
  /-- `bus_open` is called while the UART is not ready. -/
  | busOpenNotReady

/-- The thread is about to return 0 from `bus_sync`. -/
def syncReturnsZero (bus : Bus) : Bus.Label → Bool
  | .advance =>
      match bus.thread with
      | .syncResponse _ => (bus.rxBuf 0).toNat = serialProtocolVersion
      | _ => false
  | _ => false

def step (handshake : Handshake) : Label → Option Handshake
  | .thread label =>
      match handshake.bus.step label with
      | some bus =>
          some
            { bus
              synced := handshake.synced ||
                syncReturnsZero handshake.bus label }
      | none => none
  | .busSend type payload =>
      match handshake.bus.busSend type payload with
      | .ok bus => some { handshake with bus }
      | .error _ => some handshake
  | .busOpenAgain =>
      if handshake.bus.opened then
        some { handshake with bus.opens := handshake.bus.opens ++ [.ok ()] }
      else none
  | .busOpenNotReady =>
      if handshake.bus.opened then none
      else
        some { handshake with
          bus.opens := handshake.bus.opens ++ [.error .enodev] }

/-- The handshake of every `bus_open` so far has succeeded: a UART that was
not ready was left alone. -/
def NoneFailed (bus : Bus) : Prop :=
  ∀ outcome ∈ bus.opens, outcome = .ok () ∨ outcome = .error .enodev

/-- The calls that look at the mark. -/
def Label.isCall : Label → Bool
  | .thread (.busRequest _) => true
  | .thread .busOpen => true
  | .busSend _ _ => true
  | .busOpenAgain => true
  | _ => false

/-- A call is made neither after a handshake that failed nor during one of
`bus_open`. -/
def CalledInOrder (handshake : Handshake) (label : Label) : Prop :=
  label.isCall = true → NoneFailed handshake.bus ∧
    handshake.bus.thread.syncCaller ≠ some .busOpen

/-- `bus_open` has returned 0, and `bus_send` and `bus_request` have sent
frames, only if some `bus_sync` has returned 0. -/
structure Verified (handshake : Handshake) : Prop where
  opens : .ok () ∈ handshake.bus.opens → handshake.synced = true
  wire : ∀ frame ∈ handshake.bus.wire, frame.1 = .request →
    handshake.synced = true

/-- Before a handshake has succeeded. -/
structure Unverified (bus : Bus) : Prop where
  opens : .ok () ∉ bus.opens
  wire : ∀ frame ∈ bus.wire, frame.1 ≠ .request
  position : bus.thread = .outside ∨
    bus.thread.syncCaller = some .busOpen
  opened : bus.opened = true →
    bus.thread.syncCaller = some .busOpen ∨ ¬NoneFailed bus

end Handshake

theorem Bus.receive_opens (bus : Bus) (frame : Frame) :
    (bus.receive frame).opens = bus.opens := by
  rcases receive_cases bus frame with
    ⟨_, _, received⟩ | ⟨_, _, received⟩ | ⟨_, _, received⟩
  · rw [received]
    rfl
  · rw [received, wakeIfPending]
    split <;> rfl
  · rw [received, dispatchData, deliver, acknowledge]
    split <;> split <;> rfl

namespace Handshake

variable {handshake later : Handshake} {bus next : Bus}

namespace Unverified

/-- A step of `bus_sync` that stays inside it. -/
theorem inside (unverified : Unverified bus)
    (still : next.thread.syncCaller = some .busOpen)
    (opens : next.opens = bus.opens)
    (wire : ∀ frame ∈ next.wire, frame ∈ bus.wire ∨ frame.1 ≠ .request) :
    Unverified next where
  opens := opens ▸ unverified.opens
  wire := by
    intro frame member
    rcases wire frame member with before | other
    · exact unverified.wire frame before
    · exact other
  position := .inr still
  opened := fun _ => .inl still

theorem inside_silent (unverified : Unverified bus)
    (still : next.thread.syncCaller = some .busOpen)
    (opens : next.opens = bus.opens) (wire : next.wire = bus.wire) :
    Unverified next := by
  apply unverified.inside still opens
  intro frame member
  exact .inl (wire ▸ member)

/-- `bus_open` returns the error of its handshake. -/
theorem failed {errno : Errno} (unverified : Unverified bus)
    (failure : errno ≠ .enodev) :
    Unverified (bus.returnOpen (.error errno)) where
  opens := by
    intro member
    rcases List.mem_append.mp member with before | last
    · exact unverified.opens before
    · cases List.mem_singleton.mp last
  wire := unverified.wire
  position := .inl rfl
  opened := by
    intro _
    right
    intro none
    rcases none (.error errno)
      (List.mem_append_right _ List.mem_cons_self) with zero | absent
    · cases zero
    · cases absent
      exact failure rfl

/-- The thread is inside no `bus_request`. -/
theorem caller_eq {thread : Thread} {caller : SyncCaller}
    (unverified : Unverified bus) (position : bus.thread = thread)
    (inSync : thread.syncCaller = some caller) : caller = .busOpen := by
  rcases unverified.position with outside | opening
  · rw [position] at outside
    rw [outside] at inSync
    cases inSync
  · rw [position, inSync] at opening
    exact Option.some.inj opening

theorem not_requesting {thread : Thread} (unverified : Unverified bus)
    (position : bus.thread = thread) (elsewhere : thread ≠ .outside)
    (noSync : thread.syncCaller = none) : False := by
  rcases unverified.position with outside | opening
  · exact elsewhere (position.symm.trans outside)
  · rw [position, noSync] at opening
    cases opening

theorem advances (unverified : Unverified bus)
    (advances : Bus.Advances bus next)
    (notZero : syncReturnsZero bus .advance = false) : Unverified next := by
  cases advances with
  | beginQuery position allowed =>
      cases unverified.caller_eq position rfl
      exact unverified.inside_silent rfl rfl rfl
  | endQueries position =>
      cases unverified.caller_eq position rfl
      exact unverified.failed nofun
  | drainToken position given =>
      cases unverified.caller_eq position rfl
      rw [Bus.discardFrame_eq]
      exact unverified.inside_silent (congrArg Thread.syncCaller position)
        rfl rfl
  | drained position none =>
      cases unverified.caller_eq position rfl
      exact unverified.inside_silent rfl rfl rfl
  | sendQuery position =>
      cases unverified.caller_eq position rfl
      refine unverified.inside rfl rfl ?_
      intro frame member
      rcases List.mem_append.mp member with before | last
      · exact .inl before
      · rw [List.mem_singleton.mp last]
        exact .inr nofun
  | takeResponse position given =>
      cases unverified.caller_eq position rfl
      exact unverified.inside_silent rfl rfl rfl
  | acceptResponse position fits =>
      cases unverified.caller_eq position rfl
      exact unverified.inside_silent rfl rfl rfl
  | rejectResponse position =>
      cases unverified.caller_eq position rfl
      rw [Bus.discardFrame_eq]
      exact unverified.inside_silent rfl rfl rfl
  | clearAttempt position =>
      cases unverified.caller_eq position rfl
      exact unverified.inside_silent rfl rfl rfl
  | clearAccepted position =>
      cases unverified.caller_eq position rfl
      exact unverified.inside_silent rfl rfl rfl
  | readResponse position =>
      cases unverified.caller_eq position rfl
      have other : (bus.rxBuf 0).toNat ≠ serialProtocolVersion := by
        simp only [syncReturnsZero, position] at notZero
        exact of_decide_eq_false notZero
      have rejected : bus.readResponse .busOpen =
          (bus.dispose .synced .protocolInfo (bus.rxPayload 4)).returnOpen
            (.error .enotsup) := if_pos other
      rw [rejected]
      exact failed ⟨unverified.opens, unverified.wire, unverified.position,
        unverified.opened⟩ nofun
  | _ position =>
      exact (unverified.not_requesting position nofun rfl).elim

theorem receive (unverified : Unverified bus) (frame : Frame) :
    Unverified (bus.receive frame) := by
  have same := Bus.receive_sameThread bus frame
  have opens := Bus.receive_opens bus frame
  constructor
  case opens => exact opens ▸ unverified.opens
  case wire =>
    intro sent member
    rcases Bus.completeFrame_wire (bus.holding frame) with kept | answered
    · rw [Bus.receive, kept] at member
      exact unverified.wire sent member
    · rw [Bus.receive, answered] at member
      rcases List.mem_append.mp member with before | last
      · exact unverified.wire sent before
      · rw [List.mem_singleton.mp last]
        intro request
        cases request
  case position => exact same.thread ▸ unverified.position
  case opened =>
    rw [same.opened, same.thread, NoneFailed, opens]
    exact unverified.opened

/-- A call finds the bus not marked as open. -/
theorem not_opened (unverified : Unverified bus) (succeeded : NoneFailed bus)
    (notOpening : bus.thread.syncCaller ≠ some .busOpen) :
    bus.opened = false := by
  apply Bool.eq_false_iff.mpr
  intro opened
  rcases unverified.opened opened with opening | failed
  · exact notOpening opening
  · exact failed succeeded

theorem busRequest {call : Call} (unverified : Unverified bus)
    (closed : bus.opened = false)
    (stepped : bus.step (.busRequest call) = some next) :
    Unverified next := by
  have refused : bus.busRequest call =
      bus.returnRequest call (.failure .enodev) := by
    simp [Bus.busRequest, Bus.checkRequest, closed]
  simp only [Bus.step, refused, Option.ite_none_right_eq_some,
    Option.some.injEq] at stepped
  obtain ⟨-, rfl⟩ := stepped
  refine ⟨unverified.opens, unverified.wire, .inl rfl, ?_⟩
  intro opened
  rw [show bus.opened = true from opened] at closed
  cases closed

theorem busOpen (unverified : Unverified bus) (closed : bus.opened = false)
    (stepped : bus.step .busOpen = some next) : Unverified next := by
  have begun : bus.busOpen = bus.beginOpen := by
    simp [Bus.busOpen, closed]
  simp only [Bus.step, begun, Option.ite_none_right_eq_some,
    Option.some.injEq] at stepped
  obtain ⟨-, rfl⟩ := stepped
  exact unverified.inside_silent rfl rfl rfl

end Unverified

theorem Unverified.step {label : Label} (unverified : Unverified handshake.bus)
    (allowed : CalledInOrder handshake label)
    (stepped : handshake.step label = some later) :
    later.synced = true ∨ Unverified later.bus := by
  cases label with
  | thread label =>
      rw [Handshake.step] at stepped
      split at stepped
      · next bus busStepped =>
          cases stepped
          by_cases zero : syncReturnsZero handshake.bus label = true
          · left
            exact Bool.or_eq_true_iff.mpr (.inr zero)
          · right
            have notZero := Bool.eq_false_iff.mpr zero
            cases label with
            | advance =>
                exact unverified.advances
                  (Bus.advances_of_advance busStepped) notZero
            | expire =>
                cases Bus.steps_of_expire busStepped with
                | expireRequest position =>
                    exact (unverified.not_requesting position nofun rfl).elim
                | expireSync position =>
                    cases unverified.caller_eq position rfl
                    exact unverified.inside_silent rfl rfl rfl
            | receive frame =>
                cases Bus.steps_of_step busStepped
                exact unverified.receive frame
            | readPart frame count =>
                cases Bus.steps_of_step busStepped
                exact ⟨unverified.opens, unverified.wire, unverified.position,
                  unverified.opened⟩
            | busRequest call =>
                obtain ⟨succeeded, notOpening⟩ := allowed rfl
                exact unverified.busRequest
                  (unverified.not_opened succeeded notOpening) busStepped
            | busOpen =>
                obtain ⟨succeeded, notOpening⟩ := allowed rfl
                exact unverified.busOpen
                  (unverified.not_opened succeeded notOpening) busStepped
      · cases stepped
  | busSend type payload =>
      obtain ⟨succeeded, notOpening⟩ := allowed rfl
      have closed := unverified.not_opened succeeded notOpening
      right
      have refused : handshake.bus.busSend type payload = .error .enodev := by
        simp [Bus.busSend, Bus.checkRequest, closed]
      rw [Handshake.step, refused] at stepped
      cases stepped
      exact unverified
  | busOpenAgain =>
      obtain ⟨succeeded, notOpening⟩ := allowed rfl
      have closed := unverified.not_opened succeeded notOpening
      rw [Handshake.step, closed] at stepped
      cases stepped
  | busOpenNotReady =>
      rw [Handshake.step] at stepped
      split at stepped
      · cases stepped
      · next closed =>
          cases stepped
          right
          refine ⟨?_, unverified.wire, unverified.position, ?_⟩
          · intro member
            rcases List.mem_append.mp member with before | last
            · exact unverified.opens before
            · cases List.mem_singleton.mp last
          · intro opened
            exact absurd opened closed

theorem step_synced {label : Label} (synced : handshake.synced = true)
    (stepped : handshake.step label = some later) : later.synced = true := by
  cases label with
  | thread label =>
      rw [step] at stepped
      split at stepped
      · cases stepped
        exact Bool.or_eq_true_iff.mpr (.inl synced)
      · cases stepped
  | busSend type payload =>
      rw [step] at stepped
      split at stepped <;> cases stepped <;> exact synced
  | busOpenAgain =>
      rw [step] at stepped
      split at stepped
      · cases stepped
        exact synced
      · cases stepped
  | busOpenNotReady =>
      rw [step] at stepped
      split at stepped
      · cases stepped
      · cases stepped
        exact synced

theorem verified_of_synced_or_unverified
    (either : handshake.synced = true ∨ Unverified handshake.bus) :
    Verified handshake := by
  rcases either with synced | unverified
  · exact ⟨fun _ => synced, fun _ _ _ => synced⟩
  · exact ⟨fun zero => absurd zero unverified.opens,
      fun frame member request =>
        absurd request (unverified.wire frame member)⟩

/-- The static memory of the host. -/
def boot (handler : SerialType → Bool) : Handshake where
  bus := Bus.boot handler
  synced := false

theorem unverified_boot (handler : SerialType → Bool) :
    Unverified (boot handler).bus where
  opens := List.not_mem_nil
  wire := fun _ member => absurd member List.not_mem_nil
  position := .inl rfl
  opened := nofun

instance (handshake : Handshake) (label : Label) :
    Decidable (CalledInOrder handshake label) :=
  inferInstanceAs (Decidable (label.isCall = true →
    (∀ outcome ∈ handshake.bus.opens,
      outcome = .ok () ∨ outcome = .error .enodev) ∧ _ ≠ _))

theorem step_kept {label : Label}
    (either : handshake.synced = true ∨ Unverified handshake.bus)
    (allowed : CalledInOrder handshake label)
    (stepped : handshake.step label = some later) :
    later.synced = true ∨ Unverified later.bus := by
  rcases either with synced | unverified
  · exact .inl (step_synced synced stepped)
  · exact unverified.step allowed stepped

/-- As long as no call is made after a handshake that failed, or during one of
`bus_open`, the bus is used only after a handshake that succeeded, whatever
the device sends. -/
theorem verified_of_calledInOrder {handler : SerialType → Bool}
    {labels : List Label} {final : Handshake}
    (run : Run.GuardedRun step CalledInOrder (boot handler) labels final) :
    Verified final := by
  apply verified_of_synced_or_unverified
  exact run.preserves
    (fun _ _ _ either allowed stepped => step_kept either allowed stepped)
    (.inr (unverified_boot handler))

section Trace

/-- A handshake with a device that answers the first query, then calls of the
other driver. -/
def orderlyCalls : List Label :=
  [.busOpenNotReady, .thread .busOpen, .thread .advance, .thread .advance,
    .thread .advance, .thread (.receive (Bus.information 5)),
    .thread .advance, .thread .advance, .thread .advance, .thread .advance,
    .busOpenAgain, .busSend .hci [1, 3, 12, 0]]

theorem orderlyCalls_verified :
    ∃ final, Run.GuardedRun step CalledInOrder (boot fun _ => true)
        orderlyCalls final ∧
      final.bus.opens = [.error .enodev, .ok (), .ok ()] ∧
      Bus.dataNumbers final.bus.wire = [5] ∧ Verified final := by
  have executed : (Run.execGuarded step CalledInOrder (boot fun _ => true)
      orderlyCalls).map (fun final =>
        (final.bus.opens, Bus.dataNumbers final.bus.wire)) =
        some ([.error .enodev, .ok (), .ok ()], [5]) := by
    decide +kernel
  obtain ⟨final, ended, records⟩ := Option.map_eq_some_iff.mp executed
  obtain ⟨opens, numbers⟩ := Prod.mk.inj records
  have run := Run.guardedRun_of_execGuarded ended
  exact ⟨final, run, opens, numbers, verified_of_calledInOrder run⟩

/-- A query that is not answered. -/
def unanswered : List Label :=
  [.thread .advance, .thread .advance, .thread .advance, .thread .expire,
    .thread .advance]

/-- `bus_open` with a silent device, and the calls of the other driver. -/
def silentDevice : List Label :=
  .thread .busOpen :: (unanswered ++ unanswered ++ unanswered ++ unanswered) ++
    [.thread .advance, .thread .busOpen, .busSend .hci [1, 3, 12, 0]]

/-- The second `bus_open` returns 0 and `bus_send` sends its frame, although
no `bus_sync` has returned 0. -/
theorem silentDevice_not_verified :
    ∃ final, Run.exec step (boot fun _ => true) silentDevice = some final ∧
      .ok () ∈ final.bus.opens ∧
      (∃ frame ∈ final.bus.wire, frame.1 = .request) ∧
      final.synced = false ∧ ¬Verified final := by
  have executed : (Run.exec step (boot fun _ => true) silentDevice).map
      (fun final => (final.bus.opens, final.bus.wire.map Prod.fst,
        final.synced)) =
      some ([.error .etimedout, .ok ()],
        [.query, .query, .query, .query, .request], false) := by
    decide +kernel
  obtain ⟨final, ended, records⟩ := Option.map_eq_some_iff.mp executed
  obtain ⟨opens, others⟩ := Prod.mk.inj records
  obtain ⟨purposes, unsynced⟩ := Prod.mk.inj others
  have zero : .ok () ∈ final.bus.opens := by simp [opens]
  have sent : .request ∈ final.bus.wire.map Prod.fst := by simp [purposes]
  refine ⟨final, ended, zero, List.mem_map.mp sent, unsynced, ?_⟩
  intro verified
  have synced := verified.opens zero
  rw [unsynced] at synced
  cases synced

end Trace

end Handshake

end SerialLink
