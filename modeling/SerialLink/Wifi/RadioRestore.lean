import SerialLink.Wifi.RawCapture

/-!
# What raw capture leaves of the radio

`enable` switches the radio to monitor mode and then opens the packet filter.
Its early returns and `disable` put neither back.
-/

namespace SerialLink

namespace Wifi

namespace RawRx

section Capture

variable {index : Nat} {channel : UInt32} {calls : EnableCalls}

/-- The modes and the packet filters of the interfaces. -/
def capture (state : RawRx) : Nat → Nat × Nat :=
  fun index => ((state.radio index).mode, (state.radio index).filter)

theorem capture_tune (state : RawRx) (index : Nat)
    (change : RadioSettings → RadioSettings) :
    (state.tune index change).capture =
      Function.update state.capture index
        ((change (state.radio index)).mode,
          (change (state.radio index)).filter) := by
  funext other
  by_cases same : other = index
  · subst same
    simp [capture, tune]
  · simp [capture, tune, same]

theorem capture_readBack (state : RawRx) :
    (state.readBack index calls).capture = state.capture := by
  unfold readBack
  split <;> rfl

theorem capture_openSocket (state : RawRx) :
    (state.openSocket index calls).2.capture = state.capture := by
  unfold openSocket
  split_ifs <;> rfl

theorem capture_filterAll (state : RawRx) :
    (state.filterAll index calls).2.capture =
      if calls.setPacketFilter = 0 then
        Function.update state.capture index
          ((state.capture index).1, packetFilterAll)
      else state.capture := by
  unfold filterAll
  by_cases done : calls.setPacketFilter = 0
  · rw [if_neg (not_not_intro done), if_pos done, capture_openSocket,
      capture_tune]
    rfl
  · rw [if_pos done, if_neg done]

theorem capture_tuneChannel (state : RawRx) :
    (state.tuneChannel index channel calls).2.capture =
      if (channel ≠ 0 → calls.setChannel = 0) ∧
          calls.setPacketFilter = 0 then
        Function.update state.capture index
          ((state.capture index).1, packetFilterAll)
      else state.capture := by
  have untouched : (state.tune index fun settings =>
      { settings with channel }).capture = state.capture := by
    rw [capture_tune]
    exact Function.update_eq_self index state.capture
  unfold tuneChannel
  by_cases given : channel ≠ 0
  · by_cases done : calls.setChannel = 0
    · rw [if_pos given, if_neg (not_not_intro done), capture_filterAll,
        untouched]
      simp [done]
    · rw [if_pos given, if_pos done]
      simp [given, done]
  · rw [if_neg given, capture_filterAll]
    simp [given]

/-- The mode is monitor mode where the call for it succeeds, and the filter
passes all frames where the calls behind that one succeed too. -/
theorem capture_enterMonitor (state : RawRx) :
    (state.enterMonitor index channel calls).2.capture =
      if calls.setMode = 0 then
        Function.update state.capture index
          (monitorMode,
            if calls.txInjection = 0 ∧
                (channel ≠ 0 → calls.setChannel = 0) ∧
                calls.setPacketFilter = 0 then packetFilterAll
            else (state.capture index).2)
      else state.capture := by
  unfold enterMonitor
  by_cases refused : calls.setMode ≠ 0
  · rw [if_pos refused, if_neg refused]
  · have monitoring : ((state.tune index fun settings =>
        { settings with mode := monitorMode }).readBack index calls).capture =
        Function.update state.capture index
          (monitorMode, (state.capture index).2) := by
      rw [capture_readBack, capture_tune]
      rfl
    rw [if_neg refused, if_pos (Decidable.not_not.mp refused)]
    generalize (state.tune index fun settings =>
      { settings with mode := monitorMode }).readBack index calls = later
      at monitoring ⊢
    have injecting : (later.tune index fun settings =>
        { settings with txInjection := true }).capture = later.capture := by
      rw [capture_tune]
      exact Function.update_eq_self index later.capture
    by_cases injection : calls.txInjection = 0
    · dsimp only
      rw [if_neg (not_not_intro injection), capture_tuneChannel, injecting,
        monitoring]
      split_ifs <;> simp_all
    · simp [injection, monitoring]

/-- The interface is up, or one of the attempts to bring it up succeeds. -/
def ComesUp (state : RawRx) (index : Nat) (calls : EnableCalls) : Prop :=
  (state.radio index).up = true ∨ upRet calls.netIfUp 5 0 (-eio) = 0

theorem capture_enable (state : RawRx) {iface : Iface}
    (wifi : iface.isWifi = true) (closed : state.sockfd < 0) :
    (state.ComesUp iface.index calls →
      (state.enable (some iface) channel calls).2.capture =
        (state.enterMonitor iface.index channel calls).2.capture) ∧
    (¬state.ComesUp iface.index calls →
      (state.enable (some iface) channel calls).2 = state) := by
  unfold enable ComesUp
  simp only [wifi, not_true_eq_false, if_false, if_neg (Int.not_le.mpr closed)]
  by_cases up : (state.radio iface.index).up = true
  · simp [up]
  · rw [if_pos up]
    by_cases done : upRet calls.netIfUp 5 0 (-eio) = 0
    · rw [if_neg (not_not_intro done)]
      have raised : (state.tune iface.index fun settings =>
          { settings with up := true }).capture = state.capture := by
        rw [capture_tune]
        exact Function.update_eq_self iface.index state.capture
      refine ⟨fun _ => ?_, fun never => absurd (.inr done) never⟩
      rw [capture_enterMonitor, capture_enterMonitor, raised]
    · rw [if_pos done]
      exact ⟨fun comes => absurd comes (by simp [up, done]), fun _ => rfl⟩

end Capture

/-- Raw capture leaves the radio as it found it: when `enable` fails, and when
the capture is disabled after it, whatever the thread did in between. -/
def LeavesRadio (state : RawRx) (iface : Option Iface) (channel : UInt32)
    (calls : EnableCalls) : Prop :=
  let enabled := state.enable iface channel calls
  (enabled.1 ≠ 0 → enabled.2.capture = state.capture) ∧
  (enabled.1 = 0 → ∀ iterations : List RxIteration,
    let disabled := (iterations.foldl iterate enabled.2).disable
    disabled.1 = 0 → disabled.2.capture = state.capture)


theorem disable_returns (state : RawRx) :
    state.disable.1 = 0 ∧ state.disable.2.radio = state.radio := by
  unfold disable
  split_ifs <;> exact ⟨rfl, rfl⟩

theorem iterations_radio (state : RawRx) (iterations : List RxIteration) :
    (iterations.foldl iterate state).radio = state.radio := by
  induction iterations generalizing state with
  | nil => rfl
  | cons iteration iterations induction =>
      exact (induction _).trans (iterate_keeps state iteration).2

/-- Nothing behind `enable` touches the radio. -/
theorem leavesRadio_iff_capture (state : RawRx) (iface : Option Iface)
    (channel : UInt32) (calls : EnableCalls) :
    state.LeavesRadio iface channel calls ↔
      (state.enable iface channel calls).2.capture = state.capture := by
  unfold LeavesRadio
  dsimp only
  generalize state.enable iface channel calls = enabled
  have later (iterations : List RxIteration) :
      (iterations.foldl iterate enabled.2).disable.2.capture =
        enabled.2.capture := by
    unfold capture
    rw [(disable_returns _).2, iterations_radio]
  constructor
  · rintro ⟨failing, succeeding⟩
    by_cases zero : enabled.1 = 0
    · have same := succeeding zero [] (disable_returns _).1
      rwa [later] at same
    · exact failing zero
  · intro kept
    refine ⟨fun _ => kept, fun _ iterations _ => ?_⟩
    rw [later]
    exact kept

theorem capture_enable_eq_iff (state : RawRx) {iface : Iface}
    (wifi : iface.isWifi = true) (channel : UInt32) (calls : EnableCalls) :
    (state.enable (some iface) channel calls).2.capture = state.capture ↔
      (state.sockfd < 0 → state.ComesUp iface.index calls →
        calls.setMode = 0 →
        (state.radio iface.index).mode = monitorMode ∧
          (calls.txInjection = 0 → (channel ≠ 0 → calls.setChannel = 0) →
            calls.setPacketFilter = 0 →
            (state.radio iface.index).filter = packetFilterAll)) := by
  by_cases closed : state.sockfd < 0
  · obtain ⟨entering, staying⟩ :=
      @capture_enable channel calls state iface wifi closed
    by_cases comes : state.ComesUp iface.index calls
    · rw [entering comes, capture_enterMonitor]
      by_cases set : calls.setMode = 0
      · rw [if_pos set, Function.update_eq_iff]
        constructor
        · rintro ⟨same, -⟩ _ _ _
          obtain ⟨mode, filter⟩ := Prod.mk.inj same
          refine ⟨mode.symm, fun injected tuned filtered => ?_⟩
          rw [if_pos ⟨injected, tuned, filtered⟩] at filter
          exact filter.symm
        · intro kept
          obtain ⟨mode, filter⟩ := kept closed comes set
          refine ⟨Prod.ext mode.symm ?_, fun _ _ => rfl⟩
          dsimp only
          split_ifs with done
          · exact (filter done.1 done.2.1 done.2.2).symm
          · rfl
      · simp [set]
    · rw [staying comes]
      simp [comes]
  · have already : state.enable (some iface) channel calls = (0, state) := by
      unfold enable
      simp [wifi, Int.not_lt.mp closed]
    rw [already]
    simp [closed]

/-- Raw capture leaves the radio as it found it just when it does not get as
far as monitor mode, or finds the radio in that mode and, where it gets as far
as the packet filter, finds that filter. -/
theorem leavesRadio_iff (state : RawRx) (iface : Option Iface)
    (channel : UInt32) (calls : EnableCalls) :
    state.LeavesRadio iface channel calls ↔
      ∀ found, iface = some found → found.isWifi = true →
        state.sockfd < 0 → state.ComesUp found.index calls →
        calls.setMode = 0 →
        (state.radio found.index).mode = monitorMode ∧
          (calls.txInjection = 0 → (channel ≠ 0 → calls.setChannel = 0) →
            calls.setPacketFilter = 0 →
            (state.radio found.index).filter = packetFilterAll) := by
  rw [leavesRadio_iff_capture]
  by_cases wifi : ∃ found, iface = some found ∧ found.isWifi = true
  · obtain ⟨found, rfl, isWifi⟩ := wifi
    rw [capture_enable_eq_iff state isWifi]
    constructor
    · intro kept other same _
      cases same
      exact kept
    · intro kept
      exact kept found rfl isWifi
  · rw [enable_of_not_wifi state fun found same isWifi =>
      wifi ⟨found, same, isWifi⟩]
    refine iff_of_true rfl fun found same isWifi => ?_
    exact absurd ⟨found, same, isWifi⟩ wifi

/-- A station is in monitor mode after a capture. -/
theorem not_leavesRadio_station :
    ¬(initial stations).LeavesRadio (some { index := 1, isWifi := true }) 6
      succeeding := by
  rw [leavesRadio_iff_capture]
  intro kept
  exact absurd (congrFun kept 1) (by decide)

end RawRx

end Wifi

end SerialLink
