import Mathlib.Tactic.SplitIfs
import SerialLink.Library.Attempt
import SerialLink.Wifi.Commands

/-!
# Power-save configuration

The driver keeps a power-save configuration and one call sets one parameter of
it, so that `SET_PS_CONFIG` is a list of calls which ends at the first that
fails.  Nothing takes back the calls before that one, and the listen interval
is narrowed to 16 bits on its way.
-/

namespace SerialLink

namespace Wifi

/-- The power-save configuration of a driver. -/
structure PsDriver where
  enabled : Bool
  listenInterval : UInt16
  timeoutMs : UInt32
  wmm : Bool
  deriving DecidableEq, Repr

/-- `NET_REQUEST_WIFI_PS` that succeeds: one parameter, selected by `type`. -/
def PsDriver.set (driver : PsDriver) (params : PsParams) : PsDriver :=
  match params.type with
  | .state => { driver with enabled := params.enabled }
  | .listenInterval => { driver with listenInterval := params.listenInterval }
  | .mode => { driver with wmm := params.wmm }
  | .timeout => { driver with timeoutMs := params.timeoutMs }

/-- The selected parameter has the value of the call. -/
def PsDriver.Has (driver : PsDriver) (params : PsParams) : Prop :=
  match params.type with
  | .state => driver.enabled = params.enabled
  | .listenInterval => driver.listenInterval = params.listenInterval
  | .mode => driver.wmm = params.wmm
  | .timeout => driver.timeoutMs = params.timeoutMs

/-- Each call sets the parameter of its type and no other. -/
theorem PsDriver.cells :
    Attempt.Cells PsDriver.set PsParams.type PsDriver.Has where
  sets := by
    intro driver params
    cases selected : params.type <;> simp [Has, set, selected]
  keeps := by
    intro driver params other apart
    cases selected : params.type <;> cases chosen : other.type <;>
      simp_all [Has, set]
  idle := by
    intro driver params had
    cases selected : params.type <;>
      simp only [Has, selected] at had <;> simp [set, selected, ← had]

/-- The driver after the calls of a request. -/
def PsServed.driver (served : PsServed) (initial : PsDriver) : PsDriver :=
  Attempt.settle PsDriver.set initial served.calls

/-- The driver has what a request asks for: its state and mode, and its listen
interval and timeout where they are not 0. -/
structure PsDriver.Meets (driver : PsDriver) (settings : PsSettings)
    (type : ProtoPowerSaveType) (initial : PsDriver) : Prop where
  state : driver.enabled = decide (settings.enabled = .enable)
  mode : driver.wmm = decide (type = .wmm)
  listenInterval : driver.listenInterval.toNat =
    if settings.listenIntervalBeacons ≠ 0 then
      settings.listenIntervalBeacons.toNat
    else initial.listenInterval.toNat
  timeout : driver.timeoutMs =
    if settings.timeoutMs ≠ 0 then settings.timeoutMs else initial.timeoutMs

/-- All or nothing: a failure leaves the driver as it was, and a success
leaves it as requested. -/
def PsAllOrNothing (board : Board) (ifaceIndex : Nat)
    (config : Option PsConfigRequest) (initial : PsDriver) : Prop :=
  let served := handleSetPsConfigRequest board ifaceIndex config
  (served.result.success = false → served.driver initial = initial) ∧
  (served.result.success = true → ∃ settings type,
    config = some { psSettings := some settings, type } ∧
      (served.driver initial).Meets settings type initial)

namespace PsSettings

variable (settings : PsSettings) (type : ProtoPowerSaveType)

/-- `params` when the listen interval has been written to it. -/
def listenIntervalParams : PsParams :=
  if settings.listenIntervalBeacons > 0 then
    { settings.stateParams with
      type := .listenInterval
      listenInterval := settings.listenIntervalBeacons.toUInt16 }
  else settings.stateParams

/-- `params` when the timeout has been written to it. -/
def timeoutParams : PsParams :=
  if settings.timeoutMs > 0 then
    { settings.listenIntervalParams with
      type := .timeout
      timeoutMs := settings.timeoutMs }
  else settings.listenIntervalParams

/-- `params` of the last call. -/
def modeParams : PsParams :=
  { settings.timeoutParams with type := .mode, wmm := decide (type = .wmm) }

/-- The calls of a request, in their order. -/
def psCalls : List PsParams :=
  settings.stateParams ::
    ((if settings.listenIntervalBeacons > 0 then
        [settings.listenIntervalParams] else []) ++
      ((if settings.timeoutMs > 0 then [settings.timeoutParams] else []) ++
        [settings.modeParams type]))

end PsSettings

/-- A request made the calls of a list up to the first that fails, and is a
success if none did. -/
structure PsServed.Makes (netMgmtPs : PsParams → Int)
    (items : List PsParams) (served : PsServed) : Prop where
  calls : served.calls = Attempt.attempt netMgmtPs items
  success : served.result.success = true ↔
    ∀ params ∈ items, netMgmtPs params = 0

section Calls

variable {netMgmtPs : PsParams → Int}

theorem psCall_makes {params : PsParams} {failed : String}
    {items : List PsParams} {next : PsServed}
    (makes : next.Makes netMgmtPs items) :
    (psCall netMgmtPs params failed next).Makes netMgmtPs
      (params :: items) := by
  unfold psCall
  split_ifs with refused
  · exact ⟨by simp [Attempt.attempt, refused], by simp [refused]⟩
  · have done : netMgmtPs params = 0 := Decidable.not_not.mp refused
    exact ⟨by simp [Attempt.attempt, done, makes.calls],
      by simp [done, makes.success]⟩

theorem psModeCall_makes (settings : PsSettings)
    (type : ProtoPowerSaveType) :
    (psModeCall netMgmtPs type settings.timeoutParams).Makes netMgmtPs
      [settings.modeParams type] :=
  psCall_makes ⟨rfl, by simp⟩

theorem psTimeoutCall_makes (settings : PsSettings)
    (type : ProtoPowerSaveType) :
    (psTimeoutCall netMgmtPs settings type
      settings.listenIntervalParams).Makes netMgmtPs
      ((if settings.timeoutMs > 0 then [settings.timeoutParams] else []) ++
        [settings.modeParams type]) := by
  have last := @psModeCall_makes netMgmtPs settings type
  unfold psTimeoutCall
  by_cases given : settings.timeoutMs > 0
  · rw [if_pos given, if_pos given]
    simp only [PsSettings.timeoutParams, if_pos given] at last ⊢
    exact psCall_makes last
  · rw [if_neg given, if_neg given]
    simpa only [PsSettings.timeoutParams, if_neg given,
      List.nil_append] using last

theorem psListenIntervalCall_makes (settings : PsSettings)
    (type : ProtoPowerSaveType) :
    (psListenIntervalCall netMgmtPs settings type
      settings.stateParams).Makes netMgmtPs
      ((if settings.listenIntervalBeacons > 0 then
          [settings.listenIntervalParams] else []) ++
        ((if settings.timeoutMs > 0 then [settings.timeoutParams] else []) ++
          [settings.modeParams type])) := by
  have rest := @psTimeoutCall_makes netMgmtPs settings type
  have params : settings.listenIntervalParams =
    if settings.listenIntervalBeacons > 0 then _ else _ := rfl
  unfold psListenIntervalCall
  by_cases given : settings.listenIntervalBeacons > 0
  · rw [if_pos given] at params ⊢
    rw [if_pos given]
    dsimp only
    rw [← params]
    exact psCall_makes rest
  · rw [if_neg given] at params ⊢
    rw [if_neg given, List.nil_append, ← params]
    exact rest

/-- The request of an interface that is found makes the calls of its
settings. -/
theorem handleSetPsConfigRequest_makes {board : Board}
    {ifaceIndex iface : Nat}
    (found : resolveWifiIface board.radio ifaceIndex = some iface)
    (settings : PsSettings) (type : ProtoPowerSaveType) :
    (handleSetPsConfigRequest board ifaceIndex
      (some { psSettings := some settings, type })).Makes
      (board.netMgmtPs iface) (settings.psCalls type) := by
  unfold handleSetPsConfigRequest
  rw [found]
  exact psCall_makes (psListenIntervalCall_makes settings type)

end Calls

theorem PsSettings.psCalls_apart (settings : PsSettings)
    (type : ProtoPowerSaveType) :
    (settings.psCalls type).Pairwise
      fun left right => left.type ≠ right.type := by
  unfold psCalls modeParams timeoutParams listenIntervalParams stateParams
  split_ifs <;> simp

/-- What the driver is after all calls of a request. -/
theorem PsSettings.foldl_psCalls (settings : PsSettings)
    (type : ProtoPowerSaveType) (initial : PsDriver) :
    (settings.psCalls type).foldl PsDriver.set initial =
      { enabled := decide (settings.enabled = .enable)
        listenInterval :=
          if settings.listenIntervalBeacons > 0 then
            settings.listenIntervalBeacons.toUInt16
          else initial.listenInterval
        timeoutMs :=
          if settings.timeoutMs > 0 then settings.timeoutMs
          else initial.timeoutMs
        wmm := decide (type = .wmm) } := by
  unfold psCalls modeParams timeoutParams listenIntervalParams stateParams
  split_ifs <;> rfl

/-- The requested values are met by what all calls of the request leave just
when the listen interval has 16 bits. -/
theorem PsDriver.meets_iff (settings : PsSettings)
    (type : ProtoPowerSaveType) (initial : PsDriver) :
    ((settings.psCalls type).foldl PsDriver.set initial).Meets settings type
        initial ↔
      settings.listenIntervalBeacons.toNat < 65536 := by
  have given (number : UInt32) : number > 0 ↔ number ≠ 0 := by
    rw [← UInt32.toNat_inj.ne, gt_iff_lt, UInt32.lt_iff_toNat_lt]
    exact Nat.pos_iff_ne_zero
  rw [settings.foldl_psCalls]
  simp only [given]
  constructor
  · intro meets
    have narrowed := meets.listenInterval
    by_cases zero : settings.listenIntervalBeacons = 0
    · rw [zero]
      decide
    · simp only [ne_eq, zero, not_false_eq_true, if_true,
        UInt32.toNat_toUInt16] at narrowed
      omega
  · intro short
    refine ⟨rfl, rfl, ?_, rfl⟩
    by_cases zero : settings.listenIntervalBeacons = 0
    · simp [zero]
    · simp only [ne_eq, zero, not_false_eq_true, if_true,
        UInt32.toNat_toUInt16]
      omega

/-- A request of an interface that is found either has all its calls succeed,
with a listen interval of 16 bits, or has set nothing to another value before
the call that fails. -/
def PsUndisturbed (board : Board) (ifaceIndex : Nat)
    (config : Option PsConfigRequest) (initial : PsDriver) : Prop :=
  ∀ iface settings type,
    resolveWifiIface board.radio ifaceIndex = some iface →
    config = some { psSettings := some settings, type } →
    if ∀ params ∈ settings.psCalls type, board.netMgmtPs iface params = 0 then
      settings.listenIntervalBeacons.toNat < 65536
    else
      ∀ params ∈ Attempt.applied (board.netMgmtPs iface)
        (settings.psCalls type), initial.Has params

theorem psAllOrNothing_of_refused {board : Board} {ifaceIndex : Nat}
    {config : Option PsConfigRequest} {errorCode : Int}
    {errorMessage : String} (initial : PsDriver)
    (refused : handleSetPsConfigRequest board ifaceIndex config =
      { calls := [], result := (refuse errorCode errorMessage).result }) :
    PsAllOrNothing board ifaceIndex config initial := by
  unfold PsAllOrNothing
  rw [refused]
  exact ⟨fun _ => rfl, fun success => by cases success⟩

theorem psAllOrNothing_iff_of_found {board : Board} {ifaceIndex iface : Nat}
    (found : resolveWifiIface board.radio ifaceIndex = some iface)
    (settings : PsSettings) (type : ProtoPowerSaveType)
    (initial : PsDriver) :
    PsAllOrNothing board ifaceIndex
        (some { psSettings := some settings, type }) initial ↔
      if ∀ params ∈ settings.psCalls type,
          board.netMgmtPs iface params = 0 then
        settings.listenIntervalBeacons.toNat < 65536
      else
        ∀ params ∈ Attempt.applied (board.netMgmtPs iface)
          (settings.psCalls type), initial.Has params := by
  have makes := handleSetPsConfigRequest_makes found settings type
  have kept : Attempt.settle PsDriver.set initial
        (Attempt.attempt (board.netMgmtPs iface) (settings.psCalls type)) =
      initial ↔ _ :=
    PsDriver.cells.settle_eq_self_iff _ (settings.psCalls_apart type) initial
  unfold PsAllOrNothing PsServed.driver
  dsimp only
  rw [makes.calls]
  split_ifs with done
  · have success := makes.success.mpr done
    rw [← PsDriver.meets_iff settings type initial, Attempt.settle_attempt,
      Attempt.applied_eq_self done, success]
    constructor
    · rintro ⟨-, meets⟩
      obtain ⟨asked, kind, same, met⟩ := meets rfl
      cases same
      exact met
    · intro met
      exact ⟨nofun, fun _ => ⟨settings, type, rfl, met⟩⟩
  · have failure := Bool.eq_false_iff.mpr fun success =>
      done (makes.success.mp success)
    rw [failure, ← kept]
    exact ⟨fun nothing => nothing.1 rfl,
      fun same => ⟨fun _ => same, nofun⟩⟩

/-- `SET_PS_CONFIG` is all or nothing just when no call has changed anything
before one that fails, and no listen interval is narrowed. -/
theorem psAllOrNothing_iff (board : Board) (ifaceIndex : Nat)
    (config : Option PsConfigRequest) (initial : PsDriver) :
    PsAllOrNothing board ifaceIndex config initial ↔
      PsUndisturbed board ifaceIndex config initial := by
  unfold PsUndisturbed
  cases found : resolveWifiIface board.radio ifaceIndex with
  | none =>
      apply iff_of_true
      · apply psAllOrNothing_of_refused initial
        unfold handleSetPsConfigRequest
        rw [found]
      · intro iface settings type missing
        cases missing
  | some iface =>
      rcases config with _ | ⟨_ | settings, type⟩
      · apply iff_of_true
        · apply psAllOrNothing_of_refused initial
          unfold handleSetPsConfigRequest
          rw [found]
        · intro iface settings type _ missing
          cases missing
      · apply iff_of_true
        · apply psAllOrNothing_of_refused initial
          unfold handleSetPsConfigRequest
          rw [found]
        · intro iface settings kind _ missing
          cases missing
      · rw [psAllOrNothing_iff_of_found found settings type initial]
        constructor
        · intro undisturbed other asked kind same request
          cases same
          cases request
          exact undisturbed
        · intro undisturbed
          exact undisturbed iface settings type rfl rfl

/-- A board whose driver accepts every power-save parameter but the mode. -/
def modelessBoard : Board where
  radio := obligingRadio
  firmware := none
  numChannels := 0
  chanBuf := fun _ =>
    { centerFrequency := 0, maxPower := 0, supported := false
      passiveOnly := false, dfs := false }
  netMgmtPs := fun _ params => if params.type = .mode then -enotsup else 0
  wifiDataRawFrameTx := fun _ _ => 0
  wifiDataRawFrameRxEnable := fun _ _ => 0
  wifiDataRawFrameRxDisable := fun _ => 0
  wifiDataRawRxDiag := .unset

/-- Power saving is on after a request that failed. -/
theorem not_psAllOrNothing_modeless :
    let settings : PsSettings :=
      { enabled := .enable, listenIntervalBeacons := 0, timeoutMs := 0 }
    let initial : PsDriver :=
      { enabled := false, listenInterval := 0, timeoutMs := 0, wmm := false }
    ¬PsAllOrNothing modelessBoard 1
      (some { psSettings := some settings, type := .wmm }) initial := by
  intro settings initial allOrNothing
  have unchanged := allOrNothing.1 (by decide)
  exact absurd (congrArg PsDriver.enabled unchanged) (by decide)

end Wifi

end SerialLink
