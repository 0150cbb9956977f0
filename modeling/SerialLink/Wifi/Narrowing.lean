import Mathlib.Tactic.ByContra
import SerialLink.Wifi.PowerSave

/-!
# Numbers of 32 bits on their way to the driver

The schema has numbers of 32 bits where the driver has 8 or 16, and the
timeout is rounded up to seconds by an addition that may wrap around.  Only
the channel of an access point is checked before it is narrowed.
-/

namespace SerialLink

namespace Wifi

/-- The driver gets the same channel; 0 is any channel. -/
def SameChannel (channel : Nat) (passed : UInt8) : Prop :=
  passed.toNat = if channel = 0 then channelAny.toNat else channel

/-- Milliseconds divided by 1000 and rounded up. -/
def RoundsUp (milliseconds seconds : Nat) : Prop :=
  milliseconds ≤ seconds * 1000 ∧ seconds * 1000 < milliseconds + 1000

/-- A request is answered with an error before any call, or makes the one call
with parameters that `same` allows. -/
def Served.Passes (served : Served StatusResponse)
    (request : Nat → ConnectReqParams → NetRequest)
    (same : ConnectReqParams → Prop) : Prop :=
  (served.calls = [] ∧ served.result.success = false) ∨
  ∃ iface params ret, served.calls = [(request iface params, ret)] ∧
    same params

/-- `handle_connect_request` keeps the numbers of the request. -/
def ConnectKept (radio : Radio) (request : ConnectRequest) : Prop :=
  (handleConnectRequest radio request).Passes .connect fun params =>
    SameChannel request.channel params.channel ∧
      RoundsUp request.timeoutMs params.timeout

/-- `handle_ap_enable_request` keeps the channel. -/
def ApEnableKept (radio : Radio) (ifaceIndex : Nat)
    (params : ApEnableParams) : Prop :=
  (handleApEnableRequest radio ifaceIndex (some params)).Passes .apEnable
    fun passed => SameChannel params.channel passed.channel

/-- `handle_set_ps_config_request` keeps the listen interval; a success has
passed it on. -/
def ListenIntervalKept (board : Board) (ifaceIndex : Nat)
    (settings : PsSettings) (type : ProtoPowerSaveType) : Prop :=
  let served := handleSetPsConfigRequest board ifaceIndex
    (some { psSettings := some settings, type })
  (∀ call ∈ served.calls, call.1.type = .listenInterval →
    call.1.listenInterval.toNat = settings.listenIntervalBeacons.toNat) ∧
  (served.result.success = true → settings.listenIntervalBeacons ≠ 0 →
    ∃ call ∈ served.calls, call.1.type = .listenInterval)

theorem sameChannel_channelOfProto_iff (channel : Nat) :
    SameChannel channel (channelOfProto channel) ↔ channel < 256 := by
  unfold SameChannel channelOfProto
  by_cases zero : channel = 0
  · simp [zero]
  · simp only [zero, if_false, UInt8.toNat_ofNat']
    omega

theorem roundsUp_iff (milliseconds : Nat) :
    RoundsUp milliseconds ((milliseconds + 999) % 2 ^ 32 / 1000) ↔
      milliseconds + 999 < 2 ^ 32 := by
  unfold RoundsUp
  omega

theorem Served.passes_report {radio : Radio} {iface : Nat}
    {params : ConnectReqParams} {failed done : String}
    {request : Nat → ConnectReqParams → NetRequest}
    {same : ConnectReqParams → Prop}
    (injective : ∀ other others, request iface params = request other others →
      others = params) :
    (report radio (request iface params) failed done).Passes request same ↔
      same params := by
  constructor
  · rintro (⟨none, -⟩ | ⟨other, others, ret, calls, kept⟩)
    · cases none
    · obtain ⟨call, -⟩ := List.cons.inj calls
      rw [injective other others (Prod.mk.inj call).1] at kept
      exact kept
  · intro kept
    exact .inr ⟨iface, params, _, rfl, kept⟩

/-- A request for a connection that passes its checks keeps its numbers just
when its channel has 8 bits and the rounding does not wrap around. -/
theorem connectKept_iff (radio : Radio) (request : ConnectRequest) :
    ConnectKept radio request ↔
      ((resolveWifiIface radio request.ifaceIndex).isSome →
        request.Admissible →
        request.channel < 256 ∧ request.timeoutMs + 999 < 2 ^ 32) := by
  have ends := handleConnectRequest_ends radio request
  unfold ConnectKept
  generalize handleConnectRequest radio request = served at ends ⊢
  cases ends with
  | refused errorCode errorMessage _ why =>
      apply iff_of_true
      · exact .inl ⟨rfl, rfl⟩
      · intro found admissible
        rcases why with missing | bad
        · rw [missing] at found
          cases found
        · exact absurd admissible bad
  | reported iface failed done found admissible =>
      rw [Served.passes_report (by
        intro other others same
        injection same with _ params
        exact params.symm)]
      rw [← sameChannel_channelOfProto_iff, ← roundsUp_iff]
      exact ⟨fun kept _ _ => kept,
        fun kept => kept (by simp [found]) admissible⟩

theorem apEnableKept (radio : Radio) (ifaceIndex : Nat)
    (params : ApEnableParams) : ApEnableKept radio ifaceIndex params := by
  have ends := handleApEnableRequest_ends radio ifaceIndex params
  unfold ApEnableKept
  generalize handleApEnableRequest radio ifaceIndex (some params) = served
    at ends ⊢
  cases ends with
  | refused errorCode errorMessage => exact .inl ⟨rfl, rfl⟩
  | reported iface failed done found admissible =>
      refine .inr ⟨iface, params.toParams, _, rfl, ?_⟩
      apply (sameChannel_channelOfProto_iff params.channel).mpr
      have checked := admissible.2.2.2.2
      omega

section ListenInterval

variable {settings : PsSettings} {type : ProtoPowerSaveType}

/-- The call for the listen interval is the only one of its type. -/
theorem PsSettings.eq_listenIntervalParams {params : PsParams}
    (member : params ∈ settings.psCalls type)
    (selected : params.type = .listenInterval) :
    settings.listenIntervalBeacons > 0 ∧
      params = settings.listenIntervalParams := by
  have state : settings.stateParams.type ≠ .listenInterval := nofun
  have mode : (settings.modeParams type).type ≠ .listenInterval := nofun
  have timeout : settings.timeoutMs > 0 →
      settings.timeoutParams.type ≠ .listenInterval := by
    intro given
    simp [timeoutParams, given]
  simp only [psCalls, List.mem_cons, List.mem_append] at member
  rcases member with rfl | listen | last | rfl | none
  · exact absurd selected state
  · split at listen
    · rename_i given
      exact ⟨given, List.mem_singleton.mp listen⟩
    · exact absurd listen List.not_mem_nil
  · split at last
    · rename_i given
      rw [List.mem_singleton.mp last] at selected
      exact absurd selected (timeout given)
    · exact absurd last List.not_mem_nil
  · exact absurd selected mode
  · exact absurd none List.not_mem_nil

/-- Where the request has a listen interval, the call for it follows the call
for the state. -/
theorem PsSettings.mem_attempt_listenInterval {netMgmtPs : PsParams → Int}
    (given : settings.listenIntervalBeacons > 0)
    (accepted : netMgmtPs settings.stateParams = 0) :
    (settings.listenIntervalParams,
        netMgmtPs settings.listenIntervalParams) ∈
      Attempt.attempt netMgmtPs (settings.psCalls type) := by
  by_cases done : netMgmtPs settings.listenIntervalParams = 0 <;>
    simp [psCalls, given, Attempt.attempt, accepted, done]

theorem PsSettings.listenIntervalParams_kept_iff
    (given : settings.listenIntervalBeacons > 0) :
    settings.listenIntervalParams.listenInterval.toNat =
        settings.listenIntervalBeacons.toNat ↔
      settings.listenIntervalBeacons.toNat < 65536 := by
  simp only [listenIntervalParams, given, if_true, UInt32.toNat_toUInt16]
  omega

/-- A listen interval is kept just when it has 16 bits or its call is not
made. -/
theorem listenIntervalKept_iff (board : Board) (ifaceIndex : Nat)
    (settings : PsSettings) (type : ProtoPowerSaveType) :
    ListenIntervalKept board ifaceIndex settings type ↔
      ∀ iface, resolveWifiIface board.radio ifaceIndex = some iface →
        board.netMgmtPs iface settings.stateParams = 0 →
        settings.listenIntervalBeacons.toNat < 65536 := by
  unfold ListenIntervalKept
  dsimp only
  cases found : resolveWifiIface board.radio ifaceIndex with
  | none =>
      have refused : handleSetPsConfigRequest board ifaceIndex
          (some { psSettings := some settings, type }) =
          { calls := []
            result := (refuse (-enodev)
              "Interface not found for PS config").result } := by
        unfold handleSetPsConfigRequest
        rw [found]
      rw [refused]
      apply iff_of_true
      · exact ⟨fun call member => absurd member List.not_mem_nil,
          fun success => nomatch success⟩
      · intro iface missing
        cases missing
  | some iface =>
      have makes := handleSetPsConfigRequest_makes found settings type
      rw [makes.calls]
      constructor
      · rintro ⟨kept, -⟩ other same accepted
        cases same
        by_cases given : settings.listenIntervalBeacons > 0
        · apply (PsSettings.listenIntervalParams_kept_iff given).mp
          apply kept _ (PsSettings.mem_attempt_listenInterval given accepted)
          simp [PsSettings.listenIntervalParams, given]
        · have zero := UInt32.not_lt.mp given
          rw [UInt32.le_iff_toNat_le] at zero
          exact Nat.lt_of_le_of_lt zero (by decide)
      · intro short
        constructor
        · rintro ⟨params, ret⟩ made selected
          have other : params ≠ settings.stateParams := by
            rintro rfl
            cases selected
          have accepted := Attempt.first_done_of_mem_attempt made other
          obtain ⟨given, rfl⟩ := PsSettings.eq_listenIntervalParams
            (Attempt.mem_of_mem_attempt made) selected
          exact (PsSettings.listenIntervalParams_kept_iff given).mpr
            (short iface rfl accepted)
        · intro success nonzero
          have accepted := makes.success.mp success settings.stateParams
            List.mem_cons_self
          have given := UInt32.pos_iff_ne_zero.mpr nonzero
          refine ⟨_, PsSettings.mem_attempt_listenInterval given accepted, ?_⟩
          simp [PsSettings.listenIntervalParams, given]

end ListenInterval

/-- The numbers that a host supplies are passed on unchanged, or their
requests refused. -/
def NumbersKept (board : Board) (connect : ConnectRequest)
    (apIndex : Nat) (ap : ApEnableParams) (psIndex : Nat)
    (settings : PsSettings) (type : ProtoPowerSaveType) : Prop :=
  ConnectKept board.radio connect ∧ ApEnableKept board.radio apIndex ap ∧
    ListenIntervalKept board psIndex settings type

/-- The numbers are kept just when a request for a connection that is not
refused has a channel of 8 bits and a timeout that can be rounded up, and a
listen interval that follows an accepted state has 16 bits. -/
theorem numbersKept_iff (board : Board) (connect : ConnectRequest)
    (apIndex : Nat) (ap : ApEnableParams) (psIndex : Nat)
    (settings : PsSettings) (type : ProtoPowerSaveType) :
    NumbersKept board connect apIndex ap psIndex settings type ↔
      ((resolveWifiIface board.radio connect.ifaceIndex).isSome →
        connect.Admissible →
        connect.channel < 256 ∧ connect.timeoutMs + 999 < 2 ^ 32) ∧
      (∀ iface, resolveWifiIface board.radio psIndex = some iface →
        board.netMgmtPs iface settings.stateParams = 0 →
        settings.listenIntervalBeacons.toNat < 65536) := by
  unfold NumbersKept
  rw [connectKept_iff, listenIntervalKept_iff]
  constructor
  · rintro ⟨connection, -, listen⟩
    exact ⟨connection, listen⟩
  · rintro ⟨connection, listen⟩
    exact ⟨connection, apEnableKept board.radio apIndex ap, listen⟩

/-- An open network on channel 257 is looked for on channel 1. -/
theorem not_numbersKept_257 :
    ¬NumbersKept modelessBoard
      { ConnectRequest.initZero with
        ifaceIndex := 1, ssid := [0x61], securityType := .none
        channel := 257 }
      1 .initZero 1
      { enabled := .disable, listenIntervalBeacons := 0, timeoutMs := 0 }
      .none := by
  rintro ⟨connection, -⟩
  obtain ⟨channel, -⟩ := (connectKept_iff _ _).mp connection (by decide)
    (by unfold ConnectRequest.Admissible; decide)
  exact absurd channel (by decide)

end Wifi

end SerialLink
