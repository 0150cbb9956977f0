import SerialLink.Wifi.Operations

/-!
# The interface status that the host reads

`handle_get_iface_status_request` translates the status of the driver into the
schema, and `virt_wifi_iface_status` translates it back.  The two translations
know different parts of the enumerations: the states of a connection that is
being made come back as a disconnection, and the modes beyond an access point
as that of a station.  `Agrees` says when a status has come through unchanged.
-/

namespace SerialLink

namespace Wifi

/-- The state of the driver that the host's stands for. -/
def IfaceState.toDevice : IfaceState → DeviceIfaceState
  | .disconnected => .disconnected
  | .interfaceDisabled => .interfaceDisabled
  | .inactive => .inactive
  | .scanning => .scanning
  | .completed => .completed

/-- The mode of the driver that the host's stands for; `WIFI_MODE_INFRA`
is 0. -/
def IfaceMode.toDevice : IfaceMode → DeviceMode
  | .infra => .other 0
  | .ap => .ap

/-- The host has read what the driver told. -/
structure Agrees (told : DeviceStatus) (read : IfaceStatus) : Prop where
  state : read.state.toDevice = told.state
  ifaceMode : read.ifaceMode.toDevice = told.ifaceMode
  security : read.security = told.security
  mfp : read.mfp = told.mfp
  channel : read.channel = told.channel
  rssi : read.rssi = told.rssi
  ssid : read.ssid = told.ssid
  bssid : read.bssid = told.bssid

/-- No connection is being made. -/
def DeviceIfaceState.Settled (state : DeviceIfaceState) : Prop :=
  state = .disconnected ∨ state = .interfaceDisabled ∨ state = .inactive ∨
    state = .scanning ∨ state = .completed

/-- The types of security that the schema knows by their own name. -/
def SecurityType.Distinct : SecurityType → Prop
  | .none | .psk | .pskSha256 | .sae | .wapi | .eap | .wep => True
  | .saeH2e | .saeAuto | .wpaPsk | .wpaAutoPersonal | .other _ => False

/-- A status that comes through unchanged. -/
structure DeviceStatus.Representable (status : DeviceStatus) : Prop where
  state : status.state.Settled
  ifaceMode : status.ifaceMode = .ap ∨ status.ifaceMode = .other 0
  security : status.security.Distinct
  mfp : ∀ code, status.mfp ≠ .other code
  channel : status.channel < 256
  ssid : status.ssid.length ≤ ssidMaxLen
  bssid : status.state = .completed ∨ status.ifaceMode = .ap ∨
    status.bssid = Vector.replicate 6 0

section Fields

theorem state_read_iff (state : DeviceIfaceState) :
    (protoToZephyrState (zephyrToProtoState state)).toDevice = state ↔
      state.Settled := by
  cases state <;>
    simp [zephyrToProtoState, protoToZephyrState, IfaceState.toDevice,
      DeviceIfaceState.Settled]

theorem mode_read_iff (mode : DeviceMode) :
    (protoToZephyrMode (zephyrToProtoMode mode)).toDevice = mode ↔
      mode = .ap ∨ mode = .other 0 := by
  cases mode with
  | other code =>
      simp [zephyrToProtoMode, protoToZephyrMode, IfaceMode.toDevice, eq_comm]
  | ap | mesh | p2pGo =>
      simp [zephyrToProtoMode, protoToZephyrMode, IfaceMode.toDevice]

theorem security_read_iff (security : SecurityType) :
    protoToZephyrSecurity (zephyrToProtoSecurity security) = security ↔
      security.Distinct := by
  cases security <;>
    simp [zephyrToProtoSecurity, protoToZephyrSecurity, SecurityType.Distinct]

theorem mfp_read_iff (mfp : MfpOptions) :
    protoToZephyrMfp (zephyrToProtoMfp mfp) = mfp ↔
      ∀ code, mfp ≠ .other code := by
  cases mfp with
  | other code => simp [zephyrToProtoMfp, protoToZephyrMfp]
  | disable | optional | required => simp [zephyrToProtoMfp, protoToZephyrMfp]

theorem ssid_read (told : DeviceStatus) (status : IfaceStatus) :
    (status.fill told.toProto).ssid =
      if told.ssid.length ≤ ssidMaxLen then told.ssid else [] := by
  by_cases fits : told.ssid.length ≤ ssidMaxLen
  · simp [IfaceStatus.fill, DeviceStatus.toProto, fits]
  · simp [IfaceStatus.fill, DeviceStatus.toProto, fits]

theorem bssid_read_iff (told : DeviceStatus) (status : IfaceStatus)
    (settled : told.state.Settled) :
    (status.fill told.toProto).bssid = told.bssid ↔
      told.state = .completed ∨ told.ifaceMode = .ap ∨
        told.bssid = Vector.replicate 6 0 := by
  have unassociated : told.state ≠ .associated := by
    intro associated
    rw [associated] at settled
    simp [DeviceIfaceState.Settled] at settled
  simp only [IfaceStatus.fill, DeviceStatus.toProto, unassociated, false_or]
  by_cases meaningful : told.state = .completed ∨ told.ifaceMode = .ap
  · rw [if_pos meaningful]
    rcases meaningful with completed | ap
    · exact iff_of_true rfl (.inl completed)
    · exact iff_of_true rfl (.inr (.inl ap))
  · rw [if_neg meaningful, eq_comm]
    obtain ⟨incomplete, station⟩ := not_or.mp meaningful
    simp only [incomplete, station, false_or]

/-- A status comes through unchanged exactly if it is representable. -/
theorem agrees_fill_iff (told : DeviceStatus) (status : IfaceStatus) :
    Agrees told (status.fill told.toProto) ↔ told.Representable := by
  constructor
  · intro agrees
    have state := (state_read_iff told.state).mp agrees.state
    exact
      { state
        ifaceMode := (mode_read_iff told.ifaceMode).mp agrees.ifaceMode
        security := (security_read_iff told.security).mp agrees.security
        mfp := (mfp_read_iff told.mfp).mp agrees.mfp
        channel := by
          have channel : told.channel % 256 = told.channel := agrees.channel
          omega
        ssid := by
          apply Classical.byContradiction
          intro exceeds
          have ssid := agrees.ssid
          rw [ssid_read, if_neg exceeds] at ssid
          rw [← ssid] at exceeds
          exact exceeds (Nat.zero_le _)
        bssid := (bssid_read_iff told status state).mp agrees.bssid }
  · intro representable
    exact
      { state := (state_read_iff told.state).mpr representable.state
        ifaceMode :=
          (mode_read_iff told.ifaceMode).mpr representable.ifaceMode
        security := (security_read_iff told.security).mpr representable.security
        mfp := (mfp_read_iff told.mfp).mpr representable.mfp
        channel := Nat.mod_eq_of_lt representable.channel
        rssi := rfl
        ssid := by rw [ssid_read, if_pos representable.ssid]
        bssid := (bssid_read_iff told status representable.state).mpr
          representable.bssid }

end Fields

/-- The driver of the device has told its status. -/
def Told (radio : Radio) : Prop :=
  ∃ iface, resolveWifiIface radio virtWifiIfaceIndex = some iface ∧
    radio.netMgmt (.ifaceStatus iface) = 0

/-- The response holds the status that was told, or an error. -/
theorem serve_ifaceStatus (radio : Radio) :
    (Told radio ∧ (serve radio ifaceStatusRequest).result =
        .getIfaceStatusResp (some radio.status.toProto)) ∨
      (¬Told radio ∧ ∃ error, error.success = false ∧
        error.errorCode ≠ 0 ∧
          (serve radio ifaceStatusRequest).result = .statusResp error) := by
  have served : (serve radio ifaceStatusRequest).result =
      ((handleGetIfaceStatusRequest radio virtWifiIfaceIndex).select
        .getIfaceStatusResp).result := rfl
  rw [served]
  unfold handleGetIfaceStatusRequest retrieve
  cases found : resolveWifiIface radio virtWifiIfaceIndex with
  | none =>
      refine .inr ⟨?_, _, rfl, by decide, rfl⟩
      rintro ⟨iface, resolved, -⟩
      rw [found] at resolved
      cases resolved
  | some iface =>
      by_cases zero : radio.netMgmt (.ifaceStatus iface) = 0
      · exact .inl ⟨⟨iface, found, zero⟩, by simp [Served.select, zero]⟩
      · refine .inr ⟨?_,
          { success := false
            errorCode := radio.netMgmt (.ifaceStatus iface)
            errorMessage := "Get IfaceStatus failed" }, rfl, zero,
          by simp [Served.select, zero]⟩
        rintro ⟨other, resolved, told⟩
        rw [found] at resolved
        cases resolved
        exact zero told

/-- The status of a station that is connected. -/
def connectedStatus : DeviceStatus where
  state := .completed
  ifaceMode := .other 0
  ssid := [0x6C, 0x61, 0x62]
  bssid := stationMac
  channel := 6
  security := .psk
  mfp := .optional
  rssi := -40

def connectedRadio : Radio :=
  { obligingRadio with status := connectedStatus }

/-- The bytes of the request for this status and of the response. -/
def statusReadCodec : MgmtCodec :=
  .single ifaceStatusRequest [0x08, 0x0B, 0x62, 0x02, 0x08, 0x01]
    (respond connectedRadio ifaceStatusRequest)
    [0x08, 0x0B, 0x32, 0x20, 0x0A, 0x1E, 0x08, 0x07, 0x1A, 0x03, 0x6C, 0x61,
      0x62, 0x22, 0x06, 0x02, 0x00, 0x00, 0x00, 0x00, 0x01, 0x28, 0x06, 0x30,
      0x03, 0x40, 0xD8, 0xFF, 0xFF, 0xFF, 0xFF, 0xFF, 0xFF, 0xFF, 0xFF, 0x01]

/-- `struct wifi_iface_status` before the call. -/
def clearedStatus : IfaceStatus where
  state := .disconnected
  ifaceMode := .infra
  security := .none
  mfp := .disable
  channel := 0
  rssi := 0
  ssid := []
  bssid := Vector.replicate 6 0

end Wifi

end SerialLink
