import Mathlib.Algebra.Group.Nat.Defs
import Mathlib.Tactic.SplitIfs
import Mathlib.Tactic.ByContra
import SerialLink.Wifi.Requests

/-!
# The request handlers of the device

`process_wifi_mgmt_request` and the handlers it calls for the requests of the
virtual driver.  A `Radio` is what the network stack answers while one request
is handled.  The handlers return the `net_mgmt` calls they made, with their
results, besides the response.

The data response and the status response of a GET handler are members of one
union.  A handler fills in one of them: the `has_` flag that selects the
payload shares its byte with `success`, which is false in every status that
these handlers write.
-/

namespace SerialLink

namespace Wifi

/-- `MAX_PSK_LEN_CB` -/
def maxPskLen : Nat := 64

/-- `MAX_SAE_PASSWORD_LEN_CB` -/
def maxSaePasswordLen : Nat := 128

/-- `MAX_AP_PSK_LEN` -/
def maxApPskLen : Nat := 64

/-- `WIFI_MGMT_SCAN_MAX_BSS_CNT` and `WIFI_FREQ_BAND_2_4_GHZ`, the values
`handle_scan_request` sets in any case. -/
structure ScanDefaults where
  maxBssCnt : Nat
  bands : Nat

/-- `enum wifi_iface_state` on the device. -/
inductive DeviceIfaceState where
  | disconnected
  | interfaceDisabled
  | inactive
  | scanning
  | authenticating
  | associating
  | associated
  | fourWayHandshake
  | groupHandshake
  | completed
  | other (code : Nat)
  deriving DecidableEq, Repr

/-- `zephyr_to_proto_state` -/
def zephyrToProtoState : DeviceIfaceState → ProtoIfaceState
  | .inactive => .inactive
  | .scanning => .scanning
  | .authenticating => .other 2
  | .associating => .other 3
  | .associated => .other 4
  | .fourWayHandshake => .other 5
  | .groupHandshake => .other 6
  | .completed => .connected
  | .interfaceDisabled => .interfaceDisabled
  | .disconnected => .disconnected
  | .other _ => .disconnected

/-- `enum wifi_iface_mode` on the device. -/
inductive DeviceMode where
  | ap
  | mesh
  | p2pGo
  | other (code : Nat)
  deriving DecidableEq, Repr

/-- `zephyr_to_proto_mode` -/
def zephyrToProtoMode : DeviceMode → ProtoMode
  | .ap => .ap
  | .mesh => .other 2
  | .p2pGo => .other 3
  | .other _ => .infra

/-- The fields of `struct wifi_iface_status` that reach the host. -/
structure DeviceStatus where
  state : DeviceIfaceState
  ifaceMode : DeviceMode
  ssid : List UInt8
  bssid : Mac
  channel : Nat
  security : SecurityType
  mfp : MfpOptions
  rssi : Int
  deriving DecidableEq, Repr

/-- The calls of `net_mgmt`; an interface is told by its index. -/
inductive NetRequest where
  | connect (iface : Nat) (params : ConnectReqParams)
  | disconnect (iface : Nat)
  | scan (iface : Nat) (params : Option ScanParams)
  | apEnable (iface : Nat) (params : ConnectReqParams)
  | apDisable (iface : Nat)
  | version (iface : Option Nat)
  | psConfig (iface : Nat)
  | regDomainSet (iface : Nat) (regDomain : RegDomain)
  | regDomainGet (iface : Nat)
  | ifaceStatus (iface : Nat)
  deriving DecidableEq, Repr

/-- The network stack: its interfaces in the order of their indices from 1 on
(true for a Wi-Fi interface), what `net_mgmt` returns, and the data of the
calls that retrieve some. -/
structure Radio where
  interfaces : List Bool
  defaultIface : Option Nat
  netMgmt : NetRequest → Int
  scanDefaults : ScanDefaults
  /-- `fw_version` -/
  fwVersion : Option String
  psConfig : PowerSaveConfig
  regDomain : RegDomain
  status : DeviceStatus

/-- What a handler did: the calls of `net_mgmt` with their results, and what
it returns. -/
structure Served (α : Type) where
  calls : List (NetRequest × Int)
  result : α

/-- `resolve_wifi_iface` -/
def resolveWifiIface (radio : Radio) (ifindex : Nat) : Option Nat :=
  if ifindex ≠ 0 then
    if ifindex ≤ radio.interfaces.length then some ifindex else none
  else (radio.interfaces.findIdx? id).map (· + 1)

/-- A request is refused before any call. -/
def refuse (errorCode : Int) (errorMessage : String) :
    Served StatusResponse where
  calls := []
  result := { success := false, errorCode, errorMessage }

/-- The end of the handlers that make one call. -/
def report (radio : Radio) (request : NetRequest) (failed done : String) :
    Served StatusResponse where
  calls := [(request, radio.netMgmt request)]
  result :=
    if radio.netMgmt request ≠ 0 then
      { success := false
        errorCode := radio.netMgmt request
        errorMessage := failed }
    else { success := true, errorCode := 0, errorMessage := done }

/-- `(x == WIFI_CHANNEL_ANY) ? WIFI_CHANNEL_ANY : (uint8_t)x`, from the
schema's constant to the one of Zephyr. -/
def channelOfProto (channel : Nat) : UInt8 :=
  if channel = 0 then channelAny else UInt8.ofNat channel

/-- `struct wifi_connect_req_params params = {0}` -/
def ConnectReqParams.zero : ConnectReqParams where
  ssid := none
  psk := none
  saePassword := none
  eapIdentity := none
  eapPassword := none
  band := .band2Point4GHz
  channel := 0
  security := .none
  mfp := .disable
  bssid := Vector.replicate 6 0
  timeout := 0

/-- The security types for which `handle_connect_request` takes the PSK. -/
def takesPsk (security : SecurityType) : Bool :=
  decide (security = .psk ∨ security = .wpaPsk ∨ security = .pskSha256)

/-- The parameters `handle_connect_request` passes on. -/
def ConnectRequest.toParams (request : ConnectRequest) : ConnectReqParams :=
  let security := protoToZephyrSecurity request.securityType
  { ConnectReqParams.zero with
    ssid := some request.ssid
    security
    psk := if takesPsk security then some request.psk else none
    saePassword :=
      if security = .sae then some request.saePassword else none
    eapIdentity :=
      if security = .eap then some request.eapIdentity else none
    eapPassword :=
      if security = .eap then some request.eapPassword else none
    channel := channelOfProto request.channel
    bssid := request.bssid
    timeout := (request.timeoutMs + 999) % 2 ^ 32 / 1000
    mfp := protoToZephyrMfp request.mfp
    band := protoToZephyrBand request.band }

/-- `handle_connect_request` -/
def handleConnectRequest (radio : Radio) (request : ConnectRequest) :
    Served StatusResponse :=
  match resolveWifiIface radio request.ifaceIndex with
  | none => refuse (-enodev) "Interface not found"
  | some iface =>
      let security := protoToZephyrSecurity request.securityType
      if request.ssid = [] ∨ request.ssid.length > ssidMaxLen then
        refuse (-einval) "Invalid SSID length"
      else if takesPsk security ∧
          (request.psk = [] ∨ request.psk.length > maxPskLen) then
        refuse (-einval) "Invalid PSK length"
      else if security = .sae ∧ (request.saePassword = [] ∨
          request.saePassword.length > maxSaePasswordLen) then
        refuse (-einval) "Invalid SAE password length"
      else
        report radio (.connect iface request.toParams)
          "Wi-Fi connect request failed" "Connect initiated"

/-- `handle_disconnect_request` -/
def handleDisconnectRequest (radio : Radio) (ifaceIndex : Nat) :
    Served StatusResponse :=
  match resolveWifiIface radio ifaceIndex with
  | none => refuse (-enodev) "Interface not found"
  | some iface =>
      report radio (.disconnect iface) "Wi-Fi disconnect request failed"
        "Disconnect initiated"

/-- The parameters `handle_scan_request` passes on. -/
def ProtoScanParams.toParams (defaults : ScanDefaults)
    (params : ProtoScanParams) : ScanParams where
  scanType := protoToZephyrScanType params.scanType
  bands := defaults.bands
  dwellTimeActive := params.dwellTimeActive
  dwellTimePassive := params.dwellTimePassive
  maxBssCnt := defaults.maxBssCnt

/-- `handle_scan_request` -/
def handleScanRequest (radio : Radio) (ifaceIndex : Nat)
    (params : Option ProtoScanParams) : Served StatusResponse :=
  match resolveWifiIface radio ifaceIndex with
  | none => refuse (-enodev) "Interface not found for scan"
  | some iface =>
      report radio
        (.scan iface (params.map (·.toParams radio.scanDefaults)))
        "Wi-Fi scan request failed" "Scan initiated"

/-- The parameters `handle_ap_enable_request` passes on. -/
def ApEnableParams.toParams (params : ApEnableParams) : ConnectReqParams :=
  { ConnectReqParams.zero with
    ssid := some params.ssid
    band := protoToZephyrBand params.band
    channel := channelOfProto params.channel
    security := protoToZephyrSecurity params.securityType
    psk := if params.psk = [] then none else some params.psk }

/-- The security types an access point may have. -/
def apSupports (security : SecurityType) : Bool :=
  decide (security = .none ∨ security = .psk ∨ security = .sae ∨
    security = .wep)

/-- `handle_ap_enable_request` -/
def handleApEnableRequest (radio : Radio) (ifaceIndex : Nat)
    (params : Option ApEnableParams) : Served StatusResponse :=
  match resolveWifiIface radio ifaceIndex with
  | none => refuse (-enodev) "Interface not found for AP enable"
  | some iface =>
      match params with
      | none => refuse (-einval) "AP parameters missing"
      | some params =>
          let security := protoToZephyrSecurity params.securityType
          if params.ssid = [] ∨ params.ssid.length > ssidMaxLen then
            refuse (-einval) "Invalid AP SSID length"
          else if ¬apSupports security then
            refuse (-enotsup) "AP security type not supported"
          else if params.psk.length > maxApPskLen then
            refuse (-einval) "AP PSK too long"
          else if (security = .psk ∨ security = .sae) ∧ params.psk = [] then
            refuse (-einval) "AP PSK missing"
          else if params.channel ≠ 0 ∧ params.channel > 233 then
            refuse (-einval) "Invalid AP channel"
          else
            report radio (.apEnable iface params.toParams)
              "Wi-Fi AP enable request failed" "AP enable initiated"

/-- `handle_ap_disable_request` -/
def handleApDisableRequest (radio : Radio) (ifaceIndex : Nat) :
    Served StatusResponse :=
  match resolveWifiIface radio ifaceIndex with
  | none => refuse (-enodev) "Interface not found for AP disable"
  | some iface =>
      report radio (.apDisable iface) "Wi-Fi AP disable request failed"
        "AP disable initiated"

/-- `handle_get_version_request`, which writes no status: a failure leaves
`has_version` false. -/
def handleGetVersionRequest (radio : Radio) : Served (Option Version) :=
  let request := NetRequest.version radio.defaultIface
  { calls := [(request, radio.netMgmt request)]
    result :=
      if radio.netMgmt request = 0 then
        some
          { driverMajor := 0
            driverMinor := 0
            driverPatch := 0
            firmwareVersion := radio.fwVersion.getD "N/A" }
      else none }

/-- The GET handlers: the data, or a status. -/
def retrieve {α : Type} (radio : Radio) (ifaceIndex : Nat)
    (request : Nat → NetRequest) (data : α) (missing failed : String) :
    Served (Except StatusResponse α) :=
  match resolveWifiIface radio ifaceIndex with
  | none =>
      { calls := []
        result := .error
          { success := false, errorCode := -enodev, errorMessage := missing } }
  | some iface =>
      { calls := [(request iface, radio.netMgmt (request iface))]
        result :=
          if radio.netMgmt (request iface) ≠ 0 then
            .error
              { success := false
                errorCode := radio.netMgmt (request iface)
                errorMessage := failed }
          else .ok data }

/-- `handle_get_ps_config_request` -/
def handleGetPsConfigRequest (radio : Radio) (ifaceIndex : Nat) :
    Served (Except StatusResponse PowerSaveConfig) :=
  retrieve radio ifaceIndex .psConfig radio.psConfig
    "Interface not found for PS config" "Get PS config failed"

/-- `handle_get_reg_domain_request` -/
def handleGetRegDomainRequest (radio : Radio) (ifaceIndex : Nat) :
    Served (Except StatusResponse RegDomain) :=
  retrieve radio ifaceIndex .regDomainGet radio.regDomain
    "Interface not found for RegDomain" "Get RegDomain failed"

/-- The translation of the interface status; an absent BSSID is all 0. -/
def DeviceStatus.toProto (status : DeviceStatus) : InterfaceStatus where
  state := zephyrToProtoState status.state
  mode := zephyrToProtoMode status.ifaceMode
  ssid := if status.ssid.length ≤ ssidMaxLen then status.ssid else []
  bssid :=
    if status.state = .associated ∨ status.state = .completed ∨
        status.ifaceMode = .ap then status.bssid
    else Vector.replicate 6 0
  channel := status.channel
  security := zephyrToProtoSecurity status.security
  mfp := zephyrToProtoMfp status.mfp
  rssi := status.rssi

/-- `handle_get_iface_status_request` -/
def handleGetIfaceStatusRequest (radio : Radio) (ifaceIndex : Nat) :
    Served (Except StatusResponse InterfaceStatus) :=
  retrieve radio ifaceIndex .ifaceStatus radio.status.toProto
    "Interface not found for status" "Get IfaceStatus failed"

/-- `(c >= 'a' && c <= 'z') || (c >= 'A' && c <= 'Z')` -/
def isLetter (char : UInt8) : Bool :=
  decide ((97 ≤ char ∧ char ≤ 122) ∨ (65 ≤ char ∧ char ≤ 90))

def toUpper (char : UInt8) : UInt8 :=
  if 97 ≤ char ∧ char ≤ 122 then char - 32 else char

/-- `handle_set_reg_domain_request` -/
def handleSetRegDomainRequest (radio : Radio) (ifaceIndex : Nat)
    (regDomain : Option RegDomain) : Served StatusResponse :=
  match resolveWifiIface radio ifaceIndex with
  | none => refuse (-enodev) "Interface not found for RegDomain"
  | some iface =>
      match regDomain with
      | none => refuse (-einval) "RegDomain data missing"
      | some regDomain =>
          let (first, second) := regDomain.countryCode
          if ¬isLetter first ∨ ¬isLetter second then
            refuse (-einval) "Invalid country code"
          else
            let want := (toUpper first, toUpper second)
            let set := NetRequest.regDomainSet iface
              { regDomain with countryCode := want }
            let get := NetRequest.regDomainGet iface
            if radio.netMgmt set ≠ 0 then
              { calls := [(set, radio.netMgmt set)]
                result :=
                  { success := false
                    errorCode := radio.netMgmt set
                    errorMessage := "Set RegDomain failed" } }
            else
              { calls := [(set, radio.netMgmt set), (get, radio.netMgmt get)]
                result :=
                  if radio.netMgmt get ≠ 0 then
                    { success := false
                      errorCode := radio.netMgmt get
                      errorMessage := "Set RegDomain verify failed" }
                  else if radio.regDomain.countryCode ≠ want then
                    { success := false
                      errorCode := -eio
                      errorMessage :=
                        "Set RegDomain not confirmed by driver" }
                  else
                    { success := true
                      errorCode := 0
                      errorMessage := "Set RegDomain success" } }

namespace Served

variable {α : Type}

def status (served : Served StatusResponse) : Served ResponsePayload where
  calls := served.calls
  result := .statusResp served.result

/-- The payload of a GET handler, selected by its `has_` flag. -/
def select (served : Served (Except StatusResponse α))
    (tag : Option α → ResponsePayload) : Served ResponsePayload where
  calls := served.calls
  result :=
    match served.result with
    | .error status => .statusResp status
    | .ok data => tag (some data)

end Served

/-- The switch of `process_wifi_mgmt_request`. -/
def serve (radio : Radio) (request : MgmtRequest) : Served ResponsePayload :=
  match request.requestId, request.payload with
  | .connect, some (.connectReq request) =>
      (handleConnectRequest radio request).status
  | .disconnect, some (.disconnectReq ifaceIndex) =>
      (handleDisconnectRequest radio ifaceIndex).status
  | .scan, some (.scanReq ifaceIndex params) =>
      (handleScanRequest radio ifaceIndex params).status
  | .apEnable, some (.apEnableReq ifaceIndex params) =>
      (handleApEnableRequest radio ifaceIndex params).status
  | .apDisable, some (.apDisableReq ifaceIndex) =>
      (handleApDisableRequest radio ifaceIndex).status
  | .getWifiVersion, some .getVersionReq =>
      { calls := (handleGetVersionRequest radio).calls
        result := .getVersionResp (handleGetVersionRequest radio).result }
  | .getPsConfig, some (.getPsConfigReq ifaceIndex) =>
      (handleGetPsConfigRequest radio ifaceIndex).select .getPsConfigResp
  | .setRegDomain, some (.setRegDomainReq ifaceIndex regDomain) =>
      (handleSetRegDomainRequest radio ifaceIndex regDomain).status
  | .getRegDomain, some (.getRegDomainReq ifaceIndex) =>
      (handleGetRegDomainRequest radio ifaceIndex).select .getRegDomainResp
  | .getIfaceStatus, some (.getIfaceStatusReq ifaceIndex) =>
      (handleGetIfaceStatusRequest radio ifaceIndex).select
        .getIfaceStatusResp
  | .unknown, _ => (refuse (-enotsup) "Unsupported request type").status
  | _, _ => (refuse (-ebadmsg) "Payload type mismatch for request ID").status

def respond (radio : Radio) (request : MgmtRequest) : MgmtResponse where
  requestId := request.requestId
  payload := some (serve radio request).result

/-- `process_wifi_mgmt_request` on the bytes of a request; a response that
cannot be encoded has no bytes. -/
def processWifiMgmtRequest (codec : MgmtCodec) (radio : Radio)
    (bytes : List UInt8) : List UInt8 :=
  match codec.decodeRequest bytes with
  | none =>
      (codec.encodeResponse
        { requestId := .unknown
          payload := some (refuse (-ebadmsg)
            "Request decode failed").status.result }).getD []
  | some request => (codec.encodeResponse (respond radio request)).getD []

/-- A radio with one Wi-Fi interface that does whatever it is asked. -/
def obligingRadio : Radio where
  interfaces := [true]
  defaultIface := some 1
  netMgmt := fun _ => 0
  scanDefaults := { maxBssCnt := 0, bands := 0 }
  fwVersion := none
  psConfig :=
    { enabled := false, listenIntervalBeacons := 0, wakeupMode := 0
      timeoutMs := 0, exitStrategy := 0, wmm := false }
  regDomain := { countryCode := (0x55, 0x53), forceUpdate := false }
  status :=
    { state := .disconnected, ifaceMode := .other 0, ssid := []
      bssid := Vector.replicate 6 0, channel := 0, security := .none
      mfp := .disable, rssi := 0 }

section Endings

/-- The checks of `handle_connect_request`. -/
def ConnectRequest.Admissible (request : ConnectRequest) : Prop :=
  ¬(request.ssid = [] ∨ request.ssid.length > ssidMaxLen) ∧
  ¬(takesPsk (protoToZephyrSecurity request.securityType) = true ∧
    (request.psk = [] ∨ request.psk.length > maxPskLen)) ∧
  ¬(protoToZephyrSecurity request.securityType = .sae ∧
    (request.saePassword = [] ∨
      request.saePassword.length > maxSaePasswordLen))

/-- The checks of `handle_ap_enable_request`. -/
def ApEnableParams.Admissible (params : ApEnableParams) : Prop :=
  ¬(params.ssid = [] ∨ params.ssid.length > ssidMaxLen) ∧
  apSupports (protoToZephyrSecurity params.securityType) = true ∧
  ¬params.psk.length > maxApPskLen ∧
  ¬((protoToZephyrSecurity params.securityType = .psk ∨
      protoToZephyrSecurity params.securityType = .sae) ∧
    params.psk = []) ∧
  ¬(params.channel ≠ 0 ∧ params.channel > 233)

/-- How the handlers with one call end: they refuse the request, for want of
the interface or of something `admissible`, or report what became of the
call. -/
inductive Ends (radio : Radio) (ifaceIndex : Nat) (admissible : Prop)
    (request : Nat → NetRequest) : Served StatusResponse → Prop where
  | refused (errorCode : Int) (errorMessage : String) :
      errorCode ≠ 0 →
      resolveWifiIface radio ifaceIndex = none ∨ ¬admissible →
      Ends radio ifaceIndex admissible request
        (refuse errorCode errorMessage)
  | reported (iface : Nat) (failed done : String) :
      resolveWifiIface radio ifaceIndex = some iface → admissible →
      Ends radio ifaceIndex admissible request
        (report radio (request iface) failed done)

variable {radio : Radio} {ifaceIndex : Nat} {admissible : Prop}
  {request : Nat → NetRequest} {served : Served StatusResponse}

theorem handleConnectRequest_ends (radio : Radio)
    (request : ConnectRequest) :
    Ends radio request.ifaceIndex request.Admissible
      (fun iface => .connect iface request.toParams)
      (handleConnectRequest radio request) := by
  unfold handleConnectRequest
  cases found : resolveWifiIface radio request.ifaceIndex with
  | none => exact .refused _ _ (by decide) (.inl found)
  | some iface =>
      dsimp only
      split_ifs with ssid psk sae
      · exact .refused _ _ (by decide) (.inr fun ok => ok.1 ssid)
      · exact .refused _ _ (by decide) (.inr fun ok => ok.2.1 psk)
      · exact .refused _ _ (by decide) (.inr fun ok => ok.2.2 sae)
      · exact .reported iface _ _ found ⟨ssid, psk, sae⟩

theorem handleDisconnectRequest_ends (radio : Radio) (ifaceIndex : Nat) :
    Ends radio ifaceIndex True .disconnect
      (handleDisconnectRequest radio ifaceIndex) := by
  unfold handleDisconnectRequest
  cases found : resolveWifiIface radio ifaceIndex with
  | none => exact .refused _ _ (by decide) (.inl found)
  | some iface => exact .reported iface _ _ found trivial

theorem handleScanRequest_ends (radio : Radio) (ifaceIndex : Nat)
    (params : Option ProtoScanParams) :
    Ends radio ifaceIndex True
      (fun iface =>
        .scan iface (params.map (·.toParams radio.scanDefaults)))
      (handleScanRequest radio ifaceIndex params) := by
  unfold handleScanRequest
  cases found : resolveWifiIface radio ifaceIndex with
  | none => exact .refused _ _ (by decide) (.inl found)
  | some iface => exact .reported iface _ _ found trivial

theorem handleApEnableRequest_ends (radio : Radio) (ifaceIndex : Nat)
    (params : ApEnableParams) :
    Ends radio ifaceIndex params.Admissible
      (fun iface => .apEnable iface params.toParams)
      (handleApEnableRequest radio ifaceIndex (some params)) := by
  unfold handleApEnableRequest
  cases found : resolveWifiIface radio ifaceIndex with
  | none => exact .refused _ _ (by decide) (.inl found)
  | some iface =>
      dsimp only
      split_ifs with ssid security long psk channel
      · exact .refused _ _ (by decide) (.inr fun ok => ok.1 ssid)
      · exact .refused _ _ (by decide)
          (.inr fun ok => ok.2.2.1 long)
      · exact .refused _ _ (by decide) (.inr fun ok => ok.2.2.2.1 psk)
      · exact .refused _ _ (by decide) (.inr fun ok => ok.2.2.2.2 channel)
      · exact .reported iface _ _ found ⟨ssid, security, long, psk, channel⟩
      · exact .refused _ _ (by decide) (.inr fun ok => security ok.2.1)

theorem handleApDisableRequest_ends (radio : Radio) (ifaceIndex : Nat) :
    Ends radio ifaceIndex True .apDisable
      (handleApDisableRequest radio ifaceIndex) := by
  unfold handleApDisableRequest
  cases found : resolveWifiIface radio ifaceIndex with
  | none => exact .refused _ _ (by decide) (.inl found)
  | some iface => exact .reported iface _ _ found trivial

/-- A success is that of the call, which was made. -/
theorem Ends.of_success
    (ends : Ends radio ifaceIndex admissible request served)
    (success : served.result.success = true) :
    admissible ∧ ∃ iface, served.calls = [(request iface, 0)] := by
  cases ends with
  | refused errorCode errorMessage => cases success
  | reported iface failed done found ok =>
      have zero : radio.netMgmt (request iface) = 0 := by
        by_contra nonzero
        simp [report, nonzero] at success
      exact ⟨ok, iface, by simp [report, zero]⟩

/-- The status of a failure carries an error. -/
theorem Ends.errorCode_ne_zero
    (ends : Ends radio ifaceIndex admissible request served)
    (failed : ¬served.result.success = true) :
    served.result.errorCode ≠ 0 := by
  cases ends with
  | refused errorCode errorMessage nonzero => exact nonzero
  | reported iface failure done =>
      by_cases zero : radio.netMgmt (request iface) = 0
      · simp [report, zero] at failed
      · simp [report, zero]

/-- An admissible request succeeds where the interface is found and `net_mgmt`
returns 0. -/
theorem Ends.success {iface : Nat}
    (ends : Ends radio ifaceIndex admissible request served)
    (ok : admissible) (found : resolveWifiIface radio ifaceIndex = some iface)
    (zero : ∀ call, radio.netMgmt call = 0) :
    served.result.success = true := by
  cases ends with
  | refused errorCode errorMessage nonzero why =>
      rcases why with missing | bad
      · rw [found] at missing
        cases missing
      · exact absurd ok bad
  | reported iface failed done => simp [report, zero]

end Endings

end Wifi

end SerialLink
