import SerialLink.Wifi.Events
import SerialLink.Wifi.Handlers

/-!
# The operations of the virtual Wi-Fi driver

The `virt_wifi_*` functions of the host over `mgmt_roundtrip`, which sends a
request with `bus_request` and decodes the response.  `returned_eq` says what
an operation returns when the device's response is delivered and nanopb
encodes and decodes faithfully: what the operation makes of the response the
device gave.
-/

namespace SerialLink

namespace Wifi

section Host

variable (codec : MgmtCodec) (busRequest : List UInt8 →
  Except Int (List UInt8))

/-- `mgmt_roundtrip` -/
def mgmtRoundtrip (request : MgmtRequest) : Except Int MgmtResponse :=
  match codec.encodeRequest request with
  | none => .error (-emsgsize)
  | some bytes =>
      match busRequest bytes with
      | .error rc => .error rc
      | .ok answer =>
          match codec.decodeResponse answer with
          | none => .error (-ebadmsg)
          | some response => .ok response

/-- `decode_status` -/
def decodeStatus (response : MgmtResponse) : Int :=
  match response.payload with
  | some (.statusResp status) =>
      if status.success then 0 else status.errorCode
  | _ => -ebadmsg

/-- The operations that only report a status. -/
def statusOperation (request : MgmtRequest) : Int :=
  match mgmtRoundtrip codec busRequest request with
  | .error rc => rc
  | .ok response => decodeStatus response

def ScanParams.request (params : ScanParams) : MgmtRequest where
  requestId := .scan
  payload := some (.scanReq virtWifiIfaceIndex
    (some
      { scanType := zephyrToProtoScanType params.scanType
        bands := params.bands
        dwellTimeActive := params.dwellTimeActive
        dwellTimePassive := params.dwellTimePassive
        maxBssCnt := params.maxBssCnt }))

/-- `virt_wifi_scan`; the second component tells whether `scan_cb` stays
set. -/
def virtWifiScan (params : ScanParams) : Int × Bool :=
  match mgmtRoundtrip codec busRequest params.request with
  | .error rc => (rc, false)
  | .ok response => (decodeStatus response, true)

/-- A byte string is copied if the pointer is not null and it fits. -/
def copied (bound : Nat) (bytes : Option (List UInt8)) : List UInt8 :=
  match bytes with
  | none => []
  | some bytes => if bytes.length ≤ bound then bytes else []

/-- `connect_req` as `virt_wifi_connect` fills it in. -/
def ConnectReqParams.toConnectRequest (params : ConnectReqParams) :
    ConnectRequest :=
  { ConnectRequest.initZero with
    ifaceIndex := virtWifiIfaceIndex
    ssid := copied 32 params.ssid
    securityType := zephyrToProtoSecurity params.security
    psk := copied 65 params.psk
    mfp := zephyrToProtoMfp params.mfp
    channel := params.channel.toNat }

def ConnectReqParams.connectRequest (params : ConnectReqParams) :
    MgmtRequest where
  requestId := .connect
  payload := some (.connectReq params.toConnectRequest)

/-- `virt_wifi_connect` -/
def virtWifiConnect (params : ConnectReqParams) : Int :=
  statusOperation codec busRequest params.connectRequest

def disconnectRequest : MgmtRequest where
  requestId := .disconnect
  payload := some (.disconnectReq virtWifiIfaceIndex)

/-- `virt_wifi_disconnect` -/
def virtWifiDisconnect : Int :=
  statusOperation codec busRequest disconnectRequest

/-- The parameters of `ap_enable_req` as `virt_wifi_ap_enable` fills them
in. -/
def ConnectReqParams.toApEnableParams (params : ConnectReqParams) :
    ApEnableParams :=
  { ApEnableParams.initZero with
    ssid := copied 32 params.ssid
    securityType := zephyrToProtoSecurity params.security
    psk := copied 65 params.psk }

def ConnectReqParams.apEnableRequest (params : ConnectReqParams) :
    MgmtRequest where
  requestId := .apEnable
  payload := some (.apEnableReq virtWifiIfaceIndex
    (some params.toApEnableParams))

/-- `virt_wifi_ap_enable` -/
def virtWifiApEnable (params : ConnectReqParams) : Int :=
  statusOperation codec busRequest params.apEnableRequest

def apDisableRequest : MgmtRequest where
  requestId := .apDisable
  payload := some (.apDisableReq virtWifiIfaceIndex)

/-- `virt_wifi_ap_disable` -/
def virtWifiApDisable : Int :=
  statusOperation codec busRequest apDisableRequest

def ifaceStatusRequest : MgmtRequest where
  requestId := .getIfaceStatus
  payload := some (.getIfaceStatusReq virtWifiIfaceIndex)

/-- What `virt_wifi_iface_status` writes of the response, of which the
submessage is all 0 if absent. -/
def IfaceStatus.fill (status : IfaceStatus) (received : InterfaceStatus) :
    IfaceStatus where
  state := protoToZephyrState received.state
  ifaceMode := protoToZephyrMode received.mode
  security := protoToZephyrSecurity received.security
  mfp := protoToZephyrMfp received.mfp
  channel := received.channel % 256
  rssi := received.rssi
  ssid :=
    if received.ssid.length ≤ ssidMaxLen then received.ssid else status.ssid
  bssid := received.bssid

/-- `WifiInterfaceStatus_init_zero` -/
def InterfaceStatus.initZero : InterfaceStatus where
  state := .inactive
  mode := .infra
  security := .unknown
  mfp := .optional
  channel := 0
  rssi := 0
  ssid := []
  bssid := Vector.replicate 6 0

/-- `virt_wifi_iface_status` -/
def virtWifiIfaceStatus (status : IfaceStatus) : Int × IfaceStatus :=
  match mgmtRoundtrip codec busRequest ifaceStatusRequest with
  | .error rc => (rc, status)
  | .ok response =>
      match response.payload with
      | some (.getIfaceStatusResp received) =>
          (0, status.fill (received.getD .initZero))
      | _ => (decodeStatus response, status)

def versionRequest : MgmtRequest where
  requestId := .getWifiVersion
  payload := some .getVersionReq

/-- `struct wifi_version` -/
structure HostVersion where
  drvVersion : String
  fwVersion : String
  deriving DecidableEq, Repr

/-- `snprintf` into a buffer of `size` bytes. -/
def snprintf (size : Nat) (text : String) : String :=
  String.ofList (text.toList.take (size - 1))

/-- What `virt_wifi_get_version` makes of the response, of which the
submessage is all 0 if absent. -/
def Version.toHost (version : Option Version) : HostVersion :=
  let version := version.getD
    { driverMajor := 0, driverMinor := 0, driverPatch := 0
      firmwareVersion := "" }
  { drvVersion := snprintf 16
      (toString version.driverMajor ++ "." ++ toString version.driverMinor ++
        "." ++ toString version.driverPatch)
    fwVersion := snprintf 32 version.firmwareVersion }

/-- `virt_wifi_get_version` -/
def virtWifiGetVersion (params : HostVersion) : Int × HostVersion :=
  match mgmtRoundtrip codec busRequest versionRequest with
  | .error rc => (rc, params)
  | .ok response =>
      match response.payload with
      | some (.getVersionResp version) => (0, Version.toHost version)
      | _ => (decodeStatus response, params)

def psConfigRequest : MgmtRequest where
  requestId := .getPsConfig
  payload := some (.getPsConfigReq virtWifiIfaceIndex)

/-- `virt_wifi_get_ps_config`; `enabled` is `ps_params.enabled`. -/
def virtWifiGetPsConfig (enabled : Bool) : Int × Bool :=
  match mgmtRoundtrip codec busRequest psConfigRequest with
  | .error rc => (rc, enabled)
  | .ok response =>
      match response.payload with
      | some (.getPsConfigResp config) =>
          (0, (config.map (·.enabled)).getD false)
      | _ => (decodeStatus response, enabled)

/-- The request of `virt_wifi_reg_domain`. -/
def regDomainRequest (isGet : Bool) (countryCode : CountryCode) :
    MgmtRequest :=
  if isGet then
    { requestId := .getRegDomain
      payload := some (.getRegDomainReq virtWifiIfaceIndex) }
  else
    { requestId := .setRegDomain
      payload := some (.setRegDomainReq 0
        (some { countryCode, forceUpdate := false })) }

/-- `virt_wifi_reg_domain` -/
def virtWifiRegDomain (isGet : Bool) (countryCode : CountryCode) :
    Int × CountryCode :=
  match mgmtRoundtrip codec busRequest (regDomainRequest isGet countryCode)
  with
  | .error rc => (rc, countryCode)
  | .ok response =>
      match isGet, response.payload with
      | true, some (.getRegDomainResp regDomain) =>
          (0, (regDomain.map (·.countryCode)).getD (0, 0))
      | _, _ => (decodeStatus response, countryCode)

end Host

/-- A call of an operation of `virt_wifi_ops`. -/
inductive Operation where
  | scan (params : ScanParams)
  | connect (params : ConnectReqParams)
  | disconnect
  | apEnable (params : ConnectReqParams)
  | apDisable
  | ifaceStatus (status : IfaceStatus)
  | getVersion (params : HostVersion)
  | getPsConfig (enabled : Bool)
  | regDomain (isGet : Bool) (countryCode : CountryCode)
  deriving DecidableEq, Repr

namespace Operation

def returned (codec : MgmtCodec)
    (busRequest : List UInt8 → Except Int (List UInt8)) : Operation → Int
  | .scan params => (virtWifiScan codec busRequest params).1
  | .connect params => virtWifiConnect codec busRequest params
  | .disconnect => virtWifiDisconnect codec busRequest
  | .apEnable params => virtWifiApEnable codec busRequest params
  | .apDisable => virtWifiApDisable codec busRequest
  | .ifaceStatus status => (virtWifiIfaceStatus codec busRequest status).1
  | .getVersion params => (virtWifiGetVersion codec busRequest params).1
  | .getPsConfig enabled => (virtWifiGetPsConfig codec busRequest enabled).1
  | .regDomain isGet countryCode =>
      (virtWifiRegDomain codec busRequest isGet countryCode).1

def request : Operation → MgmtRequest
  | .scan params => params.request
  | .connect params => params.connectRequest
  | .disconnect => disconnectRequest
  | .apEnable params => params.apEnableRequest
  | .apDisable => apDisableRequest
  | .ifaceStatus _ => ifaceStatusRequest
  | .getVersion _ => versionRequest
  | .getPsConfig _ => psConfigRequest
  | .regDomain isGet countryCode => regDomainRequest isGet countryCode

/-- What the operation returns for a payload. -/
def result : Operation → ResponsePayload → Int
  | _, .statusResp status => if status.success then 0 else status.errorCode
  | .ifaceStatus _, .getIfaceStatusResp _ => 0
  | .getVersion _, .getVersionResp _ => 0
  | .getPsConfig _, .getPsConfigResp _ => 0
  | .regDomain true _, .getRegDomainResp _ => 0
  | _, _ => -ebadmsg

end Operation

/-- The link to a device whose response is delivered. -/
def deliver (codec : MgmtCodec) (radio : Radio) (bytes : List UInt8) :
    Except Int (List UInt8) :=
  .ok (processWifiMgmtRequest codec radio bytes)

section Roundtrip

variable {codec : MgmtCodec} {radio : Radio}

theorem mgmtRoundtrip_faithful {request : MgmtRequest}
    (faithful : codec.Faithful request (respond radio request)) :
    mgmtRoundtrip codec (deliver codec radio) request =
      .ok (respond radio request) := by
  obtain ⟨sent, encoded, decoded⟩ := faithful.request
  obtain ⟨received, answered, understood⟩ := faithful.response
  simp [mgmtRoundtrip, encoded, deliver, processWifiMgmtRequest, decoded,
    answered, understood]

theorem statusOperation_faithful {request : MgmtRequest}
    (faithful : codec.Faithful request (respond radio request)) :
    statusOperation codec (deliver codec radio) request =
      decodeStatus (respond radio request) := by
  rw [statusOperation, mgmtRoundtrip_faithful faithful]

/-- The response decides what an operation returns. -/
theorem Operation.returned_eq (operation : Operation)
    (faithful : codec.Faithful operation.request
      (respond radio operation.request)) :
    operation.returned codec (deliver codec radio) =
      operation.result (serve radio operation.request).result := by
  have answered := mgmtRoundtrip_faithful faithful
  -- A status is decoded by `decode_status`, whatever the operation is.
  cases operation with
  | scan params =>
      simp only [request] at answered
      rw [returned, virtWifiScan, answered]
      rfl
  | connect params => exact statusOperation_faithful faithful
  | disconnect => exact statusOperation_faithful faithful
  | apEnable params => exact statusOperation_faithful faithful
  | apDisable => exact statusOperation_faithful faithful
  | ifaceStatus status =>
      simp only [request] at answered ⊢
      rw [returned, virtWifiIfaceStatus, answered]
      simp only [respond]
      cases (serve radio ifaceStatusRequest).result <;> rfl
  | getVersion params =>
      simp only [request] at answered ⊢
      rw [returned, virtWifiGetVersion, answered]
      simp only [respond]
      cases (serve radio versionRequest).result <;> rfl
  | getPsConfig enabled =>
      simp only [request] at answered ⊢
      rw [returned, virtWifiGetPsConfig, answered]
      simp only [respond]
      cases (serve radio psConfigRequest).result <;> rfl
  | regDomain isGet countryCode =>
      simp only [request] at answered ⊢
      rw [returned, virtWifiRegDomain, answered]
      simp only [respond]
      cases isGet <;> cases (serve radio _).result <;> rfl

end Roundtrip

end Wifi

end SerialLink
