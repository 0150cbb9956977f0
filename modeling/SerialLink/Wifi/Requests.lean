import SerialLink.Wifi.Messages

/-!
# Wi-Fi requests and responses

The requests of `wifi.proto` that the virtual driver of the host makes, the
responses to them, and the parameters they have on either side.  A pointer
that may be null is an `Option`; a `has_` flag and the submessage behind it
are an `Option` too.
-/

namespace SerialLink

namespace Wifi

def eio : Int := 5
def enodev : Int := 19
def einval : Int := 22
def ebadmsg : Int := 77
def emsgsize : Int := 122
def enotsup : Int := 134

/-- `VIRT_WIFI_IFACE_INDEX` -/
def virtWifiIfaceIndex : Nat := 1

/-- `WIFI_CHANNEL_ANY` of Zephyr; the one of the schema is 0. -/
def channelAny : UInt8 := 255

/-- `enum wifi_scan_type` -/
inductive ScanType where
  | active
  | passive
  deriving DecidableEq, Repr

/-- `WifiScanType` of the schema. -/
inductive ProtoScanType where
  | passive
  | active
  | other (code : Nat)
  deriving DecidableEq, Repr

/-- `zephyr_to_proto_scan_type` -/
def zephyrToProtoScanType : ScanType → ProtoScanType
  | .active => .active
  | .passive => .passive

/-- `proto_to_zephyr_scan_type` -/
def protoToZephyrScanType : ProtoScanType → ScanType
  | .active => .active
  | .passive => .passive
  | .other _ => .passive

/-- `proto_to_zephyr_band` -/
def protoToZephyrBand : ProtoBand → FrequencyBand
  | .band5GHz => .band5GHz
  | .band6GHz => .band6GHz
  | .band2Point4GHz => .band2Point4GHz
  | .any => .band2Point4GHz
  | .other _ => .band2Point4GHz

/-- The fields of `struct wifi_scan_params` that travel. -/
structure ScanParams where
  scanType : ScanType
  bands : Nat
  dwellTimeActive : Nat
  dwellTimePassive : Nat
  maxBssCnt : Nat
  deriving DecidableEq, Repr

/-- `WifiScanParams`, without the lists the driver does not send. -/
structure ProtoScanParams where
  scanType : ProtoScanType
  bands : Nat
  dwellTimeActive : Nat
  dwellTimePassive : Nat
  maxBssCnt : Nat
  deriving DecidableEq, Repr

/-- `struct wifi_connect_req_params`; a byte string stands for a pointer and
the length beside it. -/
structure ConnectReqParams where
  ssid : Option (List UInt8)
  psk : Option (List UInt8)
  saePassword : Option (List UInt8)
  eapIdentity : Option (List UInt8)
  eapPassword : Option (List UInt8)
  band : FrequencyBand
  channel : UInt8
  security : SecurityType
  mfp : MfpOptions
  bssid : Mac
  timeout : Nat
  deriving DecidableEq, Repr

/-- `WifiConnectRequest` -/
structure ConnectRequest where
  ifaceIndex : Nat
  ssid : List UInt8
  securityType : ProtoSecurityType
  psk : List UInt8
  saePassword : List UInt8
  channel : Nat
  bssid : Mac
  timeoutMs : Nat
  mfp : ProtoMfpOptions
  band : ProtoBand
  eapIdentity : List UInt8
  eapPassword : List UInt8
  deriving DecidableEq, Repr

/-- `WifiConnectRequest_init_zero` -/
def ConnectRequest.initZero : ConnectRequest where
  ifaceIndex := 0
  ssid := []
  securityType := .unknown
  psk := []
  saePassword := []
  channel := 0
  bssid := Vector.replicate 6 0
  timeoutMs := 0
  mfp := .optional
  band := .any
  eapIdentity := []
  eapPassword := []

/-- `WifiApEnableParams` -/
structure ApEnableParams where
  ssid : List UInt8
  channel : Nat
  band : ProtoBand
  securityType : ProtoSecurityType
  psk : List UInt8
  hiddenSsid : Bool
  beaconIntervalTu : Nat
  dtimPeriod : Nat
  deriving DecidableEq, Repr

/-- `WifiApEnableParams_init_zero` -/
def ApEnableParams.initZero : ApEnableParams where
  ssid := []
  channel := 0
  band := .any
  securityType := .unknown
  psk := []
  hiddenSsid := false
  beaconIntervalTu := 0
  dtimPeriod := 0

/-- The first two characters of a country code, which are those the driver
sets. -/
abbrev CountryCode := UInt8 × UInt8

/-- `WifiRegDomain`, without the channels, which the host does not read. -/
structure RegDomain where
  countryCode : CountryCode
  forceUpdate : Bool
  deriving DecidableEq, Repr

/-- `RequestType`, as far as the driver uses it. -/
inductive RequestType where
  | unknown
  | connect
  | disconnect
  | scan
  | apEnable
  | apDisable
  | getWifiVersion
  | getPsConfig
  | setRegDomain
  | getRegDomain
  | getIfaceStatus
  deriving DecidableEq, Repr

/-- The payload of a `WifiMgmtRequest`. -/
inductive RequestPayload where
  | connectReq (request : ConnectRequest)
  | disconnectReq (ifaceIndex : Nat)
  | scanReq (ifaceIndex : Nat) (params : Option ProtoScanParams)
  | apEnableReq (ifaceIndex : Nat) (params : Option ApEnableParams)
  | apDisableReq (ifaceIndex : Nat)
  | getVersionReq
  | getPsConfigReq (ifaceIndex : Nat)
  | setRegDomainReq (ifaceIndex : Nat) (regDomain : Option RegDomain)
  | getRegDomainReq (ifaceIndex : Nat)
  | getIfaceStatusReq (ifaceIndex : Nat)
  deriving DecidableEq, Repr

/-- `WifiMgmtRequest` -/
structure MgmtRequest where
  requestId : RequestType
  payload : Option RequestPayload
  deriving DecidableEq, Repr

/-- `WifiStatusResponse` -/
structure StatusResponse where
  success : Bool
  errorCode : Int
  errorMessage : String
  deriving DecidableEq, Repr

/-- `WifiVersion` -/
structure Version where
  driverMajor : Nat
  driverMinor : Nat
  driverPatch : Nat
  firmwareVersion : String
  deriving DecidableEq, Repr

/-- `WifiPowerSaveConfig`, with its `ps_settings`. -/
structure PowerSaveConfig where
  enabled : Bool
  listenIntervalBeacons : Nat
  wakeupMode : Nat
  timeoutMs : Nat
  exitStrategy : Nat
  /-- `WIFI_PS_TYPE_WMM`, else `WIFI_PS_TYPE_MODEM` -/
  wmm : Bool
  deriving DecidableEq, Repr

/-- The payload of a `WifiMgmtResponse`. -/
inductive ResponsePayload where
  | statusResp (status : StatusResponse)
  | getVersionResp (version : Option Version)
  | getPsConfigResp (config : Option PowerSaveConfig)
  | getRegDomainResp (regDomain : Option RegDomain)
  | getIfaceStatusResp (status : Option InterfaceStatus)
  deriving DecidableEq, Repr

/-- `WifiMgmtResponse` -/
structure MgmtResponse where
  requestId : RequestType
  payload : Option ResponsePayload
  deriving DecidableEq, Repr

/-- What nanopb makes of requests and responses. -/
structure MgmtCodec where
  encodeRequest : MgmtRequest → Option (List UInt8)
  decodeRequest : List UInt8 → Option MgmtRequest
  encodeResponse : MgmtResponse → Option (List UInt8)
  decodeResponse : List UInt8 → Option MgmtResponse

/-- A request and its response are encoded and decoded faithfully. -/
structure MgmtCodec.Faithful (codec : MgmtCodec) (request : MgmtRequest)
    (response : MgmtResponse) : Prop where
  request : ∃ bytes, codec.encodeRequest request = some bytes ∧
    codec.decodeRequest bytes = some request
  response : ∃ bytes, codec.encodeResponse response = some bytes ∧
    codec.decodeResponse bytes = some response

/-- A codec that knows one request and one response. -/
def MgmtCodec.single (request : MgmtRequest) (sent : List UInt8)
    (response : MgmtResponse) (received : List UInt8) : MgmtCodec where
  encodeRequest := fun other => if other = request then some sent else none
  decodeRequest := fun bytes => if bytes = sent then some request else none
  encodeResponse := fun other =>
    if other = response then some received else none
  decodeResponse := fun bytes =>
    if bytes = received then some response else none

theorem MgmtCodec.single_faithful (request : MgmtRequest)
    (sent : List UInt8) (response : MgmtResponse) (received : List UInt8) :
    (MgmtCodec.single request sent response received).Faithful request
      response :=
  ⟨⟨sent, by simp [single], by simp [single]⟩,
    ⟨received, by simp [single], by simp [single]⟩⟩

end Wifi

end SerialLink
