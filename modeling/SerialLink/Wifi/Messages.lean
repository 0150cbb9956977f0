/-!
# Wi-Fi values and messages

The enumerations of Zephyr's Wi-Fi layer and of the schema, the translators
between them, and the notifications of `wifi.proto`.  The device and the host
have the same translators.  A value that no translator names is `other`.
-/

namespace SerialLink

namespace Wifi

/-- A MAC address, `WIFI_MAC_ADDR_LEN` bytes. -/
abbrev Mac := Vector UInt8 6

/-- `WIFI_SSID_MAX_LEN`, also the size of the `ssid` fields of the schema. -/
def ssidMaxLen : Nat := 32

/-- `enum wifi_security_type` -/
inductive SecurityType where
  | none
  | psk
  | pskSha256
  | sae
  | saeH2e
  | saeAuto
  | wapi
  | eap
  | wep
  | wpaPsk
  | wpaAutoPersonal
  | other (code : Nat)
  deriving DecidableEq, Repr

/-- `WifiSecurityType` of the schema. -/
inductive ProtoSecurityType where
  | unknown
  | none
  | wep
  | psk
  | eap
  | wapi
  | pskSha256
  | sae
  | other (code : Nat)
  deriving DecidableEq, Repr

/-- `zephyr_to_proto_security` -/
def zephyrToProtoSecurity : SecurityType → ProtoSecurityType
  | .none => .none
  | .psk => .psk
  | .wpaPsk => .psk
  | .wpaAutoPersonal => .psk
  | .pskSha256 => .pskSha256
  | .sae => .sae
  | .saeH2e => .sae
  | .saeAuto => .sae
  | .eap => .eap
  | .wep => .wep
  | .wapi => .wapi
  | .other _ => .unknown

/-- `proto_to_zephyr_security` -/
def protoToZephyrSecurity : ProtoSecurityType → SecurityType
  | .none => .none
  | .psk => .psk
  | .pskSha256 => .pskSha256
  | .sae => .sae
  | .eap => .eap
  | .wep => .wep
  | .wapi => .wapi
  | .unknown => .none
  | .other _ => .none

/-- `enum wifi_mfp_options` -/
inductive MfpOptions where
  | disable
  | optional
  | required
  | other (code : Nat)
  deriving DecidableEq, Repr

/-- `WifiMfpOptions` of the schema. -/
inductive ProtoMfpOptions where
  | optional
  | required
  | disable
  | other (code : Nat)
  deriving DecidableEq, Repr

/-- `zephyr_to_proto_mfp` -/
def zephyrToProtoMfp : MfpOptions → ProtoMfpOptions
  | .optional => .optional
  | .required => .required
  | .disable => .disable
  | .other _ => .disable

/-- `proto_to_zephyr_mfp` -/
def protoToZephyrMfp : ProtoMfpOptions → MfpOptions
  | .required => .required
  | .disable => .disable
  | .optional => .optional
  | .other _ => .optional

/-- `enum wifi_frequency_bands` -/
inductive FrequencyBand where
  | band2Point4GHz
  | band5GHz
  | band6GHz
  | other (code : Nat)
  deriving DecidableEq, Repr

/-- `WifiBand` of the schema. -/
inductive ProtoBand where
  | any
  | band2Point4GHz
  | band5GHz
  | band6GHz
  | other (code : Nat)
  deriving DecidableEq, Repr

/-- `zephyr_to_proto_band` -/
def zephyrToProtoBand : FrequencyBand → ProtoBand
  | .band2Point4GHz => .band2Point4GHz
  | .band5GHz => .band5GHz
  | .band6GHz => .band6GHz
  | .other _ => .any

/-- `enum wifi_ap_status` -/
inductive ApStatus where
  | success
  | fail
  | channelNotSupported
  | other (code : Nat)
  deriving DecidableEq, Repr

/-- The value of a status; it is 0 for success only. -/
def ApStatus.toInt : ApStatus → Int
  | .success => 0
  | .fail => 1
  | .channelNotSupported => 2
  | .other code => code + 3

/-- `struct wifi_scan_result`; the SSID has `ssid_length` bytes. -/
structure ScanEntry where
  ssid : List UInt8
  mac : Mac
  channel : UInt8
  rssi : Int8
  security : SecurityType
  /-- `wpa3_ent_type` -/
  wpa3EntType : Nat
  mfp : MfpOptions
  band : FrequencyBand
  deriving DecidableEq, Repr

/-- `WifiScanResult` of the schema. -/
structure ScanResult where
  ssid : List UInt8
  bssid : Mac
  channel : Nat
  rssi : Int
  security : ProtoSecurityType
  wpa3EnterpriseType : Nat
  mfp : ProtoMfpOptions
  band : ProtoBand
  deriving DecidableEq, Repr

/-- `enum wifi_iface_state`, as far as the host uses it. -/
inductive IfaceState where
  | disconnected
  | interfaceDisabled
  | inactive
  | scanning
  | completed
  deriving DecidableEq, Repr

/-- `WifiInterfaceState` of the schema. -/
inductive ProtoIfaceState where
  | connected
  | disconnected
  | inactive
  | scanning
  | interfaceDisabled
  | other (code : Nat)
  deriving DecidableEq, Repr

/-- `proto_to_zephyr_state` -/
def protoToZephyrState : ProtoIfaceState → IfaceState
  | .connected => .completed
  | .disconnected => .disconnected
  | .inactive => .inactive
  | .scanning => .scanning
  | .interfaceDisabled => .interfaceDisabled
  | .other _ => .disconnected

/-- `enum wifi_iface_mode`, as far as the host uses it. -/
inductive IfaceMode where
  | infra
  | ap
  deriving DecidableEq, Repr

/-- `WifiMode` of the schema. -/
inductive ProtoMode where
  | infra
  | ap
  | other (code : Nat)
  deriving DecidableEq, Repr

/-- `proto_to_zephyr_mode` -/
def protoToZephyrMode : ProtoMode → IfaceMode
  | .ap => .ap
  | .infra => .infra
  | .other _ => .infra

/-- The fields of `WifiInterfaceStatus` that the host reads. -/
structure InterfaceStatus where
  state : ProtoIfaceState
  mode : ProtoMode
  security : ProtoSecurityType
  mfp : ProtoMfpOptions
  channel : Nat
  rssi : Int
  ssid : List UInt8
  bssid : Mac
  deriving DecidableEq, Repr

/-- `event_data` of a `WifiEvent`. -/
inductive EventData where
  | scanDone (status : Int) (allResults : List ScanResult)
  | connectResult (status : Int)
  | disconnectResult (initiatedByUser : Bool) (reasonCode : Nat)
  | interfaceStatus (status : InterfaceStatus)
  | apEnableResult (status : Int)
  | apDisableResult (status : Int)
  | apStaConnected (staMacAddress : Mac)
  | apStaDisconnected (staMacAddress : Mac)
  | rawFrameRx (frame : List UInt8)
  deriving DecidableEq, Repr

/-- `WifiMgmtNotification` -/
structure Notification where
  ifaceIndex : Nat
  event : EventData
  deriving DecidableEq, Repr

/-- What nanopb makes of a notification and of the bytes of one. -/
structure Codec where
  /-- `pb_encode` -/
  encode : Notification → Option (List UInt8)
  /-- `pb_decode` -/
  decode : List UInt8 → Option Notification

/-- The notifications of a list are encoded and decoded faithfully. -/
def Codec.Faithful (codec : Codec) (notifications : List Notification) :
    Prop :=
  ∀ notification ∈ notifications, ∃ bytes,
    codec.encode notification = some bytes ∧
      codec.decode bytes = some notification

end Wifi

end SerialLink
