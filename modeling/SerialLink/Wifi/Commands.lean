import SerialLink.Library.CString
import SerialLink.Wifi.Handlers

/-!
# The requests that the virtual driver does not make

The handlers of `SET_PS_CONFIG` and of the raw frames, and what they find on
the board besides its radio.  The driver applies one power-save parameter in a
call, so one request is up to four calls that share their parameters.
-/

namespace SerialLink

namespace Wifi

/-- `WifiPsState` of the schema. -/
inductive ProtoPsState where
  | disable
  | enable
  | other (code : Nat)
  deriving DecidableEq, Repr

/-- `WifiPowerSaveType` of the schema. -/
inductive ProtoPowerSaveType where
  | none
  | modem
  | wmm
  | other (code : Nat)
  deriving DecidableEq, Repr

/-- The fields of `WifiPsSettings` that the device reads. -/
structure PsSettings where
  enabled : ProtoPsState
  listenIntervalBeacons : UInt32
  timeoutMs : UInt32
  deriving DecidableEq, Repr

/-- `WifiPowerSaveConfig` of a request. -/
structure PsConfigRequest where
  psSettings : Option PsSettings
  type : ProtoPowerSaveType
  deriving DecidableEq, Repr

/-- The values of `enum ps_param_type` that the device uses. -/
inductive PsParamType where
  | state
  | listenInterval
  | mode
  | timeout
  deriving DecidableEq, Repr

/-- `struct wifi_ps_params`, as far as the device sets it. -/
structure PsParams where
  type : PsParamType
  /-- `WIFI_PS_ENABLED`, else `WIFI_PS_DISABLED` -/
  enabled : Bool
  listenInterval : UInt16
  timeoutMs : UInt32
  /-- `WIFI_PS_MODE_WMM`, else `WIFI_PS_MODE_LEGACY` -/
  wmm : Bool
  deriving DecidableEq, Repr

/-- `struct wifi_data_raw_rx_diag` -/
structure RawRxDiag where
  socketFd : Int
  threadRunning : Bool
  framesReceived : Nat
  currentMode : Nat
  startZepStep : Int
  txSocketFd : Int
  txFramesSent : Nat
  txInjectionRet : Int
  txSetupRet : Int
  txLastRet : Int
  txLastLen : Nat
  txLastWifi : Int
  deriving DecidableEq, Repr

/-- `struct wifi_reg_chan_info` -/
structure RegChanInfo where
  centerFrequency : Nat
  maxPower : Nat
  supported : Bool
  passiveOnly : Bool
  dfs : Bool
  deriving DecidableEq, Repr

/-- What the handlers find on the device. -/
structure Board where
  radio : Radio
  /-- `fw_version` -/
  firmware : Option CString
  /-- `num_channels` of the regulatory domain -/
  numChannels : Nat
  /-- `chan_buf` -/
  chanBuf : Nat → RegChanInfo
  /-- `NET_REQUEST_WIFI_PS` -/
  netMgmtPs : Nat → PsParams → Int
  wifiDataRawFrameTx : Nat → List UInt8 → Int
  wifiDataRawFrameRxEnable : Nat → UInt32 → Int
  wifiDataRawFrameRxDisable : Nat → Int
  wifiDataRawRxDiag : RawRxDiag

/-- What became of a `SetPowerSaveConfigRequest`: the calls with their
results, and the status. -/
structure PsServed where
  calls : List (PsParams × Int)
  result : StatusResponse
  deriving DecidableEq, Repr

/-- One call of `NET_REQUEST_WIFI_PS`; a failure ends the request. -/
def psCall (netMgmtPs : PsParams → Int) (params : PsParams)
    (failed : String) (next : PsServed) : PsServed :=
  if netMgmtPs params ≠ 0 then
    { calls := [(params, netMgmtPs params)]
      result :=
        { success := false
          errorCode := netMgmtPs params
          errorMessage := failed } }
  else { next with calls := (params, netMgmtPs params) :: next.calls }

/-- The parameters of the first call. -/
def PsSettings.stateParams (settings : PsSettings) : PsParams where
  type := .state
  enabled := decide (settings.enabled = .enable)
  listenInterval := 0
  timeoutMs := 0
  wmm := false

/-- The last call. -/
def psModeCall (netMgmtPs : PsParams → Int) (type : ProtoPowerSaveType)
    (params : PsParams) : PsServed :=
  psCall netMgmtPs { params with type := .mode, wmm := decide (type = .wmm) }
    "Set PS mode failed"
    { calls := []
      result :=
        { success := true
          errorCode := 0
          errorMessage := "Set PS config success" } }

/-- The call for the timeout, where the request has one, and what follows. -/
def psTimeoutCall (netMgmtPs : PsParams → Int) (settings : PsSettings)
    (type : ProtoPowerSaveType) (params : PsParams) : PsServed :=
  if settings.timeoutMs > 0 then
    let params :=
      { params with type := .timeout, timeoutMs := settings.timeoutMs }
    psCall netMgmtPs params "Set PS timeout failed"
      (psModeCall netMgmtPs type params)
  else psModeCall netMgmtPs type params

/-- The call for the listen interval, where the request has one, and what
follows. -/
def psListenIntervalCall (netMgmtPs : PsParams → Int)
    (settings : PsSettings) (type : ProtoPowerSaveType) (params : PsParams) :
    PsServed :=
  if settings.listenIntervalBeacons > 0 then
    let params :=
      { params with
        type := .listenInterval
        listenInterval := settings.listenIntervalBeacons.toUInt16 }
    psCall netMgmtPs params "Set PS listen interval failed"
      (psTimeoutCall netMgmtPs settings type params)
  else psTimeoutCall netMgmtPs settings type params

/-- `handle_set_ps_config_request` -/
def handleSetPsConfigRequest (board : Board) (ifaceIndex : Nat)
    (config : Option PsConfigRequest) : PsServed :=
  match resolveWifiIface board.radio ifaceIndex with
  | none =>
      { calls := []
        result :=
          (refuse (-enodev) "Interface not found for PS config").result }
  | some iface =>
      match config with
      | some { psSettings := some settings, type } =>
          psCall (board.netMgmtPs iface) settings.stateParams
            "Set PS state failed"
            (psListenIntervalCall (board.netMgmtPs iface) settings type
              settings.stateParams)
      | _ =>
          { calls := []
            result := (refuse (-einval) "PS config data missing").result }

/-- The status after one call. -/
def outcome (ret : Int) (failed done : String) : StatusResponse :=
  if ret ≠ 0 then
    { success := false, errorCode := ret, errorMessage := failed }
  else { success := true, errorCode := 0, errorMessage := done }

/-- `handle_send_raw_frame_request` -/
def handleSendRawFrameRequest (board : Board) (ifaceIndex : Nat)
    (frame : List UInt8) : StatusResponse :=
  match resolveWifiIface board.radio ifaceIndex with
  | none => (refuse (-enodev) "Interface not found").result
  | some iface =>
      outcome (board.wifiDataRawFrameTx iface frame) "Raw frame TX failed"
        "Raw frame transmitted"

/-- `handle_disable_raw_rx_request` -/
def handleDisableRawRxRequest (board : Board) (ifaceIndex : Nat) :
    StatusResponse :=
  match resolveWifiIface board.radio ifaceIndex with
  | none => (refuse (-enodev) "Interface not found").result
  | some iface =>
      outcome (board.wifiDataRawFrameRxDisable iface) "Raw RX disable failed"
        "Raw RX disabled"

/-- `EnableRawRxResponse` -/
structure EnableRawRxResponse where
  status : Int
  diag : RawRxDiag
  ifaceState : DeviceIfaceState
  deriving DecidableEq, Repr

/-- The diagnosis in a response that was not filled in. -/
def RawRxDiag.unset : RawRxDiag where
  socketFd := -1
  threadRunning := false
  framesReceived := 0
  currentMode := 0
  startZepStep := 0
  txSocketFd := 0
  txFramesSent := 0
  txInjectionRet := 0
  txSetupRet := 0
  txLastRet := 0
  txLastLen := 0
  txLastWifi := 0

/-- `handle_enable_raw_rx_request`; `WIFI_STATE_DISCONNECTED` is 0, the state
of a response that was not filled in. -/
def handleEnableRawRxRequest (board : Board) (ifaceIndex : Nat)
    (channel : UInt32) : EnableRawRxResponse :=
  match resolveWifiIface board.radio ifaceIndex with
  | none =>
      { status := -enodev, diag := .unset, ifaceState := .disconnected }
  | some iface =>
      { status := board.wifiDataRawFrameRxEnable iface channel
        diag := board.wifiDataRawRxDiag
        ifaceState :=
          if board.radio.netMgmt (.ifaceStatus iface) = 0 then
            board.radio.status.state
          else .disconnected }

end Wifi

end SerialLink
