import SerialLink.Wifi.Commands

/-!
# Every management request and its response

`process_wifi_mgmt_request` over all request types, with the strings of the
response as the arrays that nanopb reads.  `set_status_error_msg_bytes` copies
into any of them with the bound of `error_message`, one less than its size, so
a zeroed `error_message` stays terminated whatever is copied.  The array of
`firmware_version` is half as long, and a longer string of the driver leaves
it without a terminator.
-/

namespace SerialLink

namespace Wifi

/-- `MAX_ERROR_MSG_LEN` -/
def maxErrorMsgLen : Nat := 63

/-- The arrays that `set_status_error_msg_bytes` copies into. -/
inductive Target where
  | errorMessage
  | firmwareVersion
  deriving DecidableEq, Repr

/-- `max_size` in `wifi.options` -/
def Target.size : Target → Nat
  | .errorMessage => 64
  | .firmwareVersion => 32

/-- A call of `set_status_error_msg_bytes`. -/
structure Write where
  target : Target
  msg : CString
  deriving DecidableEq, Repr

/-- `set_status_error_msg_bytes` -/
def setStatusErrorMsgBytes (targetBytesArray : Nat → UInt8) (msg : CString) :
    Nat → UInt8 :=
  CString.strncpy targetBytesArray msg maxErrorMsgLen

/-- What is copied of the string, and a terminator, stay in the array. -/
def Write.Fits (write : Write) : Prop :=
  min write.msg.strlen maxErrorMsgLen < write.target.size

instance (write : Write) : Decidable write.Fits :=
  inferInstanceAs (Decidable (_ < _))

/-- A zeroed array after some calls of `set_status_error_msg_bytes`. -/
def contents (target : Target) (msgs : List CString) : List UInt8 :=
  Region.slice (msgs.foldl setStatusErrorMsgBytes fun _ => 0) 0 target.size

/-- The payload of a `WifiMgmtRequest`: one of the driver's, or another. -/
inductive DevicePayload where
  | driver (payload : RequestPayload)
  | setPsConfigReq (ifaceIndex : Nat) (config : Option PsConfigRequest)
  | sendRawFrameReq (ifaceIndex : Nat) (frame : List UInt8)
  | enableRawRxReq (ifaceIndex : Nat) (channel : UInt32)
  | disableRawRxReq (ifaceIndex : Nat)
  deriving DecidableEq, Repr

/-- `WifiMgmtRequest`, with the number of its `RequestType`. -/
structure DeviceRequest where
  requestId : UInt32
  payload : Option DevicePayload
  deriving DecidableEq, Repr

/-- The cases of the switch. -/
inductive DeviceRequestType where
  | connect
  | disconnect
  | scan
  | apEnable
  | apDisable
  | getWifiVersion
  | setPsConfig
  | getPsConfig
  | setRegDomain
  | getRegDomain
  | getIfaceStatus
  | getProtocolVersion
  | sendRawFrame
  | enableRawRx
  | disableRawRx
  /-- `default` -/
  | unhandled
  deriving DecidableEq, Repr

/-- `RequestType` of the schema. -/
def DeviceRequestType.ofId (id : UInt32) : DeviceRequestType :=
  match id.toNat with
  | 1 => .connect
  | 2 => .disconnect
  | 3 => .scan
  | 4 => .apEnable
  | 5 => .apDisable
  | 6 => .getWifiVersion
  | 7 => .setPsConfig
  | 8 => .getPsConfig
  | 9 => .setRegDomain
  | 10 => .getRegDomain
  | 11 => .getIfaceStatus
  | 12 => .getProtocolVersion
  | 13 => .sendRawFrame
  | 14 => .enableRawRx
  | 15 => .disableRawRx
  | _ => .unhandled

def DeviceRequest.type (request : DeviceRequest) : DeviceRequestType :=
  .ofId request.requestId

/-- `which_payload` of a `WifiMgmtRequest`. -/
inductive RequestTag where
  | connectReq
  | disconnectReq
  | scanReq
  | apEnableReq
  | apDisableReq
  | getVersionReq
  | setPsConfigReq
  | getPsConfigReq
  | setRegDomainReq
  | getRegDomainReq
  | getIfaceStatusReq
  | sendRawFrameReq
  | enableRawRxReq
  | disableRawRxReq
  deriving DecidableEq, Repr

def DevicePayload.tag : DevicePayload → RequestTag
  | .driver (.connectReq _) => .connectReq
  | .driver (.disconnectReq _) => .disconnectReq
  | .driver (.scanReq _ _) => .scanReq
  | .driver (.apEnableReq _ _) => .apEnableReq
  | .driver (.apDisableReq _) => .apDisableReq
  | .driver .getVersionReq => .getVersionReq
  | .driver (.getPsConfigReq _) => .getPsConfigReq
  | .driver (.setRegDomainReq _ _) => .setRegDomainReq
  | .driver (.getRegDomainReq _) => .getRegDomainReq
  | .driver (.getIfaceStatusReq _) => .getIfaceStatusReq
  | .setPsConfigReq _ _ => .setPsConfigReq
  | .sendRawFrameReq _ _ => .sendRawFrameReq
  | .enableRawRxReq _ _ => .enableRawRxReq
  | .disableRawRxReq _ => .disableRawRxReq

/-- The payload of a request type in the schema; `GET_PROTOCOL_VERSION` has
none. -/
def DeviceRequestType.tag : DeviceRequestType → Option RequestTag
  | .connect => some .connectReq
  | .disconnect => some .disconnectReq
  | .scan => some .scanReq
  | .apEnable => some .apEnableReq
  | .apDisable => some .apDisableReq
  | .getWifiVersion => some .getVersionReq
  | .setPsConfig => some .setPsConfigReq
  | .getPsConfig => some .getPsConfigReq
  | .setRegDomain => some .setRegDomainReq
  | .getRegDomain => some .getRegDomainReq
  | .getIfaceStatus => some .getIfaceStatusReq
  | .getProtocolVersion => none
  | .sendRawFrame => some .sendRawFrameReq
  | .enableRawRx => some .enableRawRxReq
  | .disableRawRx => some .disableRawRxReq
  | .unhandled => none

def DeviceRequest.whichPayload (request : DeviceRequest) :
    Option RequestTag :=
  request.payload.map DevicePayload.tag

/-- The payload of a `WifiMgmtResponse`, with its strings as arrays. -/
inductive DeviceResponsePayload where
  | statusResp (success : Bool) (errorCode : Int) (errorMessage : List UInt8)
  | getVersionResp (hasVersion : Bool)
      (driverMajor driverMinor driverPatch : Nat)
      (firmwareVersion : List UInt8)
  | getPsConfigResp (config : PowerSaveConfig)
  | getRegDomainResp (countryCode : List UInt8) (forceUpdate : Bool)
      (channelInfo : List RegChanInfo)
  | getIfaceStatusResp (status : InterfaceStatus)
  | getProtocolVersionResp (major minor : Nat)
  | enableRawRxResp (response : EnableRawRxResponse)
  deriving DecidableEq, Repr

/-- `WifiMgmtResponse` -/
structure DeviceResponse where
  requestId : UInt32
  payload : DeviceResponsePayload
  deriving DecidableEq, Repr

/-- The size of `channel_info`. -/
def channelInfoSize : Nat := 64

/-- What nanopb asks of a payload: a string that is terminated in its array,
unless the submessage that holds it is absent, and no more bytes or entries
than an array has. -/
def DeviceResponsePayload.Encodable : DeviceResponsePayload → Prop
  | .statusResp _ _ errorMessage => CString.Terminated errorMessage
  | .getVersionResp hasVersion _ _ _ firmwareVersion =>
      hasVersion = true → CString.Terminated firmwareVersion
  | .getRegDomainResp countryCode _ channelInfo =>
      CString.Terminated countryCode ∧ channelInfo.length ≤ channelInfoSize
  | .getIfaceStatusResp status => status.ssid.length ≤ ssidMaxLen
  | .getPsConfigResp _ => True
  | .getProtocolVersionResp _ _ => True
  | .enableRawRxResp _ => True

instance (payload : DeviceResponsePayload) : Decidable payload.Encodable :=
  match payload with
  | .statusResp _ _ errorMessage =>
      inferInstanceAs (Decidable (CString.Terminated errorMessage))
  | .getVersionResp hasVersion _ _ _ firmwareVersion =>
      inferInstanceAs (Decidable (hasVersion = true →
        CString.Terminated firmwareVersion))
  | .getRegDomainResp countryCode _ channelInfo =>
      inferInstanceAs (Decidable (CString.Terminated countryCode ∧
        channelInfo.length ≤ channelInfoSize))
  | .getIfaceStatusResp status =>
      inferInstanceAs (Decidable (status.ssid.length ≤ ssidMaxLen))
  | .getPsConfigResp _ => isTrue trivial
  | .getProtocolVersionResp _ _ => isTrue trivial
  | .enableRawRxResp _ => isTrue trivial

/-- `pb_decode` of a request and `pb_encode` of a response into a buffer that
is large enough. -/
structure Nanopb where
  decodeRequest : List UInt8 → Option DeviceRequest
  encodeResponse : DeviceResponse → Option (List UInt8)

/-- A response has a payload, so its encoding is not empty. -/
structure Nanopb.Sound (nanopb : Nanopb) : Prop where
  encodes : ∀ response,
    (nanopb.encodeResponse response).isSome ↔ response.payload.Encodable
  nonempty : ∀ response, nanopb.encodeResponse response ≠ some []

/-- What the switch leaves: the strings it copied and the payload. -/
structure Filled where
  writes : List Write
  payload : DeviceResponsePayload
  deriving DecidableEq, Repr

/-- A status response whose handler copied `texts`, the last of them for
good. -/
def Filled.status (success : Bool) (errorCode : Int)
    (texts : List String) : Filled where
  writes := texts.map fun text => ⟨.errorMessage, .ofString text⟩
  payload :=
    .statusResp success errorCode
      (contents .errorMessage (texts.map .ofString))

/-- The handlers that set a failure first. -/
def Filled.handled (init : String) (status : StatusResponse) : Filled :=
  .status status.success status.errorCode [init, status.errorMessage]

/-- The GET handlers, which copy a string only where they fail. -/
def Filled.selected {α : Type} (retrieved : Except StatusResponse α)
    (tag : α → DeviceResponsePayload) : Filled :=
  match retrieved with
  | .error status =>
      .status status.success status.errorCode [status.errorMessage]
  | .ok data => { writes := [], payload := tag data }

namespace Board

variable (board : Board)

/-- `NET_REQUEST_WIFI_VERSION` -/
def versionRet : Int :=
  board.radio.netMgmt (.version board.radio.defaultIface)

/-- The string `handle_get_version_request` copies. -/
def versionText : CString :=
  if board.versionRet = 0 then board.firmware.getD (.ofString "N/A")
  else .ofString "Failed to get version"

/-- `handle_get_version_request` -/
def handleGetVersionRequest : Filled where
  writes := [⟨.firmwareVersion, board.versionText⟩]
  payload :=
    .getVersionResp (decide (board.versionRet = 0)) 0 0 0
      (contents .firmwareVersion [board.versionText])

/-- The regulatory domain in a response. -/
def regDomainResp (regDomain : RegDomain) : DeviceResponsePayload :=
  .getRegDomainResp [regDomain.countryCode.1, regDomain.countryCode.2, 0]
    regDomain.forceUpdate
    (Region.slice board.chanBuf 0 (min board.numChannels channelInfoSize))

/-- The switch of `process_wifi_mgmt_request`. -/
def dispatch (request : DeviceRequest) : Filled :=
  let radio := board.radio
  match request.type, request.payload with
  | .connect, some (.driver (.connectReq connect)) =>
      .handled "Connect handler init error"
        (handleConnectRequest radio connect).result
  | .disconnect, some (.driver (.disconnectReq ifaceIndex)) =>
      .handled "Disconnect handler init error"
        (handleDisconnectRequest radio ifaceIndex).result
  | .scan, some (.driver (.scanReq ifaceIndex params)) =>
      .handled "Scan handler init error"
        (handleScanRequest radio ifaceIndex params).result
  | .apEnable, some (.driver (.apEnableReq ifaceIndex params)) =>
      .handled "AP enable handler init error"
        (handleApEnableRequest radio ifaceIndex params).result
  | .apDisable, some (.driver (.apDisableReq ifaceIndex)) =>
      .handled "AP disable handler init error"
        (handleApDisableRequest radio ifaceIndex).result
  | .getWifiVersion, some (.driver .getVersionReq) =>
      board.handleGetVersionRequest
  | .setPsConfig, some (.setPsConfigReq ifaceIndex config) =>
      .handled "Set PS config handler init error"
        (handleSetPsConfigRequest board ifaceIndex config).result
  | .getPsConfig, some (.driver (.getPsConfigReq ifaceIndex)) =>
      .selected (handleGetPsConfigRequest radio ifaceIndex).result
        .getPsConfigResp
  | .setRegDomain, some (.driver (.setRegDomainReq ifaceIndex regDomain)) =>
      .handled "Set RegDomain handler init error"
        (handleSetRegDomainRequest radio ifaceIndex regDomain).result
  | .getRegDomain, some (.driver (.getRegDomainReq ifaceIndex)) =>
      .selected (handleGetRegDomainRequest radio ifaceIndex).result
        board.regDomainResp
  | .getIfaceStatus, some (.driver (.getIfaceStatusReq ifaceIndex)) =>
      .selected (handleGetIfaceStatusRequest radio ifaceIndex).result
        .getIfaceStatusResp
  | .sendRawFrame, some (.sendRawFrameReq ifaceIndex frame) =>
      .handled "Raw frame TX handler init error"
        (handleSendRawFrameRequest board ifaceIndex frame)
  | .enableRawRx, some (.enableRawRxReq ifaceIndex channel) =>
      { writes := []
        payload :=
          .enableRawRxResp
            (handleEnableRawRxRequest board ifaceIndex channel) }
  | .disableRawRx, some (.disableRawRxReq ifaceIndex) =>
      .handled "Raw RX disable handler init error"
        (handleDisableRawRxRequest board ifaceIndex)
  | .getProtocolVersion, _ =>
      { writes := [], payload := .getProtocolVersionResp 1 2 }
  | .unhandled, _ =>
      .status false (-enotsup) ["Unsupported request type"]
  | _, _ =>
      .status false (-ebadmsg) ["Payload type mismatch for request ID"]

/-- What `process_wifi_mgmt_request` does: the strings it copies, the response
it gives to `pb_encode`, and the bytes it leaves. -/
structure Processed where
  writes : List Write
  response : DeviceResponse
  bytes : List UInt8

/-- The end of `process_wifi_mgmt_request`. -/
def finish (nanopb : Nanopb) (requestId : UInt32) (filled : Filled) :
    Processed where
  writes := filled.writes
  response := { requestId, payload := filled.payload }
  bytes :=
    (nanopb.encodeResponse { requestId, payload := filled.payload }).getD []

/-- `process_wifi_mgmt_request` -/
def processWifiMgmtRequest (nanopb : Nanopb) (bytes : List UInt8) :
    Processed :=
  match nanopb.decodeRequest bytes with
  | none =>
      finish nanopb 0 (.status false (-ebadmsg) ["Request decode failed"])
  | some request =>
      finish nanopb request.requestId (board.dispatch request)

/-- The bytes are those of the response, or there are none. -/
theorem finish_bytes_ne_nil_iff {nanopb : Nanopb} (sound : nanopb.Sound)
    (requestId : UInt32) (filled : Filled) :
    (finish nanopb requestId filled).bytes ≠ [] ↔
      filled.payload.Encodable := by
  have encodes := sound.encodes { requestId, payload := filled.payload }
  have nonempty := sound.nonempty { requestId, payload := filled.payload }
  rw [← encodes]
  simp only [finish]
  cases encoded : nanopb.encodeResponse
      { requestId, payload := filled.payload } with
  | none => simp
  | some bytes =>
      rw [encoded] at nonempty
      simpa using nonempty

theorem finish_encoded {nanopb : Nanopb} {requestId : UInt32}
    {filled : Filled}
    (nonempty : (finish nanopb requestId filled).bytes ≠ []) :
    nanopb.encodeResponse (finish nanopb requestId filled).response =
      some (finish nanopb requestId filled).bytes := by
  simp only [finish] at nonempty ⊢
  cases encoded : nanopb.encodeResponse
      { requestId, payload := filled.payload } with
  | none => simp [encoded] at nonempty
  | some bytes => rfl

end Board

section Strings

/-- Of several copies into one array the last stays. -/
theorem contents_concat (target : Target) (msgs : List CString)
    (msg : CString) : contents target (msgs ++ [msg]) =
      contents target [msg] := by
  have hidden : ∀ region : Nat → UInt8,
      setStatusErrorMsgBytes (msgs.foldl setStatusErrorMsgBytes region) msg =
        setStatusErrorMsgBytes region msg := by
    induction msgs with
    | nil => exact fun _ => rfl
    | cons first rest ih =>
        intro region
        rw [List.foldl_cons, ih]
        exact CString.strncpy_strncpy _ _ _ _
  simp [contents, List.foldl_append, hidden]

/-- `error_message` has a byte that no copy reaches. -/
theorem terminated_errorMessage (msgs : List CString) :
    CString.Terminated (contents .errorMessage msgs) := by
  rcases List.eq_nil_or_concat msgs with rfl | ⟨earlier, last, rfl⟩
  · decide
  · rw [List.concat_eq_append, contents_concat]
    exact CString.terminated_of_count_lt last (by decide) rfl

/-- `firmware_version` is a string where the text has less than 32
characters, which is also where the copy fits. -/
theorem terminated_firmwareVersion_iff (text : CString) :
    CString.Terminated (contents .firmwareVersion [text]) ↔
      Write.Fits ⟨.firmwareVersion, text⟩ := by
  have copied := CString.terminated_iff_strlen_lt (fun _ => 0) text
    (show Target.firmwareVersion.size ≤ maxErrorMsgLen by decide)
  have fits : Write.Fits ⟨.firmwareVersion, text⟩ ↔ text.strlen < 32 := by
    simp only [Write.Fits, Target.size, maxErrorMsgLen]
    omega
  rw [fits]
  exact copied

theorem errorMessage_fits (text : CString) :
    Write.Fits ⟨.errorMessage, text⟩ := by
  simp only [Write.Fits, Target.size, maxErrorMsgLen]
  omega

end Strings

/-- What the switch must leave for a response to be sent. -/
structure Filled.Harmless (filled : Filled) : Prop where
  encodable : filled.payload.Encodable
  fits : ∀ write ∈ filled.writes, write.Fits

namespace Filled

theorem status_harmless (success : Bool) (errorCode : Int)
    (texts : List String) : (status success errorCode texts).Harmless where
  encodable := terminated_errorMessage _
  fits := by
    intro write member
    obtain ⟨text, -, rfl⟩ := List.mem_map.mp member
    exact errorMessage_fits _

theorem selected_harmless {α : Type} (retrieved : Except StatusResponse α)
    (tag : α → DeviceResponsePayload)
    (encodable : ∀ data, retrieved = .ok data → (tag data).Encodable) :
    (selected retrieved tag).Harmless := by
  cases retrieved with
  | error status => exact status_harmless _ _ _
  | ok data =>
      exact ⟨encodable data rfl, fun write member =>
        absurd member List.not_mem_nil⟩

end Filled

/-- The SSID of an interface status is cut to nothing where it is longer than
its array. -/
theorem length_toProto_ssid (status : DeviceStatus) :
    status.toProto.ssid.length ≤ ssidMaxLen := by
  simp only [DeviceStatus.toProto]
  split
  · assumption
  · simp

theorem retrieve_ok {α : Type} {radio : Radio} {ifaceIndex : Nat}
    {request : Nat → NetRequest} {data got : α} {missing failed : String}
    (ok : (retrieve radio ifaceIndex request data missing failed).result =
      .ok got) : got = data := by
  unfold retrieve at ok
  split at ok
  · cases ok
  · dsimp only at ok
    split at ok
    · cases ok
    · cases ok
      rfl

/-- A request for the firmware version. -/
def DeviceRequest.AsksVersion (request : DeviceRequest) : Prop :=
  request.type = .getWifiVersion ∧
    request.whichPayload = some .getVersionReq

namespace Board

variable (board : Board)

/-- The driver reports a firmware version that its array cannot hold. -/
def LongFirmware : Prop :=
  board.versionRet = 0 ∧
    ∃ firmware, board.firmware = some firmware ∧
      Target.firmwareVersion.size ≤ firmware.strlen

theorem versionText_fits_iff :
    Write.Fits ⟨.firmwareVersion, board.versionText⟩ ↔
      ¬board.LongFirmware := by
  by_cases zero : board.versionRet = 0
  · cases known : board.firmware with
    | none =>
        have fits : Write.Fits ⟨.firmwareVersion, .ofString "N/A"⟩ := by
          decide
        simp [versionText, LongFirmware, zero, known, fits]
    | some firmware =>
        simp only [versionText, LongFirmware, zero, known, if_true,
          Option.getD_some, Write.Fits, Target.size, maxErrorMsgLen,
          Option.some.injEq, exists_eq_left', true_and]
        omega
  · have fits :
        Write.Fits ⟨.firmwareVersion, .ofString "Failed to get version"⟩ := by
      decide
    simp [versionText, LongFirmware, zero, fits]

theorem handleGetVersionRequest_harmless_iff :
    board.handleGetVersionRequest.Harmless ↔ ¬board.LongFirmware := by
  rw [← versionText_fits_iff]
  constructor
  · intro harmless
    exact harmless.fits _ (List.mem_singleton.mpr rfl)
  · intro fits
    refine ⟨fun _ => (terminated_firmwareVersion_iff _).mpr fits, ?_⟩
    intro write member
    rw [List.mem_singleton.mp member]
    exact fits

theorem dispatch_of_asksVersion {request : DeviceRequest}
    (asks : request.AsksVersion) :
    board.dispatch request = board.handleGetVersionRequest := by
  obtain ⟨type, tag⟩ := asks
  obtain ⟨payload, carried, isVersion⟩ := Option.map_eq_some_iff.mp tag
  have version : payload = .driver .getVersionReq := by
    revert isVersion
    cases payload with
    | driver payload => cases payload <;> simp [DevicePayload.tag]
    | _ => simp [DevicePayload.tag]
  simp [dispatch, type, carried, version]

/-- Every other request gets a response that nanopb encodes. -/
theorem dispatch_harmless {request : DeviceRequest}
    (other : ¬request.AsksVersion) : (board.dispatch request).Harmless := by
  unfold dispatch
  dsimp only
  split
  -- The version is excluded, the GET handlers and those without a status come
  -- next, and the rest are statuses.
  case h_6 type payload =>
    exact absurd ⟨type, by simp [DeviceRequest.whichPayload, payload,
      DevicePayload.tag]⟩ other
  case h_8 => exact Filled.selected_harmless _ _ fun _ _ => trivial
  case h_10 =>
    refine Filled.selected_harmless _ _ fun regDomain _ => ⟨?_, ?_⟩
    · simp [CString.Terminated]
    · rw [Region.length_slice]
      exact Nat.min_le_right _ _
  case h_11 =>
    refine Filled.selected_harmless _ _ fun status ok => ?_
    rw [retrieve_ok ok]
    exact length_toProto_ssid _
  case h_13 => exact ⟨trivial, fun _ member => absurd member List.not_mem_nil⟩
  case h_15 => exact ⟨trivial, fun _ member => absurd member List.not_mem_nil⟩
  all_goals exact Filled.status_harmless _ _ _

theorem dispatch_harmless_iff (request : DeviceRequest) :
    (board.dispatch request).Harmless ↔
      ¬(request.AsksVersion ∧ board.LongFirmware) := by
  by_cases asks : request.AsksVersion
  · rw [board.dispatch_of_asksVersion asks,
      board.handleGetVersionRequest_harmless_iff]
    simp [asks]
  · simp [asks, board.dispatch_harmless asks]

theorem dispatch_of_mismatch {request : DeviceRequest} {tag : RequestTag}
    (expected : request.type.tag = some tag)
    (other : request.whichPayload ≠ some tag) :
    board.dispatch request =
      .status false (-ebadmsg) ["Payload type mismatch for request ID"] := by
  unfold dispatch
  dsimp only
  split <;>
    simp_all [DeviceRequest.whichPayload, DeviceRequestType.tag,
      DevicePayload.tag]

theorem dispatch_of_unhandled {request : DeviceRequest}
    (unhandled : request.type = .unhandled) :
    board.dispatch request =
      .status false (-enotsup) ["Unsupported request type"] := by
  simp [dispatch, unhandled]

end Board

section Driver

/-- The number of a request type of the driver. -/
def RequestType.toId : RequestType → UInt32
  | .unknown => 0
  | .connect => 1
  | .disconnect => 2
  | .scan => 3
  | .apEnable => 4
  | .apDisable => 5
  | .getWifiVersion => 6
  | .getPsConfig => 8
  | .setRegDomain => 9
  | .getRegDomain => 10
  | .getIfaceStatus => 11

/-- A request of the driver as the device decodes it. -/
def MgmtRequest.toDevice (request : MgmtRequest) : DeviceRequest where
  requestId := request.requestId.toId
  payload := request.payload.map .driver

/-- A payload of `serve` as the device has it in memory. -/
inductive Renders : ResponsePayload → DeviceResponsePayload → Prop where
  | status (status : StatusResponse) :
      Renders (.statusResp status)
        (.statusResp status.success status.errorCode
          (contents .errorMessage [.ofString status.errorMessage]))
  | version (version : Version) :
      Renders (.getVersionResp (some version))
        (.getVersionResp true version.driverMajor version.driverMinor
          version.driverPatch
          (contents .firmwareVersion [.ofString version.firmwareVersion]))
  | noVersion (firmwareVersion : List UInt8) :
      Renders (.getVersionResp none)
        (.getVersionResp false 0 0 0 firmwareVersion)
  | psConfig (config : PowerSaveConfig) :
      Renders (.getPsConfigResp (some config)) (.getPsConfigResp config)
  | regDomain (regDomain : RegDomain) (channelInfo : List RegChanInfo) :
      Renders (.getRegDomainResp (some regDomain))
        (.getRegDomainResp
          [regDomain.countryCode.1, regDomain.countryCode.2, 0]
          regDomain.forceUpdate channelInfo)
  | ifaceStatus (status : InterfaceStatus) :
      Renders (.getIfaceStatusResp (some status))
        (.getIfaceStatusResp status)

theorem Renders.handled (init : String) (served : Served StatusResponse) :
    Renders served.status.result
      (Filled.handled init served.result).payload := by
  have last := contents_concat .errorMessage [.ofString init]
    (.ofString served.result.errorMessage)
  simp only [Filled.handled, Filled.status, List.map_cons, List.map_nil]
  rw [List.singleton_append] at last
  rw [last]
  exact .status _

theorem Renders.selected {α : Type}
    {served : Served (Except StatusResponse α)}
    {tag : Option α → ResponsePayload} {deviceTag : α → DeviceResponsePayload}
    (data : ∀ data, Renders (tag (some data)) (deviceTag data)) :
    Renders (served.select tag).result
      (Filled.selected served.result deviceTag).payload := by
  simp only [Served.select, Filled.selected]
  cases served.result with
  | error status => exact .status status
  | ok retrieved => exact data retrieved

theorem Renders.getVersion {board : Board}
    (same : board.firmware = board.radio.fwVersion.map .ofString) :
    Renders (.getVersionResp (handleGetVersionRequest board.radio).result)
      board.handleGetVersionRequest.payload := by
  by_cases zero : board.radio.netMgmt (.version board.radio.defaultIface) = 0
  · have text : board.versionText =
        .ofString (board.radio.fwVersion.getD "N/A") := by
      cases known : board.radio.fwVersion <;>
        simp [Board.versionText, Board.versionRet, zero, same, known]
    simp only [handleGetVersionRequest, zero, if_true,
      Board.handleGetVersionRequest, Board.versionRet, decide_true, text]
    exact .version _
  · simp only [handleGetVersionRequest, zero, if_false,
      Board.handleGetVersionRequest, Board.versionRet, decide_false]
    exact .noVersion _

/-- For the requests of the driver the switch leaves what `serve` answers. -/
theorem Board.dispatch_renders (board : Board) (request : MgmtRequest)
    (same : board.firmware = board.radio.fwVersion.map .ofString) :
    Renders (serve board.radio request).result
      (board.dispatch request.toDevice).payload := by
  obtain ⟨requestId, payload⟩ := request
  have mismatch : Renders
      (refuse (-ebadmsg) "Payload type mismatch for request ID").status.result
      (Filled.status false (-ebadmsg)
        ["Payload type mismatch for request ID"]).payload :=
    .status _
  unfold serve
  dsimp only
  split
  · exact .handled _ _
  · exact .handled _ _
  · exact .handled _ _
  · exact .handled _ _
  · exact .handled _ _
  · exact .getVersion same
  · exact .selected .psConfig
  · exact .handled _ _
  · exact .selected fun regDomain => .regDomain regDomain _
  · exact .selected .ifaceStatus
  · exact .status _
  · rcases payload with _ | payload
    · cases requestId <;> first | contradiction | exact mismatch
    · cases requestId <;> cases payload <;>
        first | exact mismatch | simp at *

end Driver

/-- The tags that the switch asks for.  `GET_PROTOCOL_VERSION` has no payload
in the schema, and the switch takes it with any. -/
def DeviceRequest.CheckedTag (request : DeviceRequest) : Prop :=
  request.type.tag = none ∨ request.whichPayload = request.type.tag

/-- The same, where a request type without a payload must come without
one. -/
def DeviceRequest.OwnTag (request : DeviceRequest) : Prop :=
  request.type = .unhandled ∨ request.whichPayload = request.type.tag

/-- A payload on `GET_PROTOCOL_VERSION`. -/
def DeviceRequest.StrayPayload (request : DeviceRequest) : Prop :=
  request.type = .getProtocolVersion ∧ request.whichPayload ≠ none

/-- A failure with this error. -/
def DeviceResponse.Reports (response : DeviceResponse) (errorCode : Int) :
    Prop :=
  ∃ errorMessage,
    response.payload = .statusResp false errorCode errorMessage

/-- The response that a management request must get, where `fits` tells which
payloads belong to a request type. -/
structure Answered (fits : DeviceRequest → Prop) (nanopb : Nanopb)
    (bytes : List UInt8) (processed : Board.Processed) : Prop where
  nonempty : processed.bytes ≠ []
  encoded :
    nanopb.encodeResponse processed.response = some processed.bytes
  echoes : processed.response.requestId =
    ((nanopb.decodeRequest bytes).map DeviceRequest.requestId).getD 0
  undecodable : nanopb.decodeRequest bytes = none →
    processed.response.Reports (-ebadmsg)
  mismatch : ∀ request, nanopb.decodeRequest bytes = some request →
    ¬fits request → processed.response.Reports (-ebadmsg)
  unknown : ∀ request, nanopb.decodeRequest bytes = some request →
    request.type = .unhandled → processed.response.Reports (-enotsup)
  fits : ∀ write ∈ processed.writes, write.Fits

namespace Board

variable {nanopb : Nanopb} {board : Board} {bytes : List UInt8}

/-- The request asks for a firmware version that its array cannot hold. -/
def AsksLongVersion (nanopb : Nanopb) (board : Board) (bytes : List UInt8) :
    Prop :=
  ∃ request, nanopb.decodeRequest bytes = some request ∧
    request.AsksVersion ∧ board.LongFirmware

/-- The request is one for the protocol version and has a payload. -/
def HasStrayPayload (nanopb : Nanopb) (bytes : List UInt8) : Prop :=
  ∃ request, nanopb.decodeRequest bytes = some request ∧
    request.StrayPayload

theorem answered_undecodable (sound : nanopb.Sound)
    (fits : DeviceRequest → Prop)
    (undecodable : nanopb.decodeRequest bytes = none) :
    Answered fits nanopb bytes (board.processWifiMgmtRequest nanopb bytes) := by
  have harmless := Filled.status_harmless false (-ebadmsg)
    ["Request decode failed"]
  have nonempty := (finish_bytes_ne_nil_iff sound 0 _).mpr harmless.encodable
  simp only [processWifiMgmtRequest, undecodable]
  exact
    { nonempty
      encoded := finish_encoded nonempty
      echoes := by simp [finish, undecodable]
      undecodable := fun _ => ⟨_, rfl⟩
      mismatch := by simp [undecodable]
      unknown := by simp [undecodable]
      fits := harmless.fits }

/-- A decoded request is answered where what the switch leaves can be sent
and every payload that does not fit is one that the switch refuses. -/
theorem answered_decoded (sound : nanopb.Sound)
    {fits : DeviceRequest → Prop} {request : DeviceRequest}
    (decoded : nanopb.decodeRequest bytes = some request)
    (harmless : (board.dispatch request).Harmless)
    (refused : ¬fits request → ¬request.CheckedTag) :
    Answered fits nanopb bytes
      (board.processWifiMgmtRequest nanopb bytes) := by
  have nonempty := (finish_bytes_ne_nil_iff sound request.requestId
    (board.dispatch request)).mpr harmless.encodable
  have mismatch : ¬fits request →
      (finish nanopb request.requestId
        (board.dispatch request)).response.Reports (-ebadmsg) := by
    intro unfit
    obtain ⟨tagged, other⟩ := not_or.mp (refused unfit)
    obtain ⟨tag, expected⟩ := Option.ne_none_iff_exists'.mp tagged
    rw [expected] at other
    rw [board.dispatch_of_mismatch expected other]
    exact ⟨_, rfl⟩
  have unknown : request.type = .unhandled →
      (finish nanopb request.requestId
        (board.dispatch request)).response.Reports (-enotsup) := by
    intro unhandled
    rw [board.dispatch_of_unhandled unhandled]
    exact ⟨_, rfl⟩
  simp only [processWifiMgmtRequest, decoded]
  exact
    { nonempty
      encoded := finish_encoded nonempty
      echoes := by simp [finish, decoded]
      undecodable := by simp [decoded]
      mismatch := by simpa [decoded] using mismatch
      unknown := by simpa [decoded] using unknown
      fits := harmless.fits }

theorem harmless_of_answered (sound : nanopb.Sound)
    {fits : DeviceRequest → Prop} {request : DeviceRequest}
    (decoded : nanopb.decodeRequest bytes = some request)
    (answered : Answered fits nanopb bytes
      (board.processWifiMgmtRequest nanopb bytes)) :
    (board.dispatch request).Harmless := by
  simp only [processWifiMgmtRequest, decoded] at answered
  exact ⟨(finish_bytes_ne_nil_iff sound _ _).mp answered.nonempty,
    answered.fits⟩

/-- `GET_PROTOCOL_VERSION` is answered with the version, whatever comes with
it. -/
theorem not_strayPayload_of_answered {request : DeviceRequest}
    (decoded : nanopb.decodeRequest bytes = some request)
    (answered : Answered DeviceRequest.OwnTag nanopb bytes
      (board.processWifiMgmtRequest nanopb bytes)) :
    ¬request.StrayPayload := by
  rintro ⟨type, carried⟩
  have unfit : ¬request.OwnTag := by
    simp [DeviceRequest.OwnTag, type, DeviceRequestType.tag, carried]
  obtain ⟨errorMessage, reported⟩ := answered.mismatch request decoded unfit
  simp [processWifiMgmtRequest, decoded, finish, dispatch, type] at reported

/-- Every management request gets its response, unless it asks for the
firmware version and the driver reports one of 32 characters or more.  Where
a payload on `GET_PROTOCOL_VERSION` counts as one that does not fit, that
request must come without one besides. -/
theorem answered_iff (sound : nanopb.Sound) (board : Board)
    (bytes : List UInt8) :
    (Answered DeviceRequest.CheckedTag nanopb bytes
        (board.processWifiMgmtRequest nanopb bytes) ↔
      ¬AsksLongVersion nanopb board bytes) ∧
    (Answered DeviceRequest.OwnTag nanopb bytes
        (board.processWifiMgmtRequest nanopb bytes) ↔
      ¬AsksLongVersion nanopb board bytes ∧
        ¬HasStrayPayload nanopb bytes) := by
  cases decoded : nanopb.decodeRequest bytes with
  | none =>
      simp [AsksLongVersion, HasStrayPayload, decoded,
        answered_undecodable sound _ decoded]
  | some request =>
      have long : AsksLongVersion nanopb board bytes ↔
          request.AsksVersion ∧ board.LongFirmware := by
        simp [AsksLongVersion, decoded]
      have stray : HasStrayPayload nanopb bytes ↔ request.StrayPayload := by
        simp [HasStrayPayload, decoded]
      rw [long, stray, ← board.dispatch_harmless_iff request]
      refine ⟨⟨harmless_of_answered sound decoded, fun harmless =>
        answered_decoded sound decoded harmless fun unfit => unfit⟩, ?_⟩
      constructor
      · intro answered
        exact ⟨harmless_of_answered sound decoded answered,
          not_strayPayload_of_answered decoded answered⟩
      · rintro ⟨harmless, own⟩
        refine answered_decoded sound decoded harmless fun unfit => ?_
        obtain ⟨handled, other⟩ := not_or.mp unfit
        refine not_or.mpr ⟨fun untagged => ?_, other⟩
        -- The types without a tag are `unhandled` and the protocol version.
        have version : request.type = .getProtocolVersion := by
          revert untagged handled
          cases request.type <;> simp [DeviceRequestType.tag]
        rw [untagged] at other
        exact own ⟨version, other⟩

/-- A board whose driver reports a firmware version. -/
def reporting (firmware : CString) : Board where
  radio := obligingRadio
  firmware := some firmware
  numChannels := 0
  chanBuf := fun _ =>
    { centerFrequency := 0, maxPower := 0, supported := false
      passiveOnly := false, dfs := false }
  netMgmtPs := fun _ _ => 0
  wifiDataRawFrameTx := fun _ _ => 0
  wifiDataRawFrameRxEnable := fun _ _ => 0
  wifiDataRawFrameRxDisable := fun _ => 0
  wifiDataRawRxDiag := .unset

/-- `GET_WIFI_VERSION` with its payload. -/
def versionRequest : List UInt8 := [0x08, 0x06, 0x3A, 0x00]

/-- The response with the version 1.2.14. -/
def versionResponse : DeviceResponse where
  requestId := 6
  payload :=
    .getVersionResp true 0 0 0
      (contents .firmwareVersion [.ofString "1.2.14"])

/-- The bytes of one request and of one response; other responses have no
bytes of their own. -/
def versionNanopb : Nanopb where
  decodeRequest := fun bytes =>
    if bytes = versionRequest then
      some { requestId := 6, payload := some (.driver .getVersionReq) }
    else none
  encodeResponse := fun response =>
    if response.payload.Encodable then
      if response = versionResponse then
        some [0x08, 0x06, 0x1A, 0x0A, 0x0A, 0x08, 0x22, 0x06,
          0x31, 0x2E, 0x32, 0x2E, 0x31, 0x34]
      else some [0x12, 0x00]
    else none

theorem versionNanopb_sound : versionNanopb.Sound where
  encodes := by
    intro response
    simp only [versionNanopb]
    split
    · split <;> simp_all
    · simp_all
  nonempty := by
    intro response
    simp only [versionNanopb]
    split
    · split <;> simp
    · simp

theorem answered_short_version :
    versionNanopb.Sound ∧
      Answered DeviceRequest.OwnTag versionNanopb versionRequest
        ((reporting (.ofString "1.2.14")).processWifiMgmtRequest
          versionNanopb versionRequest) := by
  refine ⟨versionNanopb_sound,
    (answered_iff versionNanopb_sound _ _).2.mpr ⟨?_, ?_⟩⟩
  · rintro ⟨request, decoded, asks, zero, firmware, known, long⟩
    cases known
    exact absurd long (by decide)
  · rintro ⟨request, decoded, type, carried⟩
    cases decoded
    exact absurd type (by decide)

/-- A version of 32 characters gets no response. -/
theorem long_version_unanswered :
    versionNanopb.Sound ∧
      ((reporting ⟨List.replicate 32 0x41, by decide⟩).processWifiMgmtRequest
        versionNanopb versionRequest).bytes = [] ∧
      ¬Answered DeviceRequest.CheckedTag versionNanopb versionRequest
        ((reporting ⟨List.replicate 32 0x41, by decide⟩).processWifiMgmtRequest
          versionNanopb versionRequest) := by
  have silent :
      ((reporting ⟨List.replicate 32 0x41, by decide⟩).processWifiMgmtRequest
        versionNanopb versionRequest).bytes = [] := by
    decide
  exact ⟨versionNanopb_sound, silent, fun answered =>
    answered.nonempty silent⟩

end Board

end Wifi

end SerialLink
