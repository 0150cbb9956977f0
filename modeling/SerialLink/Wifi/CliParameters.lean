import Mathlib.Algebra.Group.Nat.Defs
import SerialLink.Wifi.Handlers

/-!
# Command line arguments on their way to the radio

`connect` and `ap enable` of the command line check some of their arguments
and put all of them into a request.  nanopb refuses a request with a byte
string that is longer than its array, and the handlers of the device have
checks of their own.  `Accepted` says what gets through all of this, and
`wanted` with which parameters; they are not translated from the source.

A key is put into two fields, so that the shorter one of them bounds it for
every security type.  It reaches the driver for PSK and SAE only, while WEP
and EAP ask for one too.
-/

namespace SerialLink

namespace Wifi

/-- `ConnectSecurityArg` -/
inductive ConnectSecurityArg where
  | none
  | wep
  | psk
  | sae
  | eap
  deriving DecidableEq, Repr

/-- `ConnectSecurityArg::to_proto` -/
def ConnectSecurityArg.toProto : ConnectSecurityArg → ProtoSecurityType
  | .none => .none
  | .wep => .wep
  | .psk => .psk
  | .sae => .sae
  | .eap => .eap

/-- `ApSecurityArg` -/
inductive ApSecurityArg where
  | none
  | wep
  | psk
  | sae
  deriving DecidableEq, Repr

/-- `ApSecurityArg::to_proto` -/
def ApSecurityArg.toProto : ApSecurityArg → ProtoSecurityType
  | .none => .none
  | .wep => .wep
  | .psk => .psk
  | .sae => .sae

/-- `ApBandArg` -/
inductive ApBandArg where
  | any
  | band2g4
  | band5g
  | band6g
  deriving DecidableEq, Repr

/-- `ApBandArg::to_proto` -/
def ApBandArg.toProto : ApBandArg → ProtoBand
  | .any => .any
  | .band2g4 => .band2Point4GHz
  | .band5g => .band5GHz
  | .band6g => .band6GHz

/-- The arguments of `connect`, with strings as their bytes. -/
structure ConnectArgs where
  ifaceIndex : UInt32
  ssid : List UInt8
  psk : Option (List UInt8)
  security : ConnectSecurityArg
  timeoutMs : UInt32
  deriving DecidableEq, Repr

/-- The arguments of `ap enable`. -/
structure ApEnableArgs where
  ifaceIndex : UInt32
  ssid : List UInt8
  channel : UInt32
  band : ApBandArg
  security : ApSecurityArg
  psk : Option (List UInt8)
  deriving DecidableEq, Repr

/-- The request of `connect_request_payload`.  An empty `bssid` is not on the
wire, and its array stays zero. -/
def connectRequest (ifaceIndex : UInt32) (ssid : List UInt8)
    (psk : Option (List UInt8)) (securityType : ProtoSecurityType)
    (timeoutMs : UInt32) : ConnectRequest where
  ifaceIndex := ifaceIndex.toNat
  ssid := ssid
  securityType := securityType
  psk := psk.getD []
  saePassword := psk.getD []
  channel := 0
  bssid := Vector.replicate 6 0
  timeoutMs := timeoutMs.toNat
  mfp := .optional
  band := .any
  eapIdentity := []
  eapPassword := []

/-- The parameters of `ap_enable_request_payload`. -/
def apEnableRequest (ssid : List UInt8) (channel : UInt32) (band : ProtoBand)
    (securityType : ProtoSecurityType) (psk : Option (List UInt8)) :
    ApEnableParams where
  ssid := ssid
  channel := channel.toNat
  band := band
  securityType := securityType
  psk := psk.getD []
  hiddenSsid := false
  beaconIntervalTu := 0
  dtimPeriod := 0

/-- The commands that take connection parameters. -/
inductive CliCommand where
  | connect (args : ConnectArgs)
  | apEnable (args : ApEnableArgs)
  deriving DecidableEq, Repr

namespace CliCommand

/-- What a command says where it ends before its request. -/
def check : CliCommand → Option String
  | .connect args =>
      if args.security ≠ .none ∧ args.psk = none then
        some "--psk is required for selected security mode"
      else none
  | .apEnable args =>
      if args.ssid = [] ∨ args.ssid.length > 32 then
        some "--ssid must be 1..=32 characters"
      else if (args.security = .psk ∨ args.security = .sae) ∧
          args.psk = none then
        some "--psk is required for PSK/SAE AP security"
      else none

def request : CliCommand → MgmtRequest
  | .connect args =>
      { requestId := .connect
        payload := some (.connectReq (connectRequest args.ifaceIndex args.ssid
          args.psk args.security.toProto args.timeoutMs)) }
  | .apEnable args =>
      { requestId := .apEnable
        payload := some (.apEnableReq args.ifaceIndex.toNat
          (some (apEnableRequest args.ssid args.channel args.band.toProto
            args.security.toProto args.psk))) }

end CliCommand

/-- The sizes of the arrays in `wifi.options`. -/
def ConnectRequest.Fits (request : ConnectRequest) : Prop :=
  request.ssid.length ≤ 32 ∧ request.psk.length ≤ 65 ∧
    request.saePassword.length ≤ 64 ∧ request.eapIdentity.length ≤ 64 ∧
    request.eapPassword.length ≤ 64

def ApEnableParams.Fits (params : ApEnableParams) : Prop :=
  params.ssid.length ≤ 32 ∧ params.psk.length ≤ 65

/-- No byte string of the request is longer than its array. -/
def MgmtRequest.Fits (request : MgmtRequest) : Prop :=
  match request.payload with
  | some (.connectReq request) => request.Fits
  | some (.apEnableReq _ (some params)) => params.Fits
  | _ => True

/-- The response to what cannot be decoded. -/
def undecodable : MgmtResponse where
  requestId := .unknown
  payload := some (refuse (-ebadmsg) "Request decode failed").status.result

/-- prost encodes any request, and nanopb decodes it if it fits.  The response
of the device arrives as it is. -/
structure MgmtCodec.Limited (codec : MgmtCodec) (radio : Radio)
    (request : MgmtRequest) : Prop where
  requests : ∃ bytes, codec.encodeRequest request = some bytes ∧
    (request.Fits → codec.decodeRequest bytes = some request) ∧
    (¬request.Fits → codec.decodeRequest bytes = none)
  responses : ∀ response,
    response = respond radio request ∨ response = undecodable →
      ∃ bytes, codec.encodeResponse response = some bytes ∧
        codec.decodeResponse bytes = some response

/-- `format_status_response` -/
def formatStatus (codec : MgmtCodec) (bytes : List UInt8) :
    Except String String :=
  match codec.decodeResponse bytes with
  | none => .error "Unable to decode status response"
  | some response =>
      match response.payload with
      | some (.statusResp status) =>
          if status.success then
            .ok (if status.errorMessage = "" then "Success"
              else "Success: " ++ status.errorMessage)
          else
            .error ("Failed: code=" ++ toString status.errorCode ++
              " message=" ++ status.errorMessage)
      | some _ => .error "Received non-status response payload"
      | none => .error "Empty response payload"

namespace CliCommand

variable (command : CliCommand) (codec : MgmtCodec) (radio : Radio)

/-- What the command prints, or what it dies of. -/
def outcome : Except String String :=
  match command.check with
  | some message => .error message
  | none =>
      formatStatus codec (processWifiMgmtRequest codec radio
        ((codec.encodeRequest command.request).getD []))

/-- The calls that the device makes for it. -/
def calls : List (NetRequest × Int) :=
  match command.check with
  | some _ => []
  | none =>
      match codec.decodeRequest
          ((codec.encodeRequest command.request).getD []) with
      | some request => (serve radio request).calls
      | none => []

end CliCommand

namespace ConnectArgs

def key (args : ConnectArgs) : List UInt8 := args.psk.getD []

/-- What gets through to the driver. -/
def Accepted (args : ConnectArgs) : Prop :=
  (args.security = .none ∨ args.psk ≠ none) ∧
    args.ssid ≠ [] ∧ args.ssid.length ≤ 32 ∧ args.key.length ≤ 64 ∧
    (args.security = .psk ∨ args.security = .sae → args.key ≠ [])

/-- The parameters of the call.  The seconds are rounded up, where that does
not wrap. -/
def wanted (args : ConnectArgs) : ConnectReqParams where
  ssid := some args.ssid
  psk := if args.security = .psk then some args.key else none
  saePassword := if args.security = .sae then some args.key else none
  eapIdentity := if args.security = .eap then some [] else none
  eapPassword := if args.security = .eap then some [] else none
  band := .band2Point4GHz
  channel := channelAny
  security :=
    match args.security with
    | .none => .none
    | .wep => .wep
    | .psk => .psk
    | .sae => .sae
    | .eap => .eap
  mfp := .optional
  bssid := Vector.replicate 6 0
  timeout :=
    if args.timeoutMs.toNat + 999 < 4294967296 then
      (args.timeoutMs.toNat + 999) / 1000
    else 0

end ConnectArgs

namespace ApEnableArgs

def key (args : ApEnableArgs) : List UInt8 := args.psk.getD []

def Accepted (args : ApEnableArgs) : Prop :=
  args.ssid ≠ [] ∧ args.ssid.length ≤ 32 ∧ args.key.length ≤ 64 ∧
    (args.security = .psk ∨ args.security = .sae → args.key ≠ []) ∧
    args.channel.toNat ≤ 233

/-- The parameters of the call; an access point gets whatever key is given. -/
def wanted (args : ApEnableArgs) : ConnectReqParams where
  ssid := some args.ssid
  psk := if args.key = [] then none else some args.key
  saePassword := none
  eapIdentity := none
  eapPassword := none
  band :=
    match args.band with
    | .any => .band2Point4GHz
    | .band2g4 => .band2Point4GHz
    | .band5g => .band5GHz
    | .band6g => .band6GHz
  channel :=
    if args.channel = 0 then channelAny else UInt8.ofNat args.channel.toNat
  security :=
    match args.security with
    | .none => .none
    | .wep => .wep
    | .psk => .psk
    | .sae => .sae
  mfp := .disable
  bssid := Vector.replicate 6 0
  timeout := 0

end ApEnableArgs

namespace CliCommand

def Accepted : CliCommand → Prop
  | .connect args => args.Accepted
  | .apEnable args => args.Accepted

def ifaceIndex : CliCommand → Nat
  | .connect args => args.ifaceIndex.toNat
  | .apEnable args => args.ifaceIndex.toNat

/-- The call that is wanted of the driver. -/
def call (iface : Nat) : CliCommand → NetRequest
  | .connect args => .connect iface args.wanted
  | .apEnable args => .apEnable iface args.wanted

/-- The checks of the handler. -/
def Admissible : CliCommand → Prop
  | .connect args =>
      (connectRequest args.ifaceIndex args.ssid args.psk
        args.security.toProto args.timeoutMs).Admissible
  | .apEnable args =>
      (apEnableRequest args.ssid args.channel args.band.toProto
        args.security.toProto args.psk).Admissible

theorem connect_accepted_iff (args : ConnectArgs) :
    args.Accepted ↔ check (.connect args) = none ∧
      (request (.connect args)).Fits ∧ Admissible (.connect args) := by
  obtain ⟨ifaceIndex, ssid, psk, security, timeoutMs⟩ := args
  simp only [ConnectArgs.Accepted, ConnectArgs.key, check, request,
    MgmtRequest.Fits, ConnectRequest.Fits, Admissible,
    ConnectRequest.Admissible, connectRequest, ssidMaxLen, maxPskLen,
    maxSaePasswordLen]
  cases security <;>
    simp [ConnectSecurityArg.toProto, protoToZephyrSecurity, takesPsk] <;>
    grind

theorem apEnable_accepted_iff (args : ApEnableArgs) :
    args.Accepted ↔ check (.apEnable args) = none ∧
      (request (.apEnable args)).Fits ∧ Admissible (.apEnable args) := by
  obtain ⟨ifaceIndex, ssid, channel, band, security, psk⟩ := args
  simp only [ApEnableArgs.Accepted, ApEnableArgs.key, check, request,
    MgmtRequest.Fits, ApEnableParams.Fits, Admissible,
    ApEnableParams.Admissible, apEnableRequest, ssidMaxLen, maxApPskLen]
  cases security <;>
    simp [ApSecurityArg.toProto, protoToZephyrSecurity, apSupports] <;>
    grind

variable (command : CliCommand) {codec : MgmtCodec} {radio : Radio}

/-- What gets through has passed three kinds of checks. -/
theorem accepted_iff : command.Accepted ↔
    command.check = none ∧ command.request.Fits ∧ command.Admissible := by
  cases command with
  | connect args => exact connect_accepted_iff args
  | apEnable args => exact apEnable_accepted_iff args

theorem toParams_connectRequest (args : ConnectArgs) :
    (connectRequest args.ifaceIndex args.ssid args.psk args.security.toProto
      args.timeoutMs).toParams = args.wanted := by
  have timeout : (args.timeoutMs.toNat + 999) % 2 ^ 32 / 1000 =
      if args.timeoutMs.toNat + 999 < 4294967296 then
        (args.timeoutMs.toNat + 999) / 1000
      else 0 := by
    have bounded := args.timeoutMs.toNat_lt
    split_ifs <;> omega
  unfold ConnectRequest.toParams ConnectArgs.wanted
  simp only [connectRequest, timeout]
  cases args.security <;> rfl

theorem toParams_apEnableRequest (args : ApEnableArgs) :
    (apEnableRequest args.ssid args.channel args.band.toProto
      args.security.toProto args.psk).toParams = args.wanted := by
  have channel : channelOfProto args.channel.toNat =
      if args.channel = 0 then channelAny
      else UInt8.ofNat args.channel.toNat := by
    unfold channelOfProto
    simp only [← UInt32.toNat_inj, UInt32.toNat_zero]
  unfold ApEnableParams.toParams ApEnableArgs.wanted
  simp only [apEnableRequest, channel]
  cases args.security <;> cases args.band <;> rfl

/-- How the handler of the command ends. -/
theorem serve_ends (radio : Radio) :
    ∃ served : Served StatusResponse,
      serve radio command.request = served.status ∧
      Ends radio command.ifaceIndex command.Admissible
        (fun iface => command.call iface) served := by
  cases command with
  | connect args =>
      have ends := handleConnectRequest_ends radio (connectRequest
        args.ifaceIndex args.ssid args.psk args.security.toProto
        args.timeoutMs)
      rw [toParams_connectRequest] at ends
      exact ⟨_, rfl, ends⟩
  | apEnable args =>
      have ends := handleApEnableRequest_ends radio args.ifaceIndex.toNat
        (apEnableRequest args.ssid args.channel args.band.toProto
          args.security.toProto args.psk)
      rw [toParams_apEnableRequest] at ends
      exact ⟨_, rfl, ends⟩

/-- A command that the device refuses, in whatever way. -/
structure Refused (codec : MgmtCodec) (radio : Radio) : Prop where
  calls : command.calls codec radio = []
  died : ∃ message, command.outcome codec radio = .error message

/-- A command whose call is made. -/
structure Performed (codec : MgmtCodec) (radio : Radio) (iface : Nat) :
    Prop where
  calls : command.calls codec radio =
    [(command.call iface, radio.netMgmt (command.call iface))]
  printed : (∃ message, command.outcome codec radio = .ok message) ↔
    radio.netMgmt (command.call iface) = 0

theorem formatStatus_cases (codec : MgmtCodec) {bytes : List UInt8}
    {response : MgmtResponse} {status : StatusResponse}
    (decoded : codec.decodeResponse bytes = some response)
    (payload : response.payload = some (.statusResp status)) :
    (status.success = true ∧ ∃ message,
        formatStatus codec bytes = .ok message) ∨
      (status.success = false ∧ ∃ message,
        formatStatus codec bytes = .error message) := by
  unfold formatStatus
  rw [decoded]
  dsimp only
  rw [payload]
  cases success : status.success with
  | true => exact .inl ⟨rfl, _, if_pos success⟩
  | false =>
      refine .inr ⟨rfl, _, if_neg ?_⟩
      rw [success]
      decide

/-- A request that does not fit is answered with an error. -/
theorem refused_of_not_fits (limited : codec.Limited radio command.request)
    (unfit : ¬command.request.Fits) : command.Refused codec radio := by
  obtain ⟨bytes, encoded, -, fails⟩ := limited.requests
  obtain ⟨response, answer, decoded⟩ :=
    limited.responses undecodable (.inr rfl)
  have unread := fails unfit
  have processed : processWifiMgmtRequest codec radio bytes = response := by
    unfold processWifiMgmtRequest
    rw [unread]
    exact congrArg (Option.getD · []) answer
  unfold undecodable at decoded
  constructor
  · unfold calls
    rw [encoded, Option.getD_some, unread]
    split <;> rfl
  · unfold outcome
    rw [encoded, Option.getD_some, processed]
    split
    · exact ⟨_, rfl⟩
    · rcases formatStatus_cases codec decoded rfl with
        ⟨success, -⟩ | ⟨-, died⟩
      · cases success
      · exact died

/-- What is printed and called where the request is decoded. -/
theorem outcome_of_fits (limited : codec.Limited radio command.request)
    (fits : command.request.Fits) (unchecked : command.check = none) :
    command.calls codec radio = (serve radio command.request).calls ∧
      ∀ status, (serve radio command.request).result = .statusResp status →
        (status.success = true ∧ ∃ message,
            command.outcome codec radio = .ok message) ∨
          (status.success = false ∧ ∃ message,
            command.outcome codec radio = .error message) := by
  obtain ⟨bytes, encoded, decodes, -⟩ := limited.requests
  obtain ⟨response, answer, decoded⟩ :=
    limited.responses (respond radio command.request) (.inl rfl)
  have processed : processWifiMgmtRequest codec radio bytes = response := by
    unfold processWifiMgmtRequest
    rw [decodes fits]
    exact congrArg (Option.getD · []) answer
  refine ⟨?_, ?_⟩
  · unfold calls
    rw [unchecked, encoded, Option.getD_some, decodes fits]
  · intro status told
    unfold outcome
    rw [unchecked, encoded, Option.getD_some, processed]
    exact formatStatus_cases codec decoded (congrArg some told)

/-- A request that fits into the arrays of nanopb is left to the checks of its
handler. -/
theorem performed_or_refused (limited : codec.Limited radio command.request)
    (fits : command.request.Fits) (checked : command.check = none) :
    (∀ iface, resolveWifiIface radio command.ifaceIndex = some iface →
        command.Admissible → command.Performed codec radio iface) ∧
      (resolveWifiIface radio command.ifaceIndex = none ∨
          ¬command.Admissible → command.Refused codec radio) := by
  obtain ⟨served, same, ends⟩ := command.serve_ends radio
  obtain ⟨calls, outcome⟩ := command.outcome_of_fits limited fits checked
  have told := outcome served.result (by rw [same]; rfl)
  rw [same] at calls
  cases ends with
  | refused errorCode errorMessage nonzero reason =>
      refine ⟨?_, fun _ => ⟨calls, ?_⟩⟩
      · intro iface found ok
        rcases reason with missing | refused
        · rw [missing] at found
          cases found
        · exact absurd ok refused
      · rcases told with ⟨success, -⟩ | ⟨-, died⟩
        · cases success
        · exact died
  | reported iface failed done found ok =>
      refine ⟨?_, ?_⟩
      · intro other same _
        rw [found] at same
        cases same
        refine ⟨calls, ?_⟩
        by_cases zero : radio.netMgmt (command.call iface) = 0
        · simp [report, zero] at told
          exact iff_of_true told zero
        · simp [report, zero] at told
          obtain ⟨message, died⟩ := told
          rw [died]
          simp [zero]
      · rintro (missing | refused)
        · rw [missing] at found
          cases found
        · exact absurd ok refused

/-- For all arguments of `connect` and `ap enable`: the driver is called with
what is wanted if the interface is there and the arguments are accepted, and
not at all otherwise.  The command prints a success if and only if the call is
made and succeeds. -/
theorem parameters_at_driver (codec : MgmtCodec) (radio : Radio)
    (limited : codec.Limited radio command.request) :
    (∀ iface, resolveWifiIface radio command.ifaceIndex = some iface →
        command.Accepted → command.Performed codec radio iface) ∧
      (resolveWifiIface radio command.ifaceIndex = none ∨
          ¬command.Accepted → command.Refused codec radio) := by
  cases checked : command.check with
  | some message =>
      have unaccepted : ¬command.Accepted := by
        rw [accepted_iff, checked]
        exact fun passed => absurd passed.1 (by simp)
      refine ⟨fun _ _ accepted => absurd accepted unaccepted, fun _ => ?_⟩
      constructor
      · unfold calls
        rw [checked]
      · unfold outcome
        rw [checked]
        exact ⟨message, rfl⟩
  | none =>
      by_cases fits : command.request.Fits
      · have accepted : command.Accepted ↔ command.Admissible := by
          rw [accepted_iff]
          exact ⟨fun passed => passed.2.2, fun ok => ⟨checked, fits, ok⟩⟩
        rw [accepted]
        exact command.performed_or_refused limited fits checked
      · have unaccepted : ¬command.Accepted := by
          rw [accepted_iff]
          exact fun passed => fits passed.2.1
        exact ⟨fun _ _ accepted => absurd accepted unaccepted,
          fun _ => command.refused_of_not_fits limited fits⟩

/-- `connect --ssid lab --psk abcde --security wep` with its default
timeout. -/
def wepArgs : ConnectArgs where
  ifaceIndex := 0
  ssid := [0x6C, 0x61, 0x62]
  psk := some [0x61, 0x62, 0x63, 0x64, 0x65]
  security := .wep
  timeoutMs := 10000

def wepRequestBytes : List UInt8 :=
  [0x08, 0x01, 0x12, 0x18, 0x12, 0x03, 0x6C, 0x61, 0x62, 0x18, 0x02, 0x22,
    0x05, 0x61, 0x62, 0x63, 0x64, 0x65, 0x32, 0x05, 0x61, 0x62, 0x63, 0x64,
    0x65, 0x58, 0x90, 0x4E]

def connectInitiatedBytes : List UInt8 :=
  [0x08, 0x01, 0x12, 0x15, 0x08, 0x01, 0x1A, 0x11, 0x43, 0x6F, 0x6E, 0x6E,
    0x65, 0x63, 0x74, 0x20, 0x69, 0x6E, 0x69, 0x74, 0x69, 0x61, 0x74, 0x65,
    0x64]

def undecodableBytes : List UInt8 :=
  [0x12, 0x22, 0x10, 0xB3, 0xFF, 0xFF, 0xFF, 0xFF, 0xFF, 0xFF, 0xFF, 0xFF,
    0x01, 0x1A, 0x15, 0x52, 0x65, 0x71, 0x75, 0x65, 0x73, 0x74, 0x20, 0x64,
    0x65, 0x63, 0x6F, 0x64, 0x65, 0x20, 0x66, 0x61, 0x69, 0x6C, 0x65, 0x64]

/-- The bytes of the request and of the two responses it may get. -/
def wepCodec : MgmtCodec where
  encodeRequest := fun request =>
    if request = CliCommand.request (.connect wepArgs) then
      some wepRequestBytes
    else none
  decodeRequest := fun bytes =>
    if bytes = wepRequestBytes then
      some (CliCommand.request (.connect wepArgs))
    else none
  encodeResponse := fun response =>
    if response = undecodable then some undecodableBytes
    else if response =
        respond obligingRadio (request (.connect wepArgs)) then
      some connectInitiatedBytes
    else none
  decodeResponse := fun bytes =>
    if bytes = undecodableBytes then some undecodable
    else if bytes = connectInitiatedBytes then
      some (respond obligingRadio (request (.connect wepArgs)))
    else none

theorem wepCodec_limited :
    wepCodec.Limited obligingRadio (request (.connect wepArgs)) where
  requests := by
    have fits : (request (.connect wepArgs)).Fits := by
      simp [request, MgmtRequest.Fits, ConnectRequest.Fits, connectRequest,
        wepArgs]
    exact ⟨wepRequestBytes, rfl, fun _ => rfl, fun unfit => absurd fits unfit⟩
  responses := by
    rintro response (rfl | rfl)
    · exact ⟨connectInitiatedBytes, rfl, rfl⟩
    · exact ⟨undecodableBytes, rfl, rfl⟩

/-- The driver is to connect without the key, and a success is printed. -/
theorem wep_key_lost :
    calls (.connect wepArgs) wepCodec obligingRadio =
        [(.connect 1 wepArgs.wanted, 0)] ∧
      wepArgs.wanted.psk = none ∧ wepArgs.wanted.saePassword = none ∧
      ∃ message,
        outcome (.connect wepArgs) wepCodec obligingRadio = .ok message := by
  have accepted : wepArgs.Accepted := by
    simp [ConnectArgs.Accepted, ConnectArgs.key, wepArgs]
  have performed := (parameters_at_driver (.connect wepArgs) wepCodec
    obligingRadio wepCodec_limited).1 1 rfl accepted
  exact ⟨performed.calls, rfl, rfl, performed.printed.mpr rfl⟩

end CliCommand

end Wifi

end SerialLink
