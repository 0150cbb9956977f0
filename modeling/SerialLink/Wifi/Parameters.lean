import Mathlib.Tactic.MkIffOfInductiveProp
import SerialLink.Wifi.Operations

/-!
# Connection parameters on their way to the radio

`virt_wifi_connect` and `virt_wifi_ap_enable` put some of the parameters into
a request, and the handlers of the device make parameters for `net_mgmt` out
of it again.  `Preserved` says what should be the same on both sides; it is
not translated from the source.  The translations agree on few parameters: the
host sends no band, no SAE password and, for an access point, no channel, and
the device takes a security type it does not know for none.
-/

namespace SerialLink

namespace Wifi

/-- The variants of a security type that `zephyr_to_proto_security` merges. -/
def mergedSecurity : SecurityType → SecurityType
  | .psk => .psk
  | .wpaPsk => .psk
  | .wpaAutoPersonal => .psk
  | .sae => .sae
  | .saeH2e => .sae
  | .saeAuto => .sae
  | security => security

namespace ConnectReqParams

def pskBytes (params : ConnectReqParams) : List UInt8 :=
  params.psk.getD []

def saeBytes (params : ConnectReqParams) : List UInt8 :=
  params.saePassword.getD []

/-- The key of a connection: the SAE password, if one is given, for the SAE
types, and otherwise the PSK. -/
def keyOf (security : SecurityType) (psk saePassword : List UInt8) :
    List UInt8 :=
  match security with
  | .none => []
  | .eap => []
  | .sae => if saePassword = [] then psk else saePassword
  | _ => psk

def keyMaterial (params : ConnectReqParams) : List UInt8 :=
  keyOf (mergedSecurity params.security) params.pskBytes params.saeBytes

/-- The parameters passed on are those asked for. -/
@[mk_iff] structure Preserved (asked passed : ConnectReqParams) : Prop where
  ssid : passed.ssid.getD [] = asked.ssid.getD []
  security : mergedSecurity passed.security = mergedSecurity asked.security
  key : passed.keyMaterial = asked.keyMaterial
  channel : passed.channel = asked.channel
  band : passed.band = asked.band

end ConnectReqParams

/-- The two operations that take connection parameters. -/
inductive Purpose where
  | connect
  | apEnable
  deriving DecidableEq, Repr

namespace Purpose

def operation : Purpose → ConnectReqParams → Operation
  | .connect, params => .connect params
  | .apEnable, params => .apEnable params

/-- The `net_mgmt` call the operation is about. -/
def call : Purpose → Nat → ConnectReqParams → NetRequest
  | .connect, iface, params => .connect iface params
  | .apEnable, iface, params => .apEnable iface params

/-- Whenever the operation returns 0, the device has made its call with the
parameters asked for. -/
def Survives (purpose : Purpose) (params : ConnectReqParams) : Prop :=
  ∀ (codec : MgmtCodec) (radio : Radio),
    codec.Faithful (purpose.operation params).request
      (respond radio (purpose.operation params).request) →
    (purpose.operation params).returned codec (deliver codec radio) = 0 →
    ∃ iface passed,
      (serve radio (purpose.operation params).request).calls =
        [(purpose.call iface passed, 0)] ∧
      params.Preserved passed

/-- The handler's checks let the parameters through. -/
def Submitted : Purpose → ConnectReqParams → Prop
  | .connect, params =>
      0 < (params.ssid.getD []).length ∧ (params.ssid.getD []).length ≤ 32 ∧
      (mergedSecurity params.security = .psk ∨
          params.security = .pskSha256 →
        0 < params.pskBytes.length ∧ params.pskBytes.length ≤ 64) ∧
      mergedSecurity params.security ≠ .sae
  | .apEnable, params =>
      0 < (params.ssid.getD []).length ∧ (params.ssid.getD []).length ≤ 32 ∧
      params.security ≠ .eap ∧ params.security ≠ .wapi ∧
      params.security ≠ .pskSha256 ∧ params.pskBytes.length ≠ 65 ∧
      (mergedSecurity params.security = .psk ∨
          mergedSecurity params.security = .sae →
        0 < params.pskBytes.length ∧ params.pskBytes.length ≤ 64)

/-- A security type that the translators name. -/
def Named (security : SecurityType) : Prop :=
  ∀ code, security ≠ .other code

/-- The parameters are among those that both translations keep. -/
def Carried : Purpose → ConnectReqParams → Prop
  | .connect, params =>
      Named params.security ∧
      (params.security = .wep ∨ params.security = .wapi →
        params.pskBytes = []) ∧
      params.channel ≠ 0 ∧ params.band = .band2Point4GHz
  | .apEnable, params =>
      Named params.security ∧
      (params.security = .wep → params.pskBytes.length ≤ 64) ∧
      (mergedSecurity params.security = .sae →
        params.saeBytes = [] ∨ params.saeBytes = params.pskBytes) ∧
      params.channel = channelAny ∧ params.band = .band2Point4GHz

/-- What the handler makes of the parameters. -/
def passed : Purpose → ConnectReqParams → ConnectReqParams
  | .connect, params => params.toConnectRequest.toParams
  | .apEnable, params => params.toApEnableParams.toParams

/-- The checks of the handler, on what the operation sends. -/
def Admissible : Purpose → ConnectReqParams → Prop
  | .connect, params => params.toConnectRequest.Admissible
  | .apEnable, params => params.toApEnableParams.Admissible

variable (purpose : Purpose) (params : ConnectReqParams)

/-- How the handler of the operation ends. -/
theorem serve_ends (radio : Radio) :
    ∃ served : Served StatusResponse,
      serve radio (purpose.operation params).request = served.status ∧
      Ends radio virtWifiIfaceIndex (purpose.Admissible params)
        (fun iface => purpose.call iface (purpose.passed params)) served := by
  cases purpose with
  | connect =>
      exact ⟨_, rfl, handleConnectRequest_ends radio params.toConnectRequest⟩
  | apEnable =>
      exact ⟨_, rfl, handleApEnableRequest_ends radio virtWifiIfaceIndex
        params.toApEnableParams⟩

theorem call_injective {iface other : Nat} {params passed : ConnectReqParams}
    (same : purpose.call iface params = purpose.call other passed) :
    params = passed := by
  cases purpose <;> simp_all [call]

/-- The operation returns 0 exactly for a status that reports success. -/
theorem returned_eq_zero_iff {codec : MgmtCodec} {radio : Radio}
    {served : Served StatusResponse}
    (faithful : codec.Faithful (purpose.operation params).request
      (respond radio (purpose.operation params).request))
    (same : serve radio (purpose.operation params).request = served.status)
    (ends : Ends radio virtWifiIfaceIndex (purpose.Admissible params)
      (fun iface => purpose.call iface (purpose.passed params)) served) :
    (purpose.operation params).returned codec (deliver codec radio) = 0 ↔
      served.result.success = true := by
  have decoded : (purpose.operation params).result served.status.result =
      if served.result.success then 0 else served.result.errorCode := by
    cases purpose <;> rfl
  rw [Operation.returned_eq _ faithful, same, decoded]
  by_cases success : served.result.success = true
  · simp [success]
  · simp [success, ends.errorCode_ne_zero success]

end Purpose

namespace Purpose

variable (purpose : Purpose) (params : ConnectReqParams)

/-- The device decides on its checks alone which parameters it passes on. -/
theorem survives_iff_of_admissible :
    purpose.Survives params ↔
      (purpose.Admissible params →
        params.Preserved (purpose.passed params)) := by
  constructor
  · intro survives ok
    obtain ⟨served, same, ends⟩ := purpose.serve_ends params obligingRadio
    have found : resolveWifiIface obligingRadio virtWifiIfaceIndex = some 1 :=
      rfl
    have success := ends.success ok found (fun _ => rfl)
    have faithful := MgmtCodec.single_faithful
      (purpose.operation params).request []
      (respond obligingRadio (purpose.operation params).request) []
    obtain ⟨iface, passed, calls, preserved⟩ :=
      survives _ obligingRadio faithful
        ((purpose.returned_eq_zero_iff params faithful same ends).mpr success)
    obtain ⟨-, other, made⟩ := ends.of_success success
    rw [same, Served.status, made] at calls
    simp only [List.cons.injEq, Prod.mk.injEq, and_true] at calls
    rw [purpose.call_injective calls]
    exact preserved
  · intro kept codec radio faithful zero
    obtain ⟨served, same, ends⟩ := purpose.serve_ends params radio
    have success :=
      (purpose.returned_eq_zero_iff params faithful same ends).mp zero
    obtain ⟨ok, iface, calls⟩ := ends.of_success success
    rw [same]
    exact ⟨iface, purpose.passed params, calls, kept ok⟩

end Purpose

section Translation

/-- A byte string between 1 and `limit` bytes arrives within these bounds, and
no other does. -/
theorem copied_within {bound limit : Nat} (fits : limit ≤ bound)
    (bytes : Option (List UInt8)) :
    ¬(copied bound bytes = [] ∨ (copied bound bytes).length > limit) ↔
      0 < (bytes.getD []).length ∧ (bytes.getD []).length ≤ limit := by
  cases bytes with
  | none => simp [copied]
  | some bytes =>
      by_cases short : bytes.length ≤ bound
      · simp [copied, short, List.length_pos_iff]
      · simp only [copied, short, if_false, Option.getD_some]
        simp
        omega

theorem copied_eq {bound : Nat} {bytes : Option (List UInt8)}
    (short : (bytes.getD []).length ≤ bound) :
    copied bound bytes = bytes.getD [] := by
  cases bytes with
  | none => rfl
  | some bytes => exact if_pos short

theorem copied_eq_nil {bound : Nat} {bytes : Option (List UInt8)}
    (long : (bytes.getD []).length > bound) : copied bound bytes = [] := by
  cases bytes with
  | none => rfl
  | some bytes => exact if_neg (Nat.not_le_of_gt long)

def arrivedSecurity (security : SecurityType) : SecurityType :=
  protoToZephyrSecurity (zephyrToProtoSecurity security)

theorem takesPsk_arrived (security : SecurityType) :
    takesPsk (arrivedSecurity security) = true ↔
      mergedSecurity security = .psk ∨ security = .pskSha256 := by
  cases security <;>
    simp [takesPsk, arrivedSecurity, mergedSecurity, zephyrToProtoSecurity,
      protoToZephyrSecurity]

theorem arrivedSecurity_eq_sae (security : SecurityType) :
    arrivedSecurity security = .sae ↔ mergedSecurity security = .sae := by
  cases security <;>
    simp [arrivedSecurity, mergedSecurity, zephyrToProtoSecurity,
      protoToZephyrSecurity]

theorem arrivedSecurity_eq_psk (security : SecurityType) :
    arrivedSecurity security = .psk ↔ mergedSecurity security = .psk := by
  cases security <;>
    simp [arrivedSecurity, mergedSecurity, zephyrToProtoSecurity,
      protoToZephyrSecurity]

theorem apSupports_arrived (security : SecurityType) :
    apSupports (arrivedSecurity security) = true ↔
      security ≠ .eap ∧ security ≠ .wapi ∧ security ≠ .pskSha256 := by
  cases security <;>
    simp [apSupports, arrivedSecurity, zephyrToProtoSecurity,
      protoToZephyrSecurity]

/-- A security type arrives as one of its variants exactly if the translators
name it. -/
theorem mergedSecurity_arrived (security : SecurityType) :
    mergedSecurity (arrivedSecurity security) = mergedSecurity security ↔
      Purpose.Named security := by
  cases security <;>
    simp [arrivedSecurity, mergedSecurity, zephyrToProtoSecurity,
      protoToZephyrSecurity, Purpose.Named]

theorem channelOfProto_eq_iff (channel : UInt8) :
    channelOfProto channel.toNat = channel ↔ channel ≠ 0 := by
  by_cases zero : channel = 0
  · subst zero
    decide
  · have nonzero : channel.toNat ≠ 0 := by
      intro same
      exact zero (UInt8.toNat_inj.mp same)
    simp [channelOfProto, nonzero, zero]

end Translation

namespace Purpose

variable (params : ConnectReqParams)

theorem connect_admissible_iff :
    Admissible .connect params ↔ Submitted .connect params := by
  have ssid := copied_within (Nat.le_refl 32) params.ssid
  have psk := copied_within (show 64 ≤ 65 by decide) params.psk
  have takes := takesPsk_arrived params.security
  have sae := arrivedSecurity_eq_sae params.security
  change ¬(copied 32 params.ssid = [] ∨
      (copied 32 params.ssid).length > 32) ∧
    ¬(takesPsk (arrivedSecurity params.security) = true ∧
      (copied 65 params.psk = [] ∨ (copied 65 params.psk).length > 64)) ∧
    ¬(arrivedSecurity params.security = .sae ∧
      (([] : List UInt8) = [] ∨ 0 > maxSaePasswordLen)) ↔ _
  rw [ssid, takes, sae, Submitted, ConnectReqParams.pskBytes, ← psk]
  simp only [and_assoc, not_and, true_or, not_true_eq_false, imp_false, ne_eq]

theorem apEnable_admissible_iff :
    Admissible .apEnable params ↔ Submitted .apEnable params := by
  have ssid := copied_within (Nat.le_refl 32) params.ssid
  have psk := copied_within (show 64 ≤ 65 by decide) params.psk
  have supports := apSupports_arrived params.security
  have isPsk := arrivedSecurity_eq_psk params.security
  have isSae := arrivedSecurity_eq_sae params.security
  have length : ¬(copied 65 params.psk).length > 64 ↔
      params.pskBytes.length ≠ 65 := by
    unfold ConnectReqParams.pskBytes
    by_cases short : (params.psk.getD []).length ≤ 65
    · rw [copied_eq short]
      omega
    · rw [copied_eq_nil (Nat.lt_of_not_le short)]
      simp only [List.length_nil]
      omega
  change ¬(copied 32 params.ssid = [] ∨
      (copied 32 params.ssid).length > 32) ∧
    apSupports (arrivedSecurity params.security) = true ∧
    ¬(copied 65 params.psk).length > 64 ∧
    ¬((arrivedSecurity params.security = .psk ∨
        arrivedSecurity params.security = .sae) ∧
      copied 65 params.psk = []) ∧ ¬((0 : Nat) ≠ 0 ∧ 0 > 233) ↔ _
  rw [ssid, supports, isPsk, isSae, Submitted, ConnectReqParams.pskBytes,
    ← psk, ← ConnectReqParams.pskBytes, ← length]
  constructor
  · rintro ⟨⟨some, few⟩, ⟨eap, wapi, sha⟩, short, given, -⟩
    refine ⟨some, few, eap, wapi, sha, short, ?_⟩
    rintro keyed (empty | long)
    · exact given ⟨keyed, empty⟩
    · exact short long
  · rintro ⟨some, few, eap, wapi, sha, short, given⟩
    refine ⟨⟨some, few⟩, ⟨eap, wapi, sha⟩, short, ?_, ?_⟩
    · rintro ⟨keyed, empty⟩
      exact given keyed (.inl empty)
    · rintro ⟨nonzero, -⟩
      exact nonzero rfl

/-- The key `handle_connect_request` passes on. -/
theorem connect_key_iff (submitted : Submitted .connect params)
    (named : Named params.security) :
    (passed .connect params).keyMaterial = params.keyMaterial ↔
      (params.security = .wep ∨ params.security = .wapi →
        params.pskBytes = []) := by
  obtain ⟨-, -, given, notSae⟩ := submitted
  have psk : (passed .connect params).pskBytes =
      if takesPsk (arrivedSecurity params.security) then params.pskBytes
      else [] := by
    change (if takesPsk (arrivedSecurity params.security) then
      some (copied 65 params.psk) else none).getD [] = _
    split
    · next takes =>
        have short :=
          (given ((takesPsk_arrived params.security).mp takes)).2
        exact copied_eq (Nat.le_succ_of_le short)
    · rfl
  have security : mergedSecurity (passed .connect params).security =
      mergedSecurity params.security :=
    (mergedSecurity_arrived params.security).mpr named
  rw [ConnectReqParams.keyMaterial, ConnectReqParams.keyMaterial, security,
    psk]
  cases kind : params.security with
  | other code => exact absurd kind (named code)
  | sae | saeH2e | saeAuto => exact absurd (by rw [kind]; rfl) notSae
  | _ =>
      simp [ConnectReqParams.keyOf, mergedSecurity, arrivedSecurity,
        zephyrToProtoSecurity, protoToZephyrSecurity, takesPsk]

theorem connect_preserved_iff (submitted : Submitted .connect params) :
    params.Preserved (passed .connect params) ↔ Carried .connect params := by
  have ssid : ((passed .connect params).ssid).getD [] =
      params.ssid.getD [] := copied_eq submitted.2.1
  have security : mergedSecurity (passed .connect params).security =
      mergedSecurity params.security ↔ Named params.security :=
    mergedSecurity_arrived params.security
  have channel : (passed .connect params).channel = params.channel ↔
      params.channel ≠ 0 := channelOfProto_eq_iff params.channel
  have band : (passed .connect params).band = params.band ↔
      params.band = .band2Point4GHz := eq_comm
  rw [ConnectReqParams.preserved_iff, security, channel, band, Carried]
  constructor
  · rintro ⟨-, named, key, rest⟩
    exact ⟨named, (connect_key_iff params submitted named).mp key, rest⟩
  · rintro ⟨named, key, rest⟩
    exact ⟨ssid, named, (connect_key_iff params submitted named).mpr key,
      rest⟩

/-- The key `handle_ap_enable_request` passes on. -/
theorem apEnable_key_iff (submitted : Submitted .apEnable params)
    (named : Named params.security) :
    (passed .apEnable params).keyMaterial = params.keyMaterial ↔
      (params.security = .wep → params.pskBytes.length ≤ 64) ∧
      (mergedSecurity params.security = .sae →
        params.saeBytes = [] ∨ params.saeBytes = params.pskBytes) := by
  obtain ⟨-, -, eap, wapi, sha, odd, given⟩ := submitted
  have psk : (passed .apEnable params).pskBytes = copied 65 params.psk := by
    change (if copied 65 params.psk = [] then none
      else some (copied 65 params.psk)).getD [] = _
    split
    · next empty => rw [empty]; rfl
    · rfl
  have kept : params.pskBytes.length ≤ 64 →
      copied 65 params.psk = params.pskBytes := by
    intro short
    exact copied_eq (Nat.le_succ_of_le short)
  have security : mergedSecurity (passed .apEnable params).security =
      mergedSecurity params.security :=
    (mergedSecurity_arrived params.security).mpr named
  have sae : (passed .apEnable params).saeBytes = [] := rfl
  rw [ConnectReqParams.keyMaterial, ConnectReqParams.keyMaterial, security,
    psk, sae]
  cases kind : params.security with
  | other code => exact absurd kind (named code)
  | eap => exact absurd kind eap
  | wapi => exact absurd kind wapi
  | pskSha256 => exact absurd kind sha
  | none => simp [ConnectReqParams.keyOf, mergedSecurity]
  | psk | wpaPsk | wpaAutoPersonal =>
      have short := (given (.inl (by rw [kind]; rfl))).2
      simp [ConnectReqParams.keyOf, mergedSecurity, kept short]
  | sae | saeH2e | saeAuto =>
      obtain ⟨some, short⟩ := given (.inr (by rw [kind]; rfl))
      rw [kept short]
      by_cases absent : params.saeBytes = []
      · simp [ConnectReqParams.keyOf, mergedSecurity, absent]
      · simp [ConnectReqParams.keyOf, mergedSecurity, absent, eq_comm]
  | wep =>
      -- A longer key is left out by the host and passes as an empty one.
      by_cases short : params.pskBytes.length ≤ 64
      · simp [ConnectReqParams.keyOf, mergedSecurity, kept short, short]
      · have long : params.pskBytes.length > 65 := by omega
        have lost : copied 65 params.psk = [] := copied_eq_nil long
        have some : params.pskBytes ≠ [] := by
          intro empty
          rw [empty] at long
          cases long
        simp [ConnectReqParams.keyOf, mergedSecurity, lost, short, some.symm]

theorem apEnable_preserved_iff (submitted : Submitted .apEnable params) :
    params.Preserved (passed .apEnable params) ↔
      Carried .apEnable params := by
  have ssid : ((passed .apEnable params).ssid).getD [] =
      params.ssid.getD [] := copied_eq submitted.2.1
  have security : mergedSecurity (passed .apEnable params).security =
      mergedSecurity params.security ↔ Named params.security :=
    mergedSecurity_arrived params.security
  have channel : (passed .apEnable params).channel = params.channel ↔
      params.channel = channelAny := eq_comm
  have band : (passed .apEnable params).band = params.band ↔
      params.band = .band2Point4GHz := eq_comm
  rw [ConnectReqParams.preserved_iff, security, channel, band, Carried]
  constructor
  · rintro ⟨-, named, key, rest⟩
    obtain ⟨wep, sae⟩ := (apEnable_key_iff params submitted named).mp key
    exact ⟨named, wep, sae, rest⟩
  · rintro ⟨named, wep, sae, rest⟩
    exact ⟨ssid, named,
      (apEnable_key_iff params submitted named).mpr ⟨wep, sae⟩, rest⟩

end Purpose

/-- The parameters of an operation that returns 0 are those passed to
`net_mgmt`, if and only if the device does not pass them on at all or they are
among those both translations keep. -/
theorem connection_parameters_survive_iff (purpose : Purpose)
    (params : ConnectReqParams) :
    purpose.Survives params ↔
      (purpose.Submitted params → purpose.Carried params) := by
  rw [purpose.survives_iff_of_admissible]
  cases purpose with
  | connect =>
      rw [Purpose.connect_admissible_iff]
      exact forall_congr' (Purpose.connect_preserved_iff params)
  | apEnable =>
      rw [Purpose.apEnable_admissible_iff]
      exact forall_congr' (Purpose.apEnable_preserved_iff params)

/-- A WEP network on channel 6. -/
def wepParams : ConnectReqParams :=
  { ConnectReqParams.zero with
    ssid := some [0x6c, 0x61, 0x62]
    psk := some [0x61, 0x62, 0x63, 0x64, 0x65]
    channel := 6
    security := .wep }

/-- The device connects without the WEP key, and the operation returns 0. -/
theorem wepParams_lose_key :
    (∃ passed,
      (serve obligingRadio (Operation.connect wepParams).request).calls =
        [(.connect 1 passed, 0)] ∧
      passed.security = .wep ∧ passed.psk = none) ∧
    ¬Purpose.Survives .connect wepParams := by
  refine ⟨⟨_, rfl, rfl, rfl⟩, ?_⟩
  rw [Purpose.survives_iff_of_admissible, Purpose.connect_admissible_iff]
  intro kept
  have preserved := kept ⟨by decide, by decide, by decide, by decide⟩
  exact absurd preserved.key (by decide)

end Wifi

end SerialLink
