import SerialLink.Library.Region
import SerialLink.Library.SharedCell
import SerialLink.Wifi.Handlers

/-!
# The parameters of an access point in static memory

`handle_ap_enable_request` copies the SSID and the key of a request into
static arrays, because the driver may read them after the call of `net_mgmt`
has returned.  One copy is said to be enough, as only one request can be under
way at a time.  The copy is made before the driver is asked, so that a request
that it refuses has replaced the parameters of the one under way.

Reading and writing the memory are one step each.
-/

namespace SerialLink

namespace Wifi

/-- `ap_enable_params`: the lengths beside the two pointers that are not
`NULL`, and the fields that are set.  The others stay zero. -/
structure ApEnableRecord where
  ssid : Option Nat
  psk : Option Nat
  band : FrequencyBand
  channel : UInt8
  security : SecurityType

structure ApMemory where
  apEnableParams : ApEnableRecord
  /-- `ap_enable_ssid`, an array of `WIFI_SSID_MAX_LEN` bytes -/
  apEnableSsid : Nat → UInt8
  /-- `ap_enable_psk`, an array of `MAX_AP_PSK_LEN` bytes -/
  apEnablePsk : Nat → UInt8

namespace ApMemory

def initial : ApMemory where
  apEnableParams :=
    { ssid := none
      psk := none
      band := ConnectReqParams.zero.band
      channel := ConnectReqParams.zero.channel
      security := ConnectReqParams.zero.security }
  apEnableSsid := fun _ => 0
  apEnablePsk := fun _ => 0

/-- What is found behind a pointer to `ap_enable_params`. -/
def read (memory : ApMemory) : ConnectReqParams :=
  { ConnectReqParams.zero with
    ssid := memory.apEnableParams.ssid.map
      (Region.slice memory.apEnableSsid 0)
    psk := memory.apEnableParams.psk.map (Region.slice memory.apEnablePsk 0)
    band := memory.apEnableParams.band
    channel := memory.apEnableParams.channel
    security := memory.apEnableParams.security }

/-- The assignments of `handle_ap_enable_request` to the static memory. -/
def write (memory : ApMemory) (params : ApEnableParams) : ApMemory where
  apEnableSsid := Region.store memory.apEnableSsid 0 params.ssid
  apEnablePsk :=
    if params.psk.length > 0 then Region.store memory.apEnablePsk 0 params.psk
    else memory.apEnablePsk
  apEnableParams :=
    { ssid := some params.ssid.length
      psk := if params.psk.length > 0 then some params.psk.length else none
      band := protoToZephyrBand params.band
      channel := channelOfProto params.channel
      security := protoToZephyrSecurity params.securityType }

/-- `handle_ap_enable_request` with the static memory. -/
def handleApEnableRequest (memory : ApMemory) (radio : Radio)
    (ifaceIndex : Nat) (params : Option ApEnableParams) :
    Served StatusResponse × ApMemory :=
  match resolveWifiIface radio ifaceIndex with
  | none => (refuse (-enodev) "Interface not found for AP enable", memory)
  | some iface =>
      match params with
      | none => (refuse (-einval) "AP parameters missing", memory)
      | some params =>
          let security := protoToZephyrSecurity params.securityType
          if params.ssid = [] ∨ params.ssid.length > ssidMaxLen then
            (refuse (-einval) "Invalid AP SSID length", memory)
          else if ¬apSupports security then
            (refuse (-enotsup) "AP security type not supported", memory)
          else if params.psk.length > maxApPskLen then
            (refuse (-einval) "AP PSK too long", memory)
          else if (security = .psk ∨ security = .sae) ∧ params.psk = [] then
            (refuse (-einval) "AP PSK missing", memory)
          else if params.channel ≠ 0 ∧ params.channel > 233 then
            (refuse (-einval) "Invalid AP channel", memory)
          else
            let written := memory.write params
            (report radio (.apEnable iface written.read)
              "Wi-Fi AP enable request failed" "AP enable initiated", written)

/-- Nothing is left of the parameters that were there before, also where they
were longer. -/
theorem read_write (memory : ApMemory) (params : ApEnableParams) :
    (memory.write params).read = params.toParams := by
  have ssid : Region.slice (Region.store memory.apEnableSsid 0 params.ssid) 0
      params.ssid.length = params.ssid :=
    Region.slice_store_self _ 0 _
  by_cases absent : params.psk = []
  · simp [read, write, ApEnableParams.toParams, ssid, absent]
  · have present : 0 < params.psk.length := List.length_pos_iff.mpr absent
    have psk : Region.slice (Region.store memory.apEnablePsk 0 params.psk) 0
        params.psk.length = params.psk :=
      Region.slice_store_self _ 0 _
    simp [read, write, ApEnableParams.toParams, ssid, psk, absent, present]

/-- A request is refused and leaves the memory, or its parameters fit into the
arrays and the driver is given them. -/
theorem handleApEnableRequest_cases (memory : ApMemory) (radio : Radio)
    (ifaceIndex : Nat) (params : Option ApEnableParams) :
    (∃ code message,
      Wifi.handleApEnableRequest radio ifaceIndex params =
        refuse code message ∧
      memory.handleApEnableRequest radio ifaceIndex params =
        (refuse code message, memory)) ∨
    (∃ iface given,
      given.ssid.length ≤ ssidMaxLen ∧ given.psk.length ≤ maxApPskLen ∧
      Wifi.handleApEnableRequest radio ifaceIndex params =
        report radio (.apEnable iface given.toParams)
          "Wi-Fi AP enable request failed" "AP enable initiated" ∧
      memory.handleApEnableRequest radio ifaceIndex params =
        (report radio (.apEnable iface given.toParams)
          "Wi-Fi AP enable request failed" "AP enable initiated",
          memory.write given)) := by
  unfold handleApEnableRequest Wifi.handleApEnableRequest
  cases resolveWifiIface radio ifaceIndex with
  | none => exact .inl ⟨_, _, rfl, rfl⟩
  | some iface =>
      cases params with
      | none => exact .inl ⟨_, _, rfl, rfl⟩
      | some given =>
          dsimp only
          split
          · exact .inl ⟨_, _, rfl, rfl⟩
          rename_i named
          split
          · exact .inl ⟨_, _, rfl, rfl⟩
          split
          · exact .inl ⟨_, _, rfl, rfl⟩
          rename_i short
          split
          · exact .inl ⟨_, _, rfl, rfl⟩
          split
          · exact .inl ⟨_, _, rfl, rfl⟩
          refine .inr ⟨iface, given, ?_, Nat.not_lt.mp short, rfl, ?_⟩
          · exact Nat.not_lt.mp fun long => named (.inr long)
          · rw [read_write]

end ApMemory

/-- The parameters and the result of the call that a handler has made. -/
def Served.apEnableCall (served : Served StatusResponse) :
    Option (ConnectReqParams × Int) :=
  match served.calls with
  | [(.apEnable _ params, ret)] => some (params, ret)
  | _ => none

/-- The parameters of a request that the driver has accepted. -/
def Served.apEnableAccepted (served : Served StatusResponse) :
    Option ConnectReqParams :=
  match served.apEnableCall with
  | some (params, ret) => if ret = 0 then some params else none
  | none => none

/-- The handler and the driver.  A request that the driver has accepted waits
until the driver takes it up, together with its own parameters; `taken` keeps
these beside the ones that have been read by then. -/
structure ApSystem where
  memory : ApMemory
  waiting : List ConnectReqParams
  taken : List (ConnectReqParams × ConnectReqParams)
  responses : List StatusResponse

namespace ApSystem

inductive Label where
  /-- A request, with the radio that the handler finds. -/
  | request (radio : Radio) (ifaceIndex : Nat)
      (params : Option ApEnableParams)
  /-- The driver takes up the oldest request that waits. -/
  | take

def initial : ApSystem where
  memory := .initial
  waiting := []
  taken := []
  responses := []

def step (system : ApSystem) : Label → Option ApSystem
  | .request radio ifaceIndex params =>
      let handled :=
        system.memory.handleApEnableRequest radio ifaceIndex params
      some { system with
        memory := handled.2
        waiting := system.waiting ++ handled.1.apEnableAccepted.toList
        responses := system.responses ++ [handled.1.result] }
  | .take =>
      match system.waiting with
      | [] => none
      | own :: rest =>
          some { system with
            waiting := rest
            taken := system.taken ++ [(own, system.memory.read)] }

/-- What the handler makes of a request, read off the request alone. -/
def Label.served : Label → Option (Served StatusResponse)
  | .request radio ifaceIndex params =>
      some (handleApEnableRequest radio ifaceIndex params)
  | .take => none

/-- The parameters of a request that has passed the checks of the handler. -/
def Label.admitted (label : Label) : Option ConnectReqParams :=
  (label.served.bind Served.apEnableCall).map Prod.fst

/-- The parameters of a request that the driver has accepted as well. -/
def Label.accepted (label : Label) : Option ConnectReqParams :=
  label.served.bind Served.apEnableAccepted

def Label.isTake : Label → Bool
  | .take => true
  | .request _ _ _ => false

/-- What a step is for the cell that the memory stands for. -/
def Label.shared : Label → Option (SharedCell.Label ConnectReqParams)
  | .request radio ifaceIndex params =>
      (handleApEnableRequest radio ifaceIndex params).apEnableCall.map
        fun call => .offer call.1 (decide (call.2 = 0))
  | .take => some .take

def shared (system : ApSystem) : SharedCell ConnectReqParams where
  content := system.memory.read
  waiting := system.waiting
  taken := system.taken

variable {system later final : ApSystem} {label : Label}
  {labels before after : List Label}

/-- The bytes behind the two arrays. -/
structure SameBehind (memory later : ApMemory) : Prop where
  ssid : ∀ index, ssidMaxLen ≤ index →
    later.apEnableSsid index = memory.apEnableSsid index
  psk : ∀ index, maxApPskLen ≤ index →
    later.apEnablePsk index = memory.apEnablePsk index

theorem SameBehind.refl (memory : ApMemory) : SameBehind memory memory :=
  ⟨fun _ _ => rfl, fun _ _ => rfl⟩

theorem SameBehind.trans {first second third : ApMemory}
    (one : SameBehind first second) (other : SameBehind second third) :
    SameBehind first third where
  ssid index behind := (other.ssid index behind).trans (one.ssid index behind)
  psk index behind := (other.psk index behind).trans (one.psk index behind)

theorem sameBehind_write (memory : ApMemory) {params : ApEnableParams}
    (named : params.ssid.length ≤ ssidMaxLen)
    (short : params.psk.length ≤ maxApPskLen) :
    SameBehind memory (memory.write params) where
  ssid index behind := Region.store_past _ _ (Nat.le_trans named behind)
  psk index behind := by
    unfold ApMemory.write
    dsimp only
    split
    · exact Region.store_past _ _ (Nat.le_trans short behind)
    · rfl

theorem apEnableCall_report (radio : Radio) (iface : Nat)
    (params : ConnectReqParams) (failed done : String) :
    (report radio (.apEnable iface params) failed done).apEnableCall =
      some (params, radio.netMgmt (.apEnable iface params)) := rfl

/-- What one step does. -/
theorem step_spec (stepped : system.step label = some later) :
    later.responses =
        system.responses ++ (label.served.map Served.result).toList ∧
      SameBehind system.memory later.memory ∧
      Run.exec SharedCell.step system.shared label.shared.toList =
        some later.shared := by
  cases label with
  | request radio ifaceIndex params =>
      rcases system.memory.handleApEnableRequest_cases radio ifaceIndex params
        with ⟨code, message, served, handled⟩ |
          ⟨iface, given, named, short, served, handled⟩
      · rw [step, handled] at stepped
        cases stepped
        refine ⟨?_, .refl _, ?_⟩
        · simp [Label.served, served]
        · simp [Label.shared, served, refuse, Served.apEnableCall,
            Served.apEnableAccepted, Run.exec, shared]
      · rw [step, handled] at stepped
        cases stepped
        refine ⟨?_, sameBehind_write _ named short, ?_⟩
        · simp [Label.served, served]
        · simp only [Label.shared, served, apEnableCall_report,
            Option.map_some, Option.toList_some, Run.exec, SharedCell.step,
            Served.apEnableAccepted, shared, ApMemory.read_write]
          by_cases accepted : radio.netMgmt (.apEnable iface given.toParams) = 0
          · simp [accepted]
          · simp [accepted]
  | take =>
      rw [step] at stepped
      split at stepped
      · cases stepped
      · rename_i own rest waiting
        cases stepped
        refine ⟨by simp [Label.served], .refl _, ?_⟩
        simp [Label.shared, Run.exec, SharedCell.step, shared, waiting]

theorem filterMap_cons_toList {α β : Type} (f : α → Option β) (item : α)
    (items : List α) :
    (item :: items).filterMap f = (f item).toList ++ items.filterMap f := by
  cases found : f item with
  | none => simp [found]
  | some value => simp [found]

/-- What a run does. -/
theorem exec_spec (executed : Run.exec step system labels = some later) :
    later.responses = system.responses ++
        labels.filterMap (fun label => label.served.map Served.result) ∧
      SameBehind system.memory later.memory ∧
      Run.exec SharedCell.step system.shared
          (labels.filterMap Label.shared) = some later.shared := by
  induction labels generalizing system with
  | nil =>
      cases executed
      exact ⟨by simp, .refl _, rfl⟩
  | cons label labels induction =>
      rw [Run.exec] at executed
      split at executed
      · rename_i next stepped
        obtain ⟨answered, behind, simulated⟩ := step_spec stepped
        obtain ⟨rest, further, simulates⟩ := induction executed
        refine ⟨?_, behind.trans further, ?_⟩
        · rw [rest, answered, List.append_assoc, filterMap_cons_toList]
        · rw [filterMap_cons_toList, Run.exec_append, simulated]
          exact simulates
      · cases executed

theorem shared_offered (label : Label) :
    label.shared.bind SharedCell.Label.offered = label.admitted := by
  cases label with
  | request radio ifaceIndex params =>
      simp only [Label.shared, Label.admitted, Label.served,
        Option.bind_some]
      cases (handleApEnableRequest radio ifaceIndex params).apEnableCall with
      | none => rfl
      | some call => rfl
  | take => rfl

theorem shared_accepted (label : Label) :
    label.shared.bind SharedCell.Label.accepted = label.accepted := by
  cases label with
  | request radio ifaceIndex params =>
      simp only [Label.shared, Label.accepted, Label.served,
        Option.bind_some, Served.apEnableAccepted]
      cases (handleApEnableRequest radio ifaceIndex params).apEnableCall with
      | none => rfl
      | some call =>
          obtain ⟨given, ret⟩ := call
          by_cases accepted : ret = 0
          · simp [accepted, SharedCell.Label.accepted]
          · simp [accepted, SharedCell.Label.accepted]
  | take => rfl

theorem countP_shared (labels : List Label) :
    (labels.filterMap Label.shared).countP SharedCell.Label.isTake =
      labels.countP Label.isTake := by
  induction labels with
  | nil => rfl
  | cons label labels induction =>
      rw [filterMap_cons_toList, List.countP_append, induction,
        ← List.singleton_append, List.countP_append]
      refine congrArg (· + _) ?_
      cases label with
      | request radio ifaceIndex params =>
          rw [Label.shared]
          cases (handleApEnableRequest radio ifaceIndex params).apEnableCall
            with
          | none => rfl
          | some call => rfl
      | take => rfl

/-- A request is taken up with the parameters of the last one that has passed
the checks by then, whether the driver has accepted that one or not. -/
theorem ap_parameters_of_run
    (executed : Run.exec step initial labels = some final) :
    final.responses =
        labels.filterMap (fun label => label.served.map Served.result) ∧
      SameBehind ApMemory.initial final.memory ∧
      ∀ before after, labels = before ++ .take :: after →
        ∃ own seen,
          final.taken[before.countP Label.isTake]? = some (own, seen) ∧
          (before.filterMap Label.accepted)[before.countP Label.isTake]? =
            some own ∧
          (before.filterMap Label.admitted).getLast? = some seen := by
  obtain ⟨answered, behind, simulated⟩ := exec_spec executed
  refine ⟨answered, behind, ?_⟩
  rintro before after rfl
  rw [List.filterMap_append] at simulated
  have found := SharedCell.taken_of_exec simulated
  simp only [countP_shared, List.filterMap_filterMap, shared_offered,
    shared_accepted] at found
  exact found

/-- A network and another one. -/
def firstNetwork : ApEnableParams :=
  { ApEnableParams.initZero with
    ssid := [0x61, 0x62], securityType := .psk, psk := [1, 2, 3] }

def secondNetwork : ApEnableParams :=
  { ApEnableParams.initZero with ssid := [0x63], securityType := .none }

/-- A second request comes while the first one is under way.  The driver
refuses it as busy, and takes up the first one. -/
def overlapping : List Label :=
  [.request obligingRadio 1 (some firstNetwork),
    .request { obligingRadio with netMgmt := fun _ => -16 } 1
      (some secondNetwork),
    .take]

theorem refused_network_taken :
    ∃ final, Run.exec step initial overlapping = some final ∧
      final.responses.map StatusResponse.success = [true, false] ∧
      final.taken[0]? =
        some (firstNetwork.toParams, secondNetwork.toParams) := by
  refine ⟨_, rfl, ?_⟩
  obtain ⟨answered, -, took⟩ := ap_parameters_of_run
    (show Run.exec step initial overlapping = some _ from rfl)
  obtain ⟨own, seen, taken, accepted, admitted⟩ := took
    (overlapping.take 2) [] rfl
  cases accepted.symm.trans
    (show _ = some firstNetwork.toParams from rfl)
  cases admitted.symm.trans
    (show _ = some secondNetwork.toParams from rfl)
  exact ⟨by rw [answered]; rfl, taken⟩

/-- No request passes the checks while another one is under way. -/
def Alone (system : ApSystem) (label : Label) : Prop :=
  label.admitted ≠ none → system.waiting = []

theorem own_step (own : system.shared.Own) (alone : Alone system label)
    (stepped : system.step label = some later) : later.shared.Own := by
  obtain ⟨-, -, simulated⟩ := step_spec stepped
  rw [Alone, ← shared_offered] at alone
  cases found : label.shared with
  | none =>
      rw [found] at simulated
      exact Option.some.inj simulated ▸ own
  | some action =>
      rw [found] at simulated alone
      rw [Option.toList_some, Run.exec] at simulated
      split at simulated
      · rename_i next acted
        cases simulated
        exact own.step alone acted
      · cases simulated

/-- One copy of the parameters is enough for requests that stay apart. -/
theorem own_of_alone
    (run : Run.GuardedRun step Alone initial labels final) :
    ∀ pair ∈ final.taken, pair.2 = pair.1 := by
  have start : initial.shared.Own :=
    ⟨fun _ member => absurd member List.not_mem_nil, .inl rfl⟩
  exact (run.preserves (fun _ _ _ own alone stepped =>
    own_step own alone stepped) start).taken

end ApSystem

end Wifi

end SerialLink
