import SerialLink.Device.Interfaces
import SerialLink.Device.MgmtServer

/-!
# Requests about network interfaces

`process_net_if_request` decodes a request, calls the `net_if` functions of the
network stack and encodes a response with the number of the request.  The stack
and the encoding are not part of this repository: `NetStack` and `NetIfCodec`
take their place.

A response in which everything is 0 is encoded as no bytes at all, and then
none is sent.
-/

namespace SerialLink

namespace NetIf

open Server

def enodev : Int32 := 19
def ebadmsg : Int32 := 77
def enotsup : Int32 := 134

/-- The payload of `NetIfRequest`.  Requests without a case of their own are
`other`, with their tag, and so are those without a payload. -/
inductive RequestPayload where
  | getInterfaces (netIfType : NetIfType) (index : UInt32)
  | setAdminState (index : UInt32) (adminUp : Bool)
  | setCarrierState (index : UInt32) (carrierOn : Bool)
  | setDormantState (index : UInt32) (dormant : Bool)
  | setFlag (index : UInt32) (flag : Int32) (set : Bool)
  | getFlag (index : UInt32) (flag : Int32)
  | getOperState (index : UInt32)
  | getName (index : UInt32)
  | getMtu (index : UInt32)
  | other (tag : Nat)
  deriving DecidableEq, Repr

/-- `NetIfRequest` -/
structure Request where
  requestId : UInt32
  payload : RequestPayload
  deriving DecidableEq, Repr

/-- The payload of `NetIfResponse`, as far as it is used. -/
inductive ResponsePayload where
  | interfaces (netIfs : List Descriptor)
  | flag (flag : Int32) (isSet : Bool)
  | operState (operState : Nat)
  | name (name : List UInt8)
  | mtu (mtu : UInt32)
  deriving DecidableEq, Repr

/-- `NetIfResponse` -/
structure Response where
  requestId : UInt32
  status : Int32
  payload : Option ResponsePayload
  deriving DecidableEq, Repr

/-- `NetIfResponse_init_zero` -/
def Response.initZero : Response where
  requestId := 0
  status := 0
  payload := none

/-- The `net_if` functions over the interfaces `ι`. -/
structure NetStack (σ ι : Type) where
  netIfGetByIndex : Int32 → Option ι
  /-- The interfaces in the order of `net_if_foreach`. -/
  netIfForeach : List ι
  /-- What the functions tell of an interface. -/
  interface : σ → ι → Interface
  netIfUp : σ → ι → σ × Int32
  netIfDown : σ → ι → σ × Int32
  netIfCarrierOn : σ → ι → σ
  netIfCarrierOff : σ → ι → σ
  netIfDormantOn : σ → ι → σ
  netIfDormantOff : σ → ι → σ
  netIfFlagSet : σ → ι → Int32 → σ
  netIfFlagClear : σ → ι → Int32 → σ
  netIfFlagIsSet : σ → ι → Int32 → Bool

/-- `pb_decode` of a request, and `pb_encode` of a response into
`net_if_mgmt_tx_buffer`. -/
structure NetIfCodec where
  decodeRequest : List UInt8 → Option Request
  encodeResponse : Response → Option (List UInt8)

variable {σ ι : Type}

namespace NetStack

variable (stack : NetStack σ ι)

/-- What a case of the switch leaves: the stack, the status and the
payload. -/
abbrev Outcome (σ : Type) : Type :=
  σ × Int32 × Option ResponsePayload

/-- The cases that look an interface up. -/
def withInterface (world : σ) (index : UInt32) (found : ι → Outcome σ) :
    Outcome σ :=
  match stack.netIfGetByIndex index.toInt32 with
  | none => (world, -enodev, none)
  | some iface => found iface

/-- The switch of `process_net_if_request`. -/
def dispatch (world : σ) : RequestPayload → Outcome σ
  | .getInterfaces netIfType index =>
      let ifaces := stack.netIfForeach.map (stack.interface world)
      (world, 0,
        some (.interfaces (getInterfaces netIfType index ifaces).listed))
  | .setAdminState index adminUp =>
      stack.withInterface world index fun iface =>
        let (later, ret) :=
          if adminUp then stack.netIfUp world iface
          else stack.netIfDown world iface
        (later, ret, none)
  | .setCarrierState index carrierOn =>
      stack.withInterface world index fun iface =>
        (if carrierOn then stack.netIfCarrierOn world iface
          else stack.netIfCarrierOff world iface, 0, none)
  | .setDormantState index dormant =>
      stack.withInterface world index fun iface =>
        (if dormant then stack.netIfDormantOn world iface
          else stack.netIfDormantOff world iface, 0, none)
  | .setFlag index flag set =>
      stack.withInterface world index fun iface =>
        (if set then stack.netIfFlagSet world iface flag
          else stack.netIfFlagClear world iface flag, 0, none)
  | .getFlag index flag =>
      stack.withInterface world index fun iface =>
        (world, 0,
          some (.flag flag (stack.netIfFlagIsSet world iface flag)))
  | .getOperState index =>
      stack.withInterface world index fun iface =>
        (world, 0, some (.operState (stack.interface world iface).operState))
  | .getName index =>
      stack.withInterface world index fun iface =>
        (world, 0, some (.name
          (((stack.interface world iface).name.map CString.chars).getD [])))
  | .getMtu index =>
      stack.withInterface world index fun iface =>
        (world, 0,
          some (.mtu (stack.interface world iface).mtu.toUInt32))
  | .other _ => (world, -enotsup, none)

/-- `process_net_if_request` up to the label `encode`. -/
def answer (codec : NetIfCodec) (world : σ) (buf : List UInt8) :
    σ × Response :=
  match codec.decodeRequest buf with
  | none => (world, { Response.initZero with status := -ebadmsg })
  | some request =>
      let (later, status, payload) := stack.dispatch world request.payload
      (later, { requestId := request.requestId, status, payload })

/-- `process_net_if_request`: the stack behind it, and the bytes it leaves in
the response buffer. -/
def processNetIfRequest (codec : NetIfCodec) (world : σ) (buf : List UInt8) :
    σ × List UInt8 :=
  let (later, response) := stack.answer codec world buf
  (later, (codec.encodeResponse response).getD [])

end NetStack

/-- The sizes that the options of the schema give. -/
def ResponsePayload.Bounded : ResponsePayload → Prop
  | .interfaces netIfs => netIfs.length ≤ netIfsSize ∧
      ∀ descriptor ∈ netIfs,
        descriptor.macAddress.length = macAddressSize ∧
          descriptor.name.length < nameSize
  | .name text => text.length < nameSize
  | _ => True

/-- Of the responses that there may be, those within these sizes fit the
buffer, and none but that of zeros is encoded as no bytes. -/
structure NetIfCodec.Sound (codec : NetIfCodec)
    (decodeResponse : List UInt8 → Option Response)
    (possible : Response → Prop) : Prop where
  encodes : ∀ response, possible response →
    (∀ payload, response.payload = some payload → payload.Bounded) →
      ∃ bytes, codec.encodeResponse response = some bytes ∧
        decodeResponse bytes = some response
  empty : ∀ response, possible response →
    (codec.encodeResponse response = some [] ↔ response = .initZero)

/-- The responses that the proxy may give. -/
def NetStack.Possible (stack : NetStack σ ι) (codec : NetIfCodec)
    (response : Response) : Prop :=
  ∃ world buf, (stack.answer codec world buf).2 = response

/-- The requests that are answered with a status alone. -/
def RequestPayload.sets : RequestPayload → Bool
  | .setAdminState _ _ => true
  | .setCarrierState _ _ => true
  | .setDormantState _ _ => true
  | .setFlag _ _ _ => true
  | _ => false

/-- A response as it belongs to a request. -/
structure Answers (codec : NetIfCodec) (buf : List UInt8)
    (response : Response) : Prop where
  echoes : response.requestId =
    ((codec.decodeRequest buf).map Request.requestId).getD 0
  malformed : codec.decodeRequest buf = none →
    response.status = -ebadmsg ∧ response.payload = none
  silent : response = .initZero → ∃ payload,
    codec.decodeRequest buf = some { requestId := 0, payload } ∧
      payload.sets = true

section Dispatch

variable (stack : NetStack σ ι)

theorem Interface.length_macAddress (iface : Interface) :
    iface.macAddress.length = macAddressSize := by
  unfold macAddress
  split
  · split
    · simp only [List.length_append, List.length_replicate]
      omega
    · exact List.length_replicate
  · exact List.length_replicate

theorem Interface.length_name (iface : Interface) :
    ((iface.name.map CString.chars).getD []).length < nameSize := by
  cases named : iface.name with
  | none => decide
  | some text => exact iface.nameFits text named

/-- What is looked up is found, or the outcome is the one without an
interface. -/
theorem NetStack.withInterface_cases (world : σ) (index : UInt32)
    (found : ι → NetStack.Outcome σ) :
    (stack.netIfGetByIndex index.toInt32 = none ∧
        stack.withInterface world index found = (world, -enodev, none)) ∨
      ∃ iface, stack.netIfGetByIndex index.toInt32 = some iface ∧
        stack.withInterface world index found = found iface := by
  unfold withInterface
  cases stack.netIfGetByIndex index.toInt32 with
  | none => exact .inl ⟨rfl, rfl⟩
  | some iface => exact .inr ⟨iface, rfl, rfl⟩

theorem getInterfaces_bounded (netIfType : NetIfType) (index : UInt32)
    (ifaces : List Interface) :
    (ResponsePayload.interfaces
      (getInterfaces netIfType index ifaces).listed).Bounded := by
  have lists : Lists (getInterfaces netIfType index ifaces) _ :=
    initZero_lists.foldl ifaces
  rw [lists.listed]
  refine ⟨?_, ?_⟩
  · rw [List.length_map]
    exact List.length_take_le _ _
  · intro descriptor member
    obtain ⟨iface, -, rfl⟩ := List.mem_map.mp member
    exact ⟨iface.length_macAddress, iface.length_name⟩

/-- Whatever the switch puts into a response has the size of the schema. -/
theorem NetStack.dispatch_bounded (world : σ) (request : RequestPayload)
    {payload : ResponsePayload}
    (filled : (stack.dispatch world request).2.2 = some payload) :
    payload.Bounded := by
  cases request with
  | getInterfaces netIfType index =>
      cases filled
      exact getInterfaces_bounded netIfType index _
  | other tag => cases filled
  | setAdminState index _ | setCarrierState index _ | setDormantState index _
  | setFlag index _ _ =>
      rw [dispatch] at filled
      rcases stack.withInterface_cases world index _ with
        ⟨-, missing⟩ | ⟨iface, -, found⟩
      · rw [missing] at filled
        cases filled
      · rw [found] at filled
        cases filled
  | getFlag index _ | getOperState index | getMtu index =>
      rw [dispatch] at filled
      rcases stack.withInterface_cases world index _ with
        ⟨-, missing⟩ | ⟨iface, -, found⟩
      · rw [missing] at filled
        cases filled
      · rw [found] at filled
        cases filled
        trivial
  | getName index =>
      rw [dispatch] at filled
      rcases stack.withInterface_cases world index _ with
        ⟨-, missing⟩ | ⟨iface, -, found⟩
      · rw [missing] at filled
        cases filled
      · rw [found] at filled
        cases filled
        exact (stack.interface world iface).length_name

/-- A status of 0 without a payload is that of a request that sets
something. -/
theorem NetStack.sets_of_dispatch (world : σ) (request : RequestPayload)
    (status : (stack.dispatch world request).2.1 = 0)
    (payload : (stack.dispatch world request).2.2 = none) :
    request.sets = true := by
  cases request with
  | setAdminState | setCarrierState | setDormantState | setFlag => rfl
  | getInterfaces => cases payload
  | other tag => cases status
  | getFlag index _ | getOperState index | getName index | getMtu index =>
      rw [dispatch] at status payload
      rcases stack.withInterface_cases world index _ with
        ⟨-, missing⟩ | ⟨iface, -, found⟩
      · rw [missing] at status
        cases status
      · rw [found] at payload
        cases payload

theorem NetStack.answer_answers (codec : NetIfCodec) (world : σ)
    (buf : List UInt8) :
    Answers codec buf (stack.answer codec world buf).2 := by
  unfold answer
  cases decoded : codec.decodeRequest buf with
  | none =>
      refine ⟨by rw [decoded]; rfl, fun _ => ⟨rfl, rfl⟩, ?_⟩
      intro zero
      have status := congrArg Response.status zero
      cases status
  | some request =>
      refine ⟨by rw [decoded]; rfl, ?_, ?_⟩
      · intro malformed
        rw [decoded] at malformed
        cases malformed
      · intro zero
        obtain ⟨requestId, payload⟩ := request
        have number : requestId = 0 := congrArg Response.requestId zero
        subst number
        exact ⟨payload, decoded, stack.sets_of_dispatch world payload
          (congrArg Response.status zero) (congrArg Response.payload zero)⟩

end Dispatch

section Runs

variable (stack : NetStack σ ι) {codec : NetIfCodec}
  {decodeResponse : List UInt8 → Option Response}

theorem NetStack.Possible.bounded {response : Response}
    (possible : stack.Possible codec response) (payload : ResponsePayload)
    (filled : response.payload = some payload) : payload.Bounded := by
  obtain ⟨world, buf, rfl⟩ := possible
  unfold answer at filled
  split at filled
  · cases filled
  · exact stack.dispatch_bounded world _ filled

/-- What is sent are the responses that are not all zeros. -/
theorem NetIfCodec.Sound.nonempty_map
    (sound : codec.Sound decodeResponse (stack.Possible codec))
    {responses : List Response}
    (all : ∀ response ∈ responses, stack.Possible codec response) :
    (MgmtServer.nonempty (responses.map fun response =>
        (codec.encodeResponse response).getD [])).map decodeResponse =
      (responses.filter (· ≠ .initZero)).map some := by
  induction responses with
  | nil => rfl
  | cons response responses induction =>
      have possible := all response List.mem_cons_self
      obtain ⟨bytes, encoded, decoded⟩ :=
        sound.encodes response possible (possible.bounded stack)
      have rest := induction fun other member =>
        all other (List.mem_cons_of_mem response member)
      have empty := sound.empty response possible
      rw [encoded, Option.some.injEq] at empty
      unfold MgmtServer.nonempty at rest ⊢
      rw [List.map_cons, encoded, Option.getD_some]
      by_cases zero : response = .initZero
      · rw [List.filter_cons_of_neg (by simpa using empty.mpr zero),
          List.filter_cons_of_neg (by simpa using zero)]
        exact rest
      · rw [List.filter_cons_of_pos (by simpa using mt empty.mp zero),
          List.filter_cons_of_pos (by simpa using zero), List.map_cons,
          List.map_cons, decoded, rest]

/-- In every run in which the serial layer and the thread exclude each other,
the responses of the interface proxy are those that a sequential server gives
to the accepted requests, one for each and with its number, the last one
perhaps not yet.  Those that are left out are successes of requests numbered
0 that set something. -/
theorem responses_of_run (codec : NetIfCodec)
    (decodeResponse : List UInt8 → Option Response)
    (sound : codec.Sound decodeResponse (stack.Possible codec))
    (build : Build) (start : σ)
    (labels : List (MgmtServer.Label σ)) (final : MgmtServer σ)
    (run : Run.GuardedRun
      (MgmtServer.step (stack.processNetIfRequest codec) build .netIfMgmt)
      MgmtServer.Exclusive (.initial start) labels final) :
    MgmtProxy.NoneLost final.proxy ∧
      ∃ history responses,
        serve (stack.answer codec) start history = (final.world, responses) ∧
        requests history = final.proxy.processed ∧
        List.Forall₂ (Answers codec) final.proxy.processed responses ∧
        (final.handed ++ final.outstanding).map decodeResponse =
          (responses.filter (· ≠ .initZero)).map some := by
  obtain ⟨noneLost, history, processed, world, responses⟩ :=
    MgmtServer.exec_sequential _ build .netIfMgmt rfl start labels final run
  have rendered : serve (stack.processNetIfRequest codec) start history =
      ((serve (stack.answer codec) start history).1,
        (serve (stack.answer codec) start history).2.map fun response =>
          (codec.encodeResponse response).getD []) :=
    serve_map (stack.answer codec)
      (fun response => (codec.encodeResponse response).getD []) start history
  rw [rendered] at world responses
  refine ⟨noneLost, history, _, Prod.ext world rfl, processed, ?_, ?_⟩
  · rw [← processed]
    exact forall₂_serve _ (stack.answer_answers codec) start history
  · rw [← responses]
    exact sound.nonempty_map stack
      (forall_serve _ (fun world buf => ⟨world, buf, rfl⟩) start history)

end Runs

section Flags

/-- The flags of the schema. -/
def InRange (flag : Int32) : Prop :=
  0 ≤ flag ∧ flag ≤ 13

/-- What the functions promise of flags.  They do not check a flag; of one that
does not exist nothing is known. -/
structure NetStack.Lawful (stack : NetStack σ ι) : Prop where
  byIndex : ∀ index other iface,
    stack.netIfGetByIndex index = some iface →
      stack.netIfGetByIndex other = some iface → index = other
  set : ∀ world iface flag, InRange flag →
    stack.netIfFlagIsSet (stack.netIfFlagSet world iface flag) iface flag =
      true
  clear : ∀ world iface flag, InRange flag →
    stack.netIfFlagIsSet (stack.netIfFlagClear world iface flag) iface flag =
      false
  setApart : ∀ world iface flag other otherFlag, InRange flag →
    other ≠ iface ∨ otherFlag ≠ flag →
      stack.netIfFlagIsSet (stack.netIfFlagSet world iface flag) other
          otherFlag = stack.netIfFlagIsSet world other otherFlag ∧
        stack.netIfFlagIsSet (stack.netIfFlagClear world iface flag) other
          otherFlag = stack.netIfFlagIsSet world other otherFlag
  upApart : ∀ world iface other flag, other ≠ iface →
    stack.netIfFlagIsSet (stack.netIfUp world iface).1 other flag =
        stack.netIfFlagIsSet world other flag ∧
      stack.netIfFlagIsSet (stack.netIfDown world iface).1 other flag =
        stack.netIfFlagIsSet world other flag
  carrierApart : ∀ world iface other flag, other ≠ iface →
    stack.netIfFlagIsSet (stack.netIfCarrierOn world iface) other flag =
        stack.netIfFlagIsSet world other flag ∧
      stack.netIfFlagIsSet (stack.netIfCarrierOff world iface) other flag =
        stack.netIfFlagIsSet world other flag
  dormantApart : ∀ world iface other flag, other ≠ iface →
    stack.netIfFlagIsSet (stack.netIfDormantOn world iface) other flag =
        stack.netIfFlagIsSet world other flag ∧
      stack.netIfFlagIsSet (stack.netIfDormantOff world iface) other flag =
        stack.netIfFlagIsSet world other flag

/-- The requests that may change a flag of an interface. -/
def RequestPayload.Touches (index : UInt32) (flag : Int32) :
    RequestPayload → Prop
  | .setAdminState named _ => named = index
  | .setCarrierState named _ => named = index
  | .setDormantState named _ => named = index
  | .setFlag named written _ =>
      named = index ∧ written = flag ∨ ¬InRange written
  | _ => False

variable {stack : NetStack σ ι} {index : UInt32} {flag : Int32} {iface : ι}

/-- A request for another interface, or for one that is not there, leaves the
flag if its action does. -/
theorem NetStack.withInterface_keeps (world : σ) (other : UInt32)
    (action : ι → NetStack.Outcome σ)
    (keeps : ∀ otherIface,
      stack.netIfGetByIndex other.toInt32 = some otherIface →
        stack.netIfFlagIsSet (action otherIface).1 iface flag =
          stack.netIfFlagIsSet world iface flag) :
    stack.netIfFlagIsSet (stack.withInterface world other action).1 iface
        flag = stack.netIfFlagIsSet world iface flag := by
  rcases stack.withInterface_cases world other action with
    ⟨-, outcome⟩ | ⟨otherIface, looked, outcome⟩
  · rw [outcome]
  · rw [outcome]
    exact keeps otherIface looked

section Lawful

variable (lawful : stack.Lawful)
  (found : stack.netIfGetByIndex index.toInt32 = some iface)

include lawful found

/-- An interface has one index. -/
theorem NetStack.Lawful.ne_of_index {other : UInt32} {otherIface : ι}
    (looked : stack.netIfGetByIndex other.toInt32 = some otherIface)
    (different : other ≠ index) : iface ≠ otherIface := by
  rintro rfl
  apply different
  have same := lawful.byIndex _ _ iface looked found
  rw [← UInt32.toUInt32_toInt32 other, same, UInt32.toUInt32_toInt32]

theorem NetStack.Lawful.dispatch_keeps (world : σ) {request : RequestPayload}
    (untouched : ¬request.Touches index flag) :
    stack.netIfFlagIsSet (stack.dispatch world request).1 iface flag =
      stack.netIfFlagIsSet world iface flag := by
  cases request with
  | getInterfaces | other => rfl
  | getFlag other _ | getOperState other | getName other | getMtu other =>
      exact stack.withInterface_keeps world other _ fun _ _ => rfl
  | setAdminState other up =>
      refine stack.withInterface_keeps world other _ fun otherIface looked => ?_
      obtain ⟨onUp, onDown⟩ := lawful.upApart world otherIface iface flag
        (lawful.ne_of_index found looked untouched)
      cases up
      · exact onDown
      · exact onUp
  | setCarrierState other on =>
      refine stack.withInterface_keeps world other _ fun otherIface looked => ?_
      obtain ⟨onSet, onClear⟩ := lawful.carrierApart world otherIface iface
        flag (lawful.ne_of_index found looked untouched)
      cases on
      · exact onClear
      · exact onSet
  | setDormantState other on =>
      refine stack.withInterface_keeps world other _ fun otherIface looked => ?_
      obtain ⟨onSet, onClear⟩ := lawful.dormantApart world otherIface iface
        flag (lawful.ne_of_index found looked untouched)
      cases on
      · exact onClear
      · exact onSet
  | setFlag other otherFlag set =>
      refine stack.withInterface_keeps world other _ fun otherIface looked => ?_
      obtain ⟨elsewhere, inRange⟩ := not_or.mp untouched
      have apart : iface ≠ otherIface ∨ flag ≠ otherFlag := by
        by_cases sameIndex : other = index
        · exact .inr fun sameFlag => elsewhere ⟨sameIndex, sameFlag.symm⟩
        · exact .inl (lawful.ne_of_index found looked sameIndex)
      obtain ⟨onSet, onClear⟩ := lawful.setApart world otherIface otherFlag
        iface flag (not_not.mp inRange) apart
      cases set
      · exact onClear
      · exact onSet

/-- A request that sets a flag does so. -/
theorem NetStack.Lawful.dispatch_setFlag (inRange : InRange flag)
    (world : σ) (set : Bool) :
    stack.netIfFlagIsSet
      (stack.dispatch world (.setFlag index flag set)).1 iface flag =
        set := by
  rw [dispatch, withInterface, found]
  cases set
  · exact lawful.clear world iface flag inRange
  · exact lawful.set world iface flag inRange

/-- A flag is read as it was last set, whatever other requests and changes
came in between, as long as these are not about the same flag, do not take the
interface up or down, or its carrier, or its dormant state, and set no flag
that does not exist. -/
theorem getFlag_after_setFlag (codec : NetIfCodec) (inRange : InRange flag)
    (start : σ) (before between : List (Happening σ (List UInt8)))
    (setBuf getBuf : List UInt8) (setId getId : UInt32) (set : Bool)
    (sets : codec.decodeRequest setBuf =
      some { requestId := setId, payload := .setFlag index flag set })
    (gets : codec.decodeRequest getBuf =
      some { requestId := getId, payload := .getFlag index flag })
    (untouched : ∀ buf, .request buf ∈ between → ∀ request,
      codec.decodeRequest buf = some request →
        ¬request.payload.Touches index flag)
    (unchanged : ∀ change, .change change ∈ between → ∀ world,
      stack.netIfFlagIsSet (change world) iface flag =
        stack.netIfFlagIsSet world iface flag) :
    (serve (stack.answer codec) start
      (before ++ .request setBuf :: between ++
        [.request getBuf])).2.getLast? =
      some
        { requestId := getId
          status := 0
          payload := some (.flag flag set) } := by
  let world := (serve (stack.answer codec) start before).1
  let later := (stack.answer codec world setBuf).1
  let last := (serve (stack.answer codec) later between).1
  have written : stack.netIfFlagIsSet later iface flag = set := by
    have served : later =
        (stack.dispatch world (.setFlag index flag set)).1 := by
      simp only [later, NetStack.answer, sets]
    rw [served]
    exact lawful.dispatch_setFlag found inRange world set
  have kept : stack.netIfFlagIsSet last iface flag =
      stack.netIfFlagIsSet later iface flag := by
    apply serve_keeps (stack.answer codec)
      (fun world => stack.netIfFlagIsSet world iface flag) later between
    · intro buf member world
      unfold NetStack.answer
      cases decoded : codec.decodeRequest buf with
      | none => rfl
      | some request =>
          exact lawful.dispatch_keeps found world
            (untouched buf member request decoded)
    · exact unchanged
  have read : (stack.answer codec last getBuf).2 =
      { requestId := getId
        status := 0
        payload := some (.flag flag set) } := by
    simp only [NetStack.answer, gets, NetStack.dispatch,
      NetStack.withInterface, found, kept, written]
  rw [serve_append, List.getLast?_append]
  have ends : (serve (stack.answer codec) start
      (before ++ .request setBuf :: between)).1 = last := by
    rw [serve_append]
    rfl
  rw [ends, ← read]
  rfl

end Lawful

end Flags

section OneInterface

/-- A radio interface whose flags are all there is to it. -/
def flagStack : NetStack (Int32 → Bool) Unit where
  netIfGetByIndex index := if index = 1 then some () else none
  netIfForeach := [()]
  interface flags _ :=
    { index := 1
      mtu := 1500
      isAdminUp := flags 0
      isCarrierOk := flags 9
      isDormant := flags 10
      operState := if flags 8 then 6 else 2
      isWifi := true
      isIpOffloaded := false
      isPromisc := flags 2
      linkAddr := none
      name := none
      nameFits := unnamed_fits }
  netIfUp flags _ := (Function.update flags 0 true, 0)
  netIfDown flags _ := (Function.update flags 0 false, 0)
  netIfCarrierOn flags _ := Function.update flags 9 true
  netIfCarrierOff flags _ := Function.update flags 9 false
  netIfDormantOn flags _ := Function.update flags 10 true
  netIfDormantOff flags _ := Function.update flags 10 false
  netIfFlagSet flags _ flag := Function.update flags flag true
  netIfFlagClear flags _ flag := Function.update flags flag false
  netIfFlagIsSet flags _ flag := flags flag

theorem flagStack_lawful : flagStack.Lawful where
  byIndex := by
    intro index other iface first second
    simp only [flagStack, Option.ite_none_right_eq_some] at first second
    exact first.1.trans second.1.symm
  set := by
    intro world iface flag _
    exact Function.update_self ..
  clear := by
    intro world iface flag _
    exact Function.update_self ..
  setApart := by
    rintro world iface flag other otherFlag - (different | different)
    · exact absurd rfl different
    · exact ⟨Function.update_of_ne different .., Function.update_of_ne
        different ..⟩
  upApart := by
    intro world iface other flag different
    exact absurd rfl different
  carrierApart := by
    intro world iface other flag different
    exact absurd rfl different
  dormantApart := by
    intro world iface other flag different
    exact absurd rfl different

/-- `set_flag` of `NET_IF_FLAG_PROMISC`, and `get_flag` of it. -/
def setPromisc : List UInt8 :=
  [0x08, 0x01, 0x32, 0x06, 0x08, 0x01, 0x10, 0x02, 0x18, 0x01]

def getPromisc : List UInt8 :=
  [0x08, 0x02, 0x3A, 0x04, 0x08, 0x01, 0x10, 0x02]

def promiscRead (isSet : Bool) : Response where
  requestId := 2
  status := 0
  payload := some (.flag 2 isSet)

/-- The responses to them, and that to anything else. -/
def promiscResponses : List (Response × List UInt8) :=
  [({ requestId := 1, status := 0, payload := none }, [0x08, 0x01]),
    (promiscRead true, [0x08, 0x02, 0x22, 0x04, 0x08, 0x02, 0x10, 0x01]),
    (promiscRead false, [0x08, 0x02, 0x22, 0x02, 0x08, 0x02]),
    ({ requestId := 0, status := -ebadmsg, payload := none },
      [0x10, 0xB3, 0xFF, 0xFF, 0xFF, 0xFF, 0xFF, 0xFF, 0xFF, 0xFF, 0x01])]

def promiscCodec : NetIfCodec where
  decodeRequest buf :=
    if buf = setPromisc then
      some { requestId := 1, payload := .setFlag 1 2 true }
    else if buf = getPromisc then
      some { requestId := 2, payload := .getFlag 1 2 }
    else none
  encodeResponse response :=
    (promiscResponses.find? (·.1 = response)).map Prod.snd

def decodePromisc (bytes : List UInt8) : Option Response :=
  (promiscResponses.find? (·.2 = bytes)).map Prod.fst

theorem possible_promisc {response : Response}
    (possible : flagStack.Possible promiscCodec response) :
    response ∈ promiscResponses.map Prod.fst := by
  obtain ⟨flags, buf, rfl⟩ := possible
  unfold NetStack.answer
  cases decoded : promiscCodec.decodeRequest buf with
  | none => exact .tail _ (.tail _ (.tail _ (.head _)))
  | some request =>
      simp only [promiscCodec] at decoded
      split at decoded
      · cases decoded
        exact .head _
      · split at decoded
        · cases decoded
          change promiscRead (flags 2) ∈ _
          cases flags 2 <;> decide
        · cases decoded

theorem promiscCodec_sound :
    promiscCodec.Sound decodePromisc (flagStack.Possible promiscCodec) := by
  have decided : ∀ response ∈ promiscResponses.map Prod.fst,
      (promiscCodec.encodeResponse response).bind decodePromisc =
          some response ∧
        promiscCodec.encodeResponse response ≠ some [] ∧
          response ≠ .initZero := by
    decide
  constructor
  · intro response possible _
    obtain ⟨decoded, -⟩ := decided response (possible_promisc possible)
    obtain ⟨bytes, encoded, back⟩ := Option.bind_eq_some_iff.mp decoded
    exact ⟨bytes, encoded, back⟩
  · intro response possible
    obtain ⟨-, nonempty, nonzero⟩ :=
      decided response (possible_promisc possible)
    exact iff_of_false nonempty nonzero

/-- The flag is set, and then asked for. -/
def twoRequests : List (MgmtServer.Label (Int32 → Bool)) :=
  [setPromisc, getPromisc].flatMap fun request =>
    [.beginWait, .acquireBuffer request, .store, .commitData,
      .messageComplete, .wake, .process, .respond, .resetLength].map .proxy

theorem twoRequests_answered :
    ∃ final, Run.exec
        (MgmtServer.step (flagStack.processNetIfRequest promiscCodec)
          Build.full .netIfMgmt) (.initial fun _ => false) twoRequests =
        some final ∧
      ∃ responses,
        List.Forall₂ (Answers promiscCodec) final.proxy.processed responses ∧
        (final.handed ++ final.outstanding).map decodePromisc =
          (responses.filter (· ≠ .initZero)).map some := by
  have ran : (Run.execGuarded
      (MgmtServer.step (flagStack.processNetIfRequest promiscCodec)
        Build.full .netIfMgmt) MgmtServer.Exclusive (.initial fun _ => false)
      twoRequests).isSome = true := by
    decide
  obtain ⟨final, executed⟩ := Option.isSome_iff_exists.mp ran
  have run := Run.guardedRun_of_execGuarded executed
  obtain ⟨-, _, responses, -, -, answers, decoded⟩ :=
    responses_of_run flagStack promiscCodec decodePromisc promiscCodec_sound
      Build.full (fun _ => false) twoRequests final run
  exact ⟨final, run.exec_eq, responses, answers, decoded⟩

theorem promisc_read_back :
    (serve (flagStack.answer promiscCodec) (fun _ => false)
      ([] ++ .request setPromisc ::
        [.request [0], .change fun flags => Function.update flags 8 true] ++
          [.request getPromisc])).2.getLast? = some (promiscRead true) := by
  refine getFlag_after_setFlag flagStack_lawful rfl promiscCodec
    ⟨by decide, by decide⟩ (fun _ => false) [] _ setPromisc getPromisc 1 2
    true rfl rfl ?_ ?_
  · intro buf member request decoded
    simp only [List.mem_cons, Happening.request.injEq, List.not_mem_nil,
      or_false, reduceCtorEq] at member
    subst member
    cases decoded
  · intro change member world
    simp only [List.mem_cons, Happening.change.injEq, List.not_mem_nil,
      or_false, reduceCtorEq, false_or] at member
    subst member
    rfl

end OneInterface

end NetIf

end SerialLink
