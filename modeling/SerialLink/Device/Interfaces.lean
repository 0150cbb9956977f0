import SerialLink.Library.CString

/-!
# Enumeration of the network interfaces

`iface_enum_cb` writes to the next free slot of the response before it looks
at the type filter, so an interface that is then skipped leaves its state
there.  What it leaves is written again by the next interface that comes so
far; the address and the name, of which an interface may have less than a slot
has room for, are written only where the interface is listed.

The schema also has a field for offloading and one for promiscuous mode, which
the callback never writes.
-/

namespace SerialLink

namespace NetIf

/-- `NetIfType` of the schema. -/
inductive NetIfType where
  | unknown
  | wifi
  | openthread
  | other (code : Nat)
  deriving DecidableEq, Repr

/-- The size of `net_ifs`. -/
def netIfsSize : Nat := 4

/-- The size of `mac_address`. -/
def macAddressSize : Nat := 6

/-- The size of `name`. -/
def nameSize : Nat := 16

/-- What the `net_if` functions tell of an interface. -/
structure Interface where
  /-- `net_if_get_by_iface` -/
  index : Int32
  /-- `net_if_get_mtu` -/
  mtu : UInt16
  /-- `net_if_is_admin_up` -/
  isAdminUp : Bool
  /-- `net_if_is_carrier_ok` -/
  isCarrierOk : Bool
  /-- `net_if_is_dormant` -/
  isDormant : Bool
  /-- `net_if_oper_state` -/
  operState : Nat
  /-- `net_if_is_wifi` -/
  isWifi : Bool
  /-- `net_if_is_ip_offloaded` -/
  isIpOffloaded : Bool
  /-- `net_if_is_promisc` -/
  isPromisc : Bool
  /-- `net_if_get_link_addr`, which may be null -/
  linkAddr : Option (List UInt8)
  /-- What `net_if_get_name` writes to a buffer of the size of `name`; it
  fails where there is no name or no room for it. -/
  name : Option CString
  nameFits : ∀ text, name = some text → text.strlen < nameSize

/-- The type that is reported. -/
def Interface.type (iface : Interface) : NetIfType :=
  if iface.isWifi then .wifi else .unknown

/-- `NetworkInterface` in the memory of the device. -/
structure Slot where
  index : UInt32
  netIfType : NetIfType
  macAddress : Nat → UInt8
  offloadSupported : Bool
  mtu : UInt32
  name : Nat → UInt8
  operState : Nat
  adminUp : Bool
  carrierOk : Bool
  dormant : Bool
  promisc : Bool

/-- `NetworkInterface` as a message. -/
structure Descriptor where
  index : UInt32
  netIfType : NetIfType
  macAddress : List UInt8
  offloadSupported : Bool
  mtu : UInt32
  name : List UInt8
  operState : Nat
  adminUp : Bool
  carrierOk : Bool
  dormant : Bool
  promisc : Bool
  deriving DecidableEq, Repr

namespace Slot

/-- `NetworkInterface_init_zero` -/
def initZero : Slot where
  index := 0
  netIfType := .unknown
  macAddress := fun _ => 0
  offloadSupported := false
  mtu := 0
  name := fun _ => 0
  operState := 0
  adminUp := false
  carrierOk := false
  dormant := false
  promisc := false

/-- The message in a slot; a name ends at its NUL. -/
def toDescriptor (slot : Slot) : Descriptor where
  index := slot.index
  netIfType := slot.netIfType
  macAddress := Region.slice slot.macAddress 0 macAddressSize
  offloadSupported := slot.offloadSupported
  mtu := slot.mtu
  name := (Region.slice slot.name 0 nameSize).takeWhile (· ≠ 0)
  operState := slot.operState
  adminUp := slot.adminUp
  carrierOk := slot.carrierOk
  dormant := slot.dormant
  promisc := slot.promisc

/-- What `iface_enum_cb` writes before it looks at the type filter. -/
def writeState (slot : Slot) (iface : Interface) : Slot :=
  { slot with
    index := iface.index.toUInt32
    mtu := iface.mtu.toUInt32
    adminUp := iface.isAdminUp
    carrierOk := iface.isCarrierOk
    dormant := iface.isDormant
    operState := iface.operState
    netIfType := iface.type }

/-- What it writes of the link address: all of it, or nothing. -/
def writeLinkAddr (slot : Slot) (iface : Interface) : Slot :=
  match iface.linkAddr with
  | some addr =>
      if addr.length ≤ macAddressSize then
        { slot with macAddress := Region.store slot.macAddress 0 addr }
      else slot
  | none => slot

/-- `net_if_get_name` -/
def writeName (slot : Slot) (iface : Interface) : Slot :=
  match iface.name with
  | some text =>
      { slot with name := Region.store slot.name 0 (text.chars ++ [0]) }
  | none => slot

end Slot

/-- `RequestInterfacesResponse` -/
structure Interfaces where
  netIfs : Nat → Slot
  netIfsCount : Nat

/-- `RequestInterfacesResponse_init_zero` -/
def Interfaces.initZero : Interfaces where
  netIfs := fun _ => .initZero
  netIfsCount := 0

/-- The messages in a response. -/
def Interfaces.listed (resp : Interfaces) : List Descriptor :=
  (Region.slice resp.netIfs 0 resp.netIfsCount).map Slot.toDescriptor

/-- `iface_enum_cb` -/
def ifaceEnumCb (filterType : NetIfType) (filterIndex : UInt32)
    (resp : Interfaces) (iface : Interface) : Interfaces :=
  if resp.netIfsCount ≥ netIfsSize then resp
  else if filterIndex ≠ 0 ∧ iface.index.toUInt32 ≠ filterIndex then resp
  else
    let count := resp.netIfsCount
    let slot := (resp.netIfs count).writeState iface
    if filterType ≠ .unknown ∧ slot.netIfType ≠ filterType then
      { resp with netIfs := Region.store resp.netIfs count [slot] }
    else
      let slot := (slot.writeLinkAddr iface).writeName iface
      { netIfs := Region.store resp.netIfs count [slot]
        netIfsCount := count + 1 }

/-- The `get_interfaces` case of `process_net_if_request`, over the
interfaces in the order of `net_if_foreach`. -/
def getInterfaces (filterType : NetIfType) (filterIndex : UInt32)
    (ifaces : List Interface) : Interfaces :=
  ifaces.foldl (ifaceEnumCb filterType filterIndex) .initZero

/-- The interfaces a request asks for. -/
def Requested (filterType : NetIfType) (filterIndex : UInt32)
    (iface : Interface) : Prop :=
  (filterIndex = 0 ∨ iface.index.toUInt32 = filterIndex) ∧
    (filterType = .unknown ∨ iface.type = filterType)

instance (filterType : NetIfType) (filterIndex : UInt32) :
    DecidablePred (Requested filterType filterIndex) :=
  fun _ => inferInstanceAs (Decidable (_ ∧ _))

/-- A link address in `mac_address`; one that is absent or too long is all
0. -/
def Interface.macAddress (iface : Interface) : List UInt8 :=
  match iface.linkAddr with
  | some addr =>
      if addr.length ≤ macAddressSize then
        addr ++ List.replicate (macAddressSize - addr.length) 0
      else List.replicate macAddressSize 0
  | none => List.replicate macAddressSize 0

/-- What a response should say of an interface, by the comments of the
schema. -/
def Interface.describe (iface : Interface) : Descriptor where
  index := iface.index.toUInt32
  netIfType := iface.type
  macAddress := iface.macAddress
  offloadSupported := iface.isIpOffloaded
  mtu := iface.mtu.toUInt32
  name := (iface.name.map CString.chars).getD []
  operState := iface.operState
  adminUp := iface.isAdminUp
  carrierOk := iface.isCarrierOk
  dormant := iface.isDormant
  promisc := iface.isPromisc

/-- What it does say. -/
def Interface.report (iface : Interface) : Descriptor :=
  { iface.describe with
    offloadSupported := false
    promisc := false }

section Slots

/-- A slot whose address, name and unused flags are as they were at first;
what `writeState` writes may be anything. -/
structure Slot.Blank (slot : Slot) : Prop where
  macAddress : slot.macAddress = fun _ => 0
  name : slot.name = fun _ => 0
  offloadSupported : slot.offloadSupported = false
  promisc : slot.promisc = false

variable {slot : Slot}

theorem Slot.initZero_blank : Slot.initZero.Blank :=
  ⟨rfl, rfl, rfl, rfl⟩

theorem Slot.Blank.writeState (blank : slot.Blank) (iface : Interface) :
    (slot.writeState iface).Blank :=
  ⟨blank.macAddress, blank.name, blank.offloadSupported, blank.promisc⟩

/-- The address is all that `writeLinkAddr` writes. -/
theorem Slot.writeLinkAddr_eq (slot : Slot) (iface : Interface) :
    slot.writeLinkAddr iface =
      { slot with macAddress := (slot.writeLinkAddr iface).macAddress } := by
  unfold writeLinkAddr
  cases iface.linkAddr with
  | none => rfl
  | some addr =>
      dsimp only
      split <;> rfl

/-- The name is all that `writeName` writes. -/
theorem Slot.writeName_eq (slot : Slot) (iface : Interface) :
    slot.writeName iface =
      { slot with name := (slot.writeName iface).name } := by
  unfold writeName
  cases iface.name <;> rfl

theorem Slot.slice_writeLinkAddr (blank : slot.macAddress = fun _ => 0)
    (iface : Interface) :
    Region.slice (slot.writeLinkAddr iface).macAddress 0 macAddressSize =
      iface.macAddress := by
  unfold writeLinkAddr Interface.macAddress
  cases iface.linkAddr with
  | none =>
      dsimp only
      rw [blank, Region.slice_const]
  | some addr =>
      dsimp only
      split
      · next fits =>
          rw [blank, Region.slice_store_start _ _ _ fits,
            Region.slice_const]
      · rw [blank, Region.slice_const]

theorem Slot.takeWhile_writeName (blank : slot.name = fun _ => 0)
    (iface : Interface) :
    (Region.slice (slot.writeName iface).name 0 nameSize).takeWhile (· ≠ 0) =
      (iface.name.map CString.chars).getD [] := by
  unfold writeName
  cases named : iface.name with
  | none =>
      dsimp only
      rw [blank, Region.slice_const]
      rfl
  | some text =>
      have fits : (text.chars ++ [0]).length ≤ nameSize := by
        rw [List.length_append]
        exact iface.nameFits text named
      dsimp only
      rw [Region.slice_store_start _ _ _ fits, List.append_assoc,
        List.takeWhile_append_of_pos]
      · simp
      · intro char member
        have nonzero : char ≠ 0 := fun nul => text.noNul (nul ▸ member)
        simpa using nonzero

/-- A listed interface is reported by what it says itself, whatever an
interface that was skipped has left of its state. -/
theorem Slot.Blank.toDescriptor_write (blank : slot.Blank)
    (iface : Interface) :
    (((slot.writeState iface).writeLinkAddr iface).writeName
        iface).toDescriptor = iface.report := by
  let state := slot.writeState iface
  let addressed := state.writeLinkAddr iface
  have stateBlank : state.Blank := blank.writeState iface
  have unnamed : addressed.name = fun _ => 0 := by
    rw [show addressed = _ from state.writeLinkAddr_eq iface]
    exact stateBlank.name
  have address : Region.slice (addressed.writeName iface).macAddress 0
      macAddressSize = iface.macAddress := by
    rw [addressed.writeName_eq iface]
    exact Slot.slice_writeLinkAddr stateBlank.macAddress iface
  have name := Slot.takeWhile_writeName unnamed iface
  change (addressed.writeName iface).toDescriptor = iface.report
  rw [Slot.toDescriptor, address, name, addressed.writeName_eq iface,
    show addressed = _ from state.writeLinkAddr_eq iface]
  simp only [Interface.report, stateBlank.offloadSupported,
    stateBlank.promisc]
  rfl

end Slots

section Enumeration

variable {filterType : NetIfType} {filterIndex : UInt32}

/-- The response lists some interfaces, and its free slots are blank. -/
structure Lists (resp : Interfaces) (ifaces : List Interface) : Prop where
  listed : resp.listed = ifaces.map Interface.report
  blank : ∀ index, resp.netIfsCount ≤ index → (resp.netIfs index).Blank

variable {resp : Interfaces} {ifaces : List Interface}

theorem Lists.count (lists : Lists resp ifaces) :
    resp.netIfsCount = ifaces.length := by
  have lengths := congrArg List.length lists.listed
  simpa [Interfaces.listed] using lengths

theorem initZero_lists : Lists .initZero [] where
  listed := rfl
  blank := fun _ _ => Slot.initZero_blank

/-- A store to the next slot leaves the slots behind it as they are. -/
theorem Lists.blank_store (lists : Lists resp ifaces) (slot : Slot)
    {index : Nat} (behind : resp.netIfsCount < index) :
    (Region.store resp.netIfs resp.netIfsCount [slot] index).Blank := by
  have within : resp.netIfsCount ≤ index := by omega
  have past : ¬index - resp.netIfsCount < 1 := by omega
  have kept : Region.store resp.netIfs resp.netIfsCount [slot] index =
      resp.netIfs index := by
    simp [Region.store, within, List.getD_eq_getElem?_getD, past]
  rw [kept]
  exact lists.blank index within

theorem slice_store_listed (resp : Interfaces) (slot : Slot) :
    Region.slice (Region.store resp.netIfs resp.netIfsCount [slot]) 0
        resp.netIfsCount =
      Region.slice resp.netIfs 0 resp.netIfsCount :=
  Region.slice_store_before _ _ (Nat.le_of_eq (Nat.zero_add _))

/-- An interface of another type leaves its state in the next slot. -/
theorem Lists.skip (lists : Lists resp ifaces) (iface : Interface) :
    Lists
      { resp with
        netIfs := Region.store resp.netIfs resp.netIfsCount
          [(resp.netIfs resp.netIfsCount).writeState iface] } ifaces where
  listed := by
    rw [Interfaces.listed, slice_store_listed]
    exact lists.listed
  blank := by
    intro index free
    rcases Nat.eq_or_lt_of_le free with rfl | behind
    · have next := (lists.blank _ (Nat.le_refl _)).writeState iface
      simpa [Region.store] using next
    · exact lists.blank_store _ behind

theorem Lists.add (lists : Lists resp ifaces) (iface : Interface) :
    Lists
      { netIfs := Region.store resp.netIfs resp.netIfsCount
          [(((resp.netIfs resp.netIfsCount).writeState
            iface).writeLinkAddr iface).writeName iface]
        netIfsCount := resp.netIfsCount + 1 } (ifaces ++ [iface]) where
  listed := by
    have described := (lists.blank _ (Nat.le_refl _)).toDescriptor_write iface
    have written := Region.slice_store_self resp.netIfs resp.netIfsCount
      [(((resp.netIfs resp.netIfsCount).writeState
        iface).writeLinkAddr iface).writeName iface]
    rw [List.length_singleton] at written
    rw [Interfaces.listed, Region.slice_append, slice_store_listed,
      Nat.zero_add, written, List.map_append, List.map_append,
      List.map_singleton, List.map_singleton, described]
    exact congrArg (· ++ [iface.report]) lists.listed
  blank := by
    intro index free
    exact lists.blank_store _ free

/-- One callback: the interface is listed where it is requested and there is
room. -/
theorem Lists.next (lists : Lists resp ifaces) (iface : Interface) :
    Lists (ifaceEnumCb filterType filterIndex resp iface)
      (if ifaces.length < netIfsSize ∧
          Requested filterType filterIndex iface then ifaces ++ [iface]
        else ifaces) := by
  have count := lists.count
  unfold ifaceEnumCb
  split
  · next full =>
      rw [if_neg fun both => by omega]
      exact lists
  · next room =>
      split
      · next other =>
          have skipped : ¬Requested filterType filterIndex iface :=
            fun requested => requested.1.elim other.1 other.2
          rw [if_neg fun both => skipped both.2]
          exact lists
      · next index =>
          dsimp only
          split
          · next other =>
              have skipped : ¬Requested filterType filterIndex iface :=
                fun requested => requested.2.elim other.1 other.2
              rw [if_neg fun both => skipped both.2]
              exact lists.skip iface
          · next type =>
              have sameIndex : filterIndex = 0 ∨
                  iface.index.toUInt32 = filterIndex :=
                Decidable.or_iff_not_imp_left.mpr fun set =>
                  Decidable.of_not_not fun other => index ⟨set, other⟩
              have sameType : filterType = .unknown ∨
                  iface.type = filterType :=
                Decidable.or_iff_not_imp_left.mpr fun set =>
                  Decidable.of_not_not fun other => type ⟨set, other⟩
              rw [if_pos ⟨by omega, sameIndex, sameType⟩]
              exact lists.add iface

/-- All callbacks. -/
theorem Lists.foldl (lists : Lists resp ifaces) (others : List Interface) :
    Lists (others.foldl (ifaceEnumCb filterType filterIndex) resp)
      (ifaces ++ (others.filter
        (decide <| Requested filterType filterIndex ·)).take
          (netIfsSize - ifaces.length)) := by
  induction others generalizing resp ifaces with
  | nil =>
      rw [List.filter_nil, List.take_nil, List.append_nil]
      exact lists
  | cons iface rest induction =>
      have next : Lists (ifaceEnumCb filterType filterIndex resp iface) _ :=
        lists.next iface
      have later := induction next
      rw [List.foldl_cons]
      by_cases requested : Requested filterType filterIndex iface
      · rw [List.filter_cons_of_pos (by simpa using requested)]
        by_cases room : ifaces.length < netIfsSize
        · have more : netIfsSize - ifaces.length =
              netIfsSize - (ifaces ++ [iface]).length + 1 := by
            rw [List.length_append, List.length_singleton]
            omega
          rw [if_pos ⟨room, requested⟩, List.append_assoc] at later
          rw [more, List.take_succ_cons]
          exact later
        · have full : netIfsSize - ifaces.length = 0 := by omega
          rw [if_neg fun both => room both.1, full, List.take_zero] at later
          rw [full, List.take_zero]
          exact later
      · rw [List.filter_cons_of_neg (by simpa using requested)]
        rw [if_neg fun both => requested both.2] at later
        exact later

/-- The interfaces that a response has to list. -/
def requested (filterType : NetIfType) (filterIndex : UInt32)
    (ifaces : List Interface) : List Interface :=
  (ifaces.filter (decide <| Requested filterType filterIndex ·)).take
    netIfsSize

/-- The response lists the first interfaces that are requested, as many as it
has room for. -/
theorem listed_report (filterType : NetIfType) (filterIndex : UInt32)
    (ifaces : List Interface) :
    (getInterfaces filterType filterIndex ifaces).listed =
      (requested filterType filterIndex ifaces).map Interface.report := by
  have lists : Lists (getInterfaces filterType filterIndex ifaces) _ :=
    initZero_lists.foldl ifaces
  exact lists.listed

theorem report_eq_describe_iff (iface : Interface) :
    iface.report = iface.describe ↔
      iface.isIpOffloaded = false ∧ iface.isPromisc = false := by
  simp only [Interface.report, Interface.describe, Descriptor.mk.injEq,
    true_and, eq_comm]

/-- The response describes the first interfaces that are requested if and only
if none of them is offloaded or in promiscuous mode. -/
theorem listed_describe_iff (filterType : NetIfType) (filterIndex : UInt32)
    (ifaces : List Interface) :
    (getInterfaces filterType filterIndex ifaces).listed =
        (requested filterType filterIndex ifaces).map Interface.describe ↔
      ∀ iface ∈ requested filterType filterIndex ifaces,
        iface.isIpOffloaded = false ∧ iface.isPromisc = false := by
  rw [listed_report, List.map_inj_left]
  exact forall₂_congr fun iface _ => report_eq_describe_iff iface

theorem unnamed_fits (text : CString)
    (named : (none : Option CString) = some text) :
    text.strlen < nameSize := by
  cases named

/-- The first radio, listening to everything. -/
def monitor : Interface where
  index := 1
  mtu := 1500
  isAdminUp := true
  isCarrierOk := true
  isDormant := false
  operState := 6
  isWifi := true
  isIpOffloaded := false
  isPromisc := true
  linkAddr := some [2, 0, 0, 0, 0, 1]
  name := none
  nameFits := unnamed_fits

/-- It is listed as if it were not in promiscuous mode. -/
theorem monitor_listed :
    (getInterfaces .unknown 0 [monitor]).listed ≠
        [monitor].map Interface.describe ∧
      (getInterfaces .unknown 0 [monitor]).listed.map Descriptor.promisc =
        [false] := by
  have asked : requested .unknown 0 [monitor] = [monitor] := rfl
  rw [listed_report, asked]
  refine ⟨fun described => ?_, rfl⟩
  have promiscs := congrArg (List.map Descriptor.promisc) described
  simp [Interface.report, Interface.describe, monitor] at promiscs

end Enumeration

end NetIf

end SerialLink
