import Mathlib.Algebra.Group.Nat.Defs
import SerialLink.Library.Region
import SerialLink.Wire

/-!
# The technology proxies as clients of the serial layer

The multiplexer hands a received payload to the proxy registered for its
traffic type through three callbacks: `acquire_buffer` designates where the
next bytes go, `commit_data` reports stored bytes and `message_complete` ends
the frame.  A proxy keeps a receive buffer and, except for the OpenThread and
the virtual-serial ones, the number of bytes accumulated in it.
-/

namespace SerialLink

/-- `size_t` of the 32-bit targets. -/
def sizeModulus : Nat := 2 ^ 32

def sizeAdd (left right : Nat) : Nat :=
  (left + right) % sizeModulus

/-- Unsigned subtraction, which wraps below zero. -/
def sizeSub (left right : Nat) : Nat :=
  (left + (sizeModulus - right % sizeModulus)) % sizeModulus

theorem sizeAdd_eq {left right : Nat} (small : left + right < sizeModulus) :
    sizeAdd left right = left + right :=
  Nat.mod_eq_of_lt small

theorem sizeSub_eq {left right : Nat} (ordered : right ≤ left)
    (small : left < sizeModulus) : sizeSub left right = left - right := by
  unfold sizeSub sizeModulus at *
  omega

/-- The proxies of `mux_callbacks`. -/
inductive Client where
  | wifiMgmt
  | wifiData
  | netIfMgmt
  | bt
  | ot
  | vserial
  deriving DecidableEq, Repr

/-- What the build fixes: the proxies enabled by Kconfig, the two buffer sizes
that are not literals of the source, and whether the Wi-Fi interface exists. -/
structure Build where
  /-- `CONFIG_SERIAL_PROXY_*` -/
  registered : Client → Bool
  /-- `sizeof(embedded_wifi_mgmt_WifiMgmtRequest)`.  The largest member of the
  generated struct's payload union holds the 2346-byte
  `SendRawFrameRequest.frame` and its length and interface index. -/
  wifiMgmtRequestSize : Nat
  wifiMgmtRequestSize_gt : 2346 < wifiMgmtRequestSize
  wifiMgmtRequestSize_le : wifiMgmtRequestSize ≤ serialMaxPayloadLen
  /-- `CONFIG_VSERIAL_TX_BUF_SIZE`, in the range given by Kconfig. -/
  vserialTxBufSize : Nat
  vserialTxBufSize_ge : 64 ≤ vserialTxBufSize
  vserialTxBufSize_le : vserialTxBufSize ≤ 4096
  /-- `net_if_lookup_by_dev(wifi_dev->dev) != NULL` -/
  wifiIfacePresent : Bool

/-- Every proxy enabled with the defaults of Kconfig, and a request struct of
2360 bytes. -/
def Build.full : Build where
  registered := fun _ => true
  wifiMgmtRequestSize := 2360
  wifiMgmtRequestSize_gt := by decide
  wifiMgmtRequestSize_le := by decide
  vserialTxBufSize := 256
  vserialTxBufSize_ge := by decide
  vserialTxBufSize_le := by decide
  wifiIfacePresent := true

/-- The state a proxy shares with the serial layer.  `accumulated` is
`message_length` or `hci_rx_buffer_len`, and `dataComplete` the
`DATA_COMPLETE_EVENT` bit of the management proxies. -/
structure ClientState where
  buffer : Nat → UInt8
  accumulated : Nat
  dataComplete : Bool

namespace Client

/-- Size of the array a client receives into. -/
def capacity (build : Build) : Client → Nat
  | wifiMgmt => build.wifiMgmtRequestSize
  | wifiData => 1600
  | netIfMgmt => 512
  | bt => 512
  | ot => 256
  | vserial => build.vserialTxBufSize

theorem capacity_le (build : Build) (client : Client) :
    client.capacity build ≤ serialMaxPayloadLen := by
  cases client with
  | wifiMgmt => exact build.wifiMgmtRequestSize_le
  | vserial => exact build.vserialTxBufSize_le
  | _ => simp only [capacity, serialMaxPayloadLen]; omega

theorem capacity_lt (build : Build) (client : Client) :
    client.capacity build < sizeModulus := by
  have bounded := client.capacity_le build
  unfold serialMaxPayloadLen at bounded
  unfold sizeModulus
  omega

theorem capacity_ge (build : Build) (client : Client) :
    64 ≤ client.capacity build := by
  have request := build.wifiMgmtRequestSize_gt
  cases client with
  | vserial => exact build.vserialTxBufSize_ge
  | _ => simp only [capacity]; omega

/-- The clients that count the bytes accumulated in their buffer. -/
def keepsLength : Client → Bool
  | ot | vserial => false
  | _ => true

end Client

/-- The result of `acquire_buffer`.  A granted request designates an offset in
the client's buffer unless the callback leaves the pointer unset. -/
inductive Acquisition where
  | refused
  | granted (base : Option Nat)
  deriving DecidableEq, Repr

/-- `len > size - message_length`, the check of three of the proxies. -/
def exceedsFree (size : Nat) (state : ClientState) (len : Nat) : Bool :=
  len > sizeSub size state.accumulated

def wifiMgmtAcquireBuffer (build : Build) (state : ClientState)
    (len : Nat) : Acquisition :=
  if exceedsFree build.wifiMgmtRequestSize state len then .refused
  else .granted (some state.accumulated)

/-- The callback returns `true` without writing `*data`. -/
def wifiDataAcquireBuffer (state : ClientState) (len : Nat) : Acquisition :=
  if exceedsFree 1600 state len then .refused else .granted none

def netIfMgmtAcquireBuffer (state : ClientState) (len : Nat) : Acquisition :=
  if exceedsFree 512 state len then .refused
  else .granted (some state.accumulated)

def btProxyAcquireBuffer (state : ClientState) (len : Nat) : Acquisition :=
  if sizeAdd state.accumulated len > 512 then .refused
  else .granted (some state.accumulated)

def otProxyAcquireBuffer (len : Nat) : Acquisition :=
  if len > 256 then .refused else .granted (some 0)

def vserialAcquireBuffer (build : Build) (len : Nat) : Acquisition :=
  if len > build.vserialTxBufSize then .refused else .granted (some 0)

namespace Client

def acquireBuffer (build : Build) (client : Client) (state : ClientState)
    (len : Nat) : Acquisition :=
  match client with
  | wifiMgmt => wifiMgmtAcquireBuffer build state len
  | wifiData => wifiDataAcquireBuffer state len
  | netIfMgmt => netIfMgmtAcquireBuffer state len
  | bt => btProxyAcquireBuffer state len
  | ot => otProxyAcquireBuffer len
  | vserial => vserialAcquireBuffer build len

/-- The four counting proxies add to their counter; the other two ignore the
report. -/
def commitData (client : Client) (state : ClientState) (len : Nat) :
    ClientState :=
  if client.keepsLength then
    { state with accumulated := sizeAdd state.accumulated len }
  else state

/-- The effect of `message_complete` on the shared state.  Every path of
`bt_proxy_message_complete` ends with the counter at 0; the Wi-Fi data proxy
resets it unless the interface lookup fails. -/
def messageComplete (build : Build) (client : Client) (state : ClientState) :
    ClientState :=
  match client with
  | wifiMgmt | netIfMgmt => { state with dataComplete := true }
  | wifiData =>
      if build.wifiIfacePresent then { state with accumulated := 0 }
      else state
  | bt => { state with accumulated := 0 }
  | ot | vserial => state

/-- Where the next frame of a client starts in its buffer. -/
def occupied (client : Client) (state : ClientState) : Nat :=
  if client.keepsLength then state.accumulated else 0

end Client

namespace Client

variable {build : Build} {client : Client} {state : ClientState} {len : Nat}

theorem exceedsFree_eq_false {size : Nat} (bounded : size < sizeModulus)
    (fits : state.accumulated + len ≤ size) :
    exceedsFree size state len = false := by
  have free : sizeSub size state.accumulated = size - state.accumulated :=
    sizeSub_eq (by omega) bounded
  simp only [exceedsFree, free, gt_iff_lt, decide_eq_false_iff_not, Nat.not_lt]
  omega

theorem exceedsFree_eq_true {size : Nat} (bounded : size < sizeModulus)
    (within : state.accumulated ≤ size)
    (exceeds : size < state.accumulated + len) :
    exceedsFree size state len = true := by
  have free : sizeSub size state.accumulated = size - state.accumulated :=
    sizeSub_eq within bounded
  simp only [exceedsFree, free, gt_iff_lt, decide_eq_true_eq]
  omega

/-- A request that fits behind what the buffer already holds is granted
there. -/
theorem acquireBuffer_fits (designates : client ≠ wifiData)
    (fits : client.occupied state + len ≤ client.capacity build) :
    client.acquireBuffer build state len =
      .granted (some (client.occupied state)) := by
  have bounded := client.capacity_lt build
  cases client with
  | wifiMgmt =>
      have free : exceedsFree build.wifiMgmtRequestSize state len = false :=
        exceedsFree_eq_false bounded fits
      simp [acquireBuffer, wifiMgmtAcquireBuffer, free, occupied, keepsLength]
  | wifiData => exact absurd rfl designates
  | netIfMgmt =>
      have free : exceedsFree 512 state len = false :=
        exceedsFree_eq_false bounded fits
      simp [acquireBuffer, netIfMgmtAcquireBuffer, free, occupied, keepsLength]
  | bt =>
      simp only [occupied, keepsLength, capacity, if_true] at fits
      have small : state.accumulated + len < sizeModulus := by
        unfold sizeModulus; omega
      simp [acquireBuffer, btProxyAcquireBuffer, sizeAdd_eq small, occupied,
        keepsLength, Nat.not_lt.mpr fits]
  | ot =>
      simp only [occupied, keepsLength, capacity] at fits
      have small : ¬len > 256 := by simp at fits; omega
      simp [acquireBuffer, otProxyAcquireBuffer, small, occupied, keepsLength]
  | vserial =>
      simp only [occupied, keepsLength, capacity] at fits
      have small : ¬len > build.vserialTxBufSize := by simp at fits; omega
      simp [acquireBuffer, vserialAcquireBuffer, small, occupied, keepsLength]

/-- A grant of a client that sets the pointer is always at the end of what
its buffer holds. -/
theorem acquireBuffer_cases (build : Build) (state : ClientState) (len : Nat)
    (designates : client ≠ wifiData) :
    client.acquireBuffer build state len = .refused ∨
      client.acquireBuffer build state len =
        .granted (some (client.occupied state)) := by
  cases client <;>
    simp only [acquireBuffer, wifiMgmtAcquireBuffer, netIfMgmtAcquireBuffer,
      btProxyAcquireBuffer, otProxyAcquireBuffer, vserialAcquireBuffer,
      occupied, keepsLength] at designates ⊢
  case wifiData => exact absurd rfl designates
  all_goals split <;> simp

/-- A client whose buffer is not overfull refuses exactly what does not fit. -/
theorem acquireBuffer_refused_iff (designates : client ≠ wifiData)
    (within : client.occupied state ≤ client.capacity build)
    (small : len ≤ 65535) :
    client.acquireBuffer build state len = .refused ↔
      client.capacity build < client.occupied state + len := by
  constructor
  · intro refused
    apply Nat.lt_of_not_le
    intro fits
    rw [acquireBuffer_fits designates fits] at refused
    cases refused
  · intro exceeds
    have bounded := client.capacity_lt build
    cases client with
    | wifiMgmt =>
        have full : exceedsFree build.wifiMgmtRequestSize state len = true :=
          exceedsFree_eq_true bounded within exceeds
        simp [acquireBuffer, wifiMgmtAcquireBuffer, full]
    | wifiData => exact absurd rfl designates
    | netIfMgmt =>
        have full : exceedsFree 512 state len = true :=
          exceedsFree_eq_true bounded within exceeds
        simp [acquireBuffer, netIfMgmtAcquireBuffer, full]
    | bt =>
        simp only [occupied, keepsLength, capacity, if_true] at within exceeds
        have noWrap : state.accumulated + len < sizeModulus := by
          unfold sizeModulus; omega
        simp [acquireBuffer, btProxyAcquireBuffer, sizeAdd_eq noWrap, exceeds]
    | ot =>
        simp only [occupied, keepsLength, capacity] at exceeds
        have large : len > 256 := by simpa using exceeds
        simp [acquireBuffer, otProxyAcquireBuffer, large]
    | vserial =>
        simp only [occupied, keepsLength, capacity] at exceeds
        have large : len > build.vserialTxBufSize := by simpa using exceeds
        simp [acquireBuffer, vserialAcquireBuffer, large]

/-- An idle client refuses what its buffer cannot hold. -/
theorem acquireBuffer_idle_refused (idle : state.accumulated = 0)
    (exceeds : client.capacity build < len) (small : len ≤ 65535) :
    client.acquireBuffer build state len = .refused := by
  by_cases data : client = wifiData
  · subst data
    have full : exceedsFree 1600 state len = true :=
      exceedsFree_eq_true (by decide) (by omega)
        (Nat.lt_of_lt_of_le exceeds (by omega))
    simp [acquireBuffer, wifiDataAcquireBuffer, full]
  · have none : client.occupied state = 0 := by simp [occupied, idle]
    rw [acquireBuffer_refused_iff data (by omega) small]
    omega

/-- The clients whose counter is reset by their own thread, not by
`message_complete`. -/
def isMgmt : Client → Bool
  | wifiMgmt | netIfMgmt => true
  | _ => false

/-- What a delivered message leaves in its client's buffer. -/
theorem occupied_messageComplete (designates : client ≠ wifiData)
    (small : state.accumulated + len < sizeModulus ∨ client.isMgmt = false) :
    client.occupied
        (client.messageComplete build (client.commitData state len)) =
      if client.isMgmt then client.occupied state + len else 0 := by
  cases client with
  | wifiData => exact absurd rfl designates
  | wifiMgmt | netIfMgmt =>
      have noWrap : state.accumulated + len < sizeModulus := by
        simpa [isMgmt] using small
      simp [occupied, messageComplete, commitData, keepsLength, isMgmt,
        sizeAdd_eq noWrap]
  | bt | ot | vserial =>
      simp [occupied, messageComplete, keepsLength, isMgmt]

theorem acquireBuffer_wifiData (build : Build) (state : ClientState)
    (len : Nat) :
    wifiData.acquireBuffer build state len = .refused ∨
      wifiData.acquireBuffer build state len = .granted none := by
  simp only [acquireBuffer, wifiDataAcquireBuffer]
  split <;> simp

/-- A pointer that has been set points behind what the client holds. -/
theorem acquireBuffer_placed {offset : Nat}
    (granted : client.acquireBuffer build state len =
      .granted (some offset)) :
    client ≠ wifiData ∧ offset = client.occupied state := by
  have designates : client ≠ wifiData := by
    rintro rfl
    rcases acquireBuffer_wifiData build state len with refused | unset
    · cases refused.symm.trans granted
    · cases unset.symm.trans granted
  refine ⟨designates, ?_⟩
  rcases acquireBuffer_cases build state len designates with refused | placed
  · cases refused.symm.trans granted
  · cases placed.symm.trans granted
    rfl

theorem commitData_buffer (client : Client) (state : ClientState)
    (len : Nat) : (client.commitData state len).buffer = state.buffer := by
  unfold commitData
  split <;> rfl

end Client

/-- `serial_mux_get_callbacks`: the three callbacks of a table entry are set
together, so an entry is either complete or absent. -/
def serialMuxGetCallbacks (build : Build) (type : SerialType) :
    Option Client :=
  let entry : Option Client :=
    match type with
    | .wifiMgmt => some .wifiMgmt
    | .wifiData => some .wifiData
    | .netIfMgmt => some .netIfMgmt
    | .hci => some .bt
    | .thread => some .ot
    | .vserial => some .vserial
    | _ => none
  entry.filter build.registered

theorem known_of_callbacks {build : Build} {client : Client}
    {type : SerialType}
    (callbacks : serialMuxGetCallbacks build type = some client) :
    type.known = true := by
  cases type with
  | unknown excess => simp [serialMuxGetCallbacks] at callbacks
  | _ => rfl

/-- `serial_mux_supported_types_mask` -/
def serialMuxSupportedTypesMask (build : Build) : Nat :=
  (List.range 9).foldl
    (fun mask index =>
      if (serialMuxGetCallbacks build (SerialType.ofBits index)).isSome then
        mask ||| (1 <<< index)
      else mask) 0 ||| (1 <<< SerialType.protocolInfo.toNat)

end SerialLink
