import Mathlib.Tactic.SplitIfs
import SerialLink.Wifi.RawCapture

/-!
# Raw transmission

`wifi_data_raw_frame_tx` and the socket it keeps.  The socket and its address
are set up by the first call that gets so far, and every later call sends to
that address, whatever its own interface is.
-/

namespace SerialLink

namespace Wifi

/-- `RAW_FRAME_MIN_LEN` -/
def rawFrameMinLen : Nat := 24

/-- `RAW_FRAME_MAX_LEN` -/
def rawFrameMaxLen : Nat := 2346

/-- `struct raw_tx_pkt_header` -/
structure RawTxPktHeader where
  magicNum : UInt32
  dataRate : UInt8
  packetLength : UInt16
  txMode : UInt8
  queue : UInt8
  deriving DecidableEq, Repr

namespace RawTxPktHeader

/-- The packed structure in memory, with its three reserved bytes. -/
def bytes (header : RawTxPktHeader) : List UInt8 :=
  [header.magicNum.toUInt8, (header.magicNum >>> 8).toUInt8,
    (header.magicNum >>> 16).toUInt8, (header.magicNum >>> 24).toUInt8,
    header.dataRate,
    header.packetLength.toUInt8, (header.packetLength >>> 8).toUInt8,
    header.txMode, header.queue, 0, 0, 0]

/-- The header in front of a frame of `len` bytes. -/
def ofLen (len : Nat) : RawTxPktHeader where
  magicNum := 0x12345678
  dataRate := 6
  packetLength := UInt16.ofNat len
  txMode := 0
  queue := 1

end RawTxPktHeader

/-- The variables of the transmission, and the packets that went out with the
interface index they were addressed to. -/
structure RawTx where
  /-- `raw_tx_sockfd` -/
  sockfd : Int
  /-- `raw_tx_addr.sll_ifindex` -/
  ifindex : Nat
  /-- `raw_tx_frame_count` -/
  frameCount : UInt32
  injectionRet : Int
  setupRet : Int
  lastRet : Int
  lastFrameLen : Nat
  lastIfaceWifi : Bool
  sent : List (Nat × List UInt8)
  deriving DecidableEq, Repr

/-- One call, with the results of the calls that it makes; a null frame has no
length. -/
structure TxCall where
  iface : Option Iface
  frame : Option (List UInt8)
  /-- `net_eth_txinjection_mode` -/
  injection : Int
  socket : Int
  bind : Int
  sendto : Int
  deriving DecidableEq, Repr

namespace RawTx

def initial : RawTx where
  sockfd := -1
  ifindex := 0
  frameCount := 0
  injectionRet := 0
  setupRet := 0
  lastRet := 0
  lastFrameLen := 0
  lastIfaceWifi := false
  sent := []

/-- `raw_tx_socket_setup` -/
def socketSetup (state : RawTx) (index : Nat) (call : TxCall) : Int × RawTx :=
  if state.sockfd ≥ 0 then (0, state)
  else if call.socket < 0 then
    (-eio, { state with
      sockfd := call.socket
      setupRet := 100 + call.socket })
  else if call.bind < 0 then
    (-eio, { state with
      sockfd := -1
      ifindex := index
      setupRet := 200 + index })
  else
    (0, { state with
      sockfd := call.socket
      ifindex := index
      setupRet := 0 })

/-- A call returns with an error. -/
def fail (state : RawTx) (ret : Int) : Int × RawTx :=
  (ret, { state with lastRet := ret })

/-- `wifi_data_raw_frame_tx` from the socket on. -/
def send (state : RawTx) (index : Nat) (frame : List UInt8) (call : TxCall) :
    Int × RawTx :=
  let (ret, state) := state.socketSetup index call
  if ret ≠ 0 then state.fail ret
  else if call.sendto < 0 then state.fail (-eio)
  else
    (0, { state with
      frameCount := state.frameCount + 1
      lastRet := 0
      sent := state.sent ++
        [(state.ifindex,
          (RawTxPktHeader.ofLen frame.length).bytes ++ frame)] })

/-- `wifi_data_raw_frame_tx` -/
def tx (state : RawTx) (call : TxCall) : Int × RawTx :=
  let state :=
    { state with
      lastFrameLen := (call.frame.map List.length).getD 0
      lastIfaceWifi := (call.iface.map Iface.isWifi).getD false }
  match call.iface, call.frame with
  | some iface, some frame =>
      if iface.isWifi = false then state.fail (-einval)
      else if frame.length < rawFrameMinLen ∨
          frame.length > rawFrameMaxLen then state.fail (-emsgsize)
      else if call.injection ≠ 0 then
        { state with injectionRet := call.injection }.fail call.injection
      else
        { state with injectionRet := call.injection }.send iface.index frame
          call
  | _, _ => state.fail (-einval)

def run (state : RawTx) (calls : List TxCall) : RawTx :=
  calls.foldl (fun state call => (state.tx call).2) state

end RawTx

namespace TxCall

/-- The interface index and the frame of a call that passes every check in
front of the socket. -/
def target (call : TxCall) : Option (Nat × List UInt8) :=
  match call.iface, call.frame with
  | some iface, some frame =>
      if iface.isWifi = true ∧ rawFrameMinLen ≤ frame.length ∧
          frame.length ≤ rawFrameMaxLen ∧ call.injection = 0 then
        some (iface.index, frame)
      else none
  | _, _ => none

/-- The interface index that a call sets the socket up for, if it finds
none. -/
def binds (call : TxCall) : Option Nat :=
  if 0 ≤ call.socket ∧ 0 ≤ call.bind then call.target.map Prod.fst else none

theorem target_eq_some {call : TxCall} {index : Nat} {frame : List UInt8}
    (target : call.target = some (index, frame)) :
    ∃ iface, call.iface = some iface ∧ call.frame = some frame ∧
      iface.index = index ∧ iface.isWifi = true ∧
      rawFrameMinLen ≤ frame.length ∧ frame.length ≤ rawFrameMaxLen ∧
      call.injection = 0 := by
  unfold TxCall.target at target
  split at target
  · rename_i iface other hasIface hasFrame
    split_ifs at target with checks
    cases target
    exact ⟨iface, hasIface, hasFrame, rfl, checks⟩
  · cases target

end TxCall

namespace RawTx

/-- The packet of a frame. -/
def packet (frame : List UInt8) : List UInt8 :=
  (RawTxPktHeader.ofLen frame.length).bytes ++ frame

theorem tx_of_target_none (state : RawTx) {call : TxCall}
    (refused : call.target = none) :
    (state.tx call).1 ≠ 0 ∧ (state.tx call).2.sockfd = state.sockfd ∧
      (state.tx call).2.ifindex = state.ifindex := by
  unfold TxCall.target at refused
  unfold tx
  cases hasIface : call.iface with
  | none => exact ⟨show -einval ≠ 0 by decide, rfl, rfl⟩
  | some iface =>
      cases hasFrame : call.frame with
      | none => exact ⟨show -einval ≠ 0 by decide, rfl, rfl⟩
      | some frame =>
          simp only [hasIface, hasFrame] at refused
          dsimp only
          split_ifs with wired length injection
          · exact ⟨show -einval ≠ 0 by decide, rfl, rfl⟩
          · exact ⟨show -emsgsize ≠ 0 by decide, rfl, rfl⟩
          · exact ⟨injection, rfl, rfl⟩
          · rw [if_pos] at refused
            · cases refused
            · refine ⟨Bool.not_eq_false _ ▸ wired, ?_, ?_,
                Decidable.not_not.mp injection⟩ <;> omega

theorem tx_of_target (state : RawTx) {call : TxCall} {index : Nat}
    {frame : List UInt8} (target : call.target = some (index, frame)) :
    ∃ started : RawTx, state.tx call = started.send index frame call ∧
      started.sockfd = state.sockfd ∧ started.ifindex = state.ifindex ∧
      started.sent = state.sent := by
  obtain ⟨iface, hasIface, hasFrame, rfl, wifi, long, short, injection⟩ :=
    TxCall.target_eq_some target
  unfold tx
  rw [hasIface, hasFrame]
  dsimp only
  rw [if_neg (by simp [wifi]), if_neg (by omega),
    if_neg (not_not_intro injection)]
  exact ⟨_, rfl, rfl, rfl, rfl⟩

theorem send_of_open {state : RawTx} (opened : 0 ≤ state.sockfd)
    (index : Nat) (frame : List UInt8) (call : TxCall) :
    (state.send index frame call).2.sockfd = state.sockfd ∧
    (state.send index frame call).2.ifindex = state.ifindex ∧
    ((state.send index frame call).1 = 0 ↔ 0 ≤ call.sendto) ∧
    (0 ≤ call.sendto → (state.send index frame call).2.sent =
      state.sent ++ [(state.ifindex, packet frame)]) := by
  unfold send socketSetup
  rw [if_pos opened]
  dsimp only
  rw [if_neg (by decide)]
  by_cases failed : call.sendto < 0
  · rw [if_pos failed]
    have negative := Int.not_le.mpr failed
    exact ⟨rfl, rfl, iff_of_false (show ¬-eio = 0 by decide) negative,
      fun positive => absurd positive negative⟩
  · rw [if_neg failed]
    exact ⟨rfl, rfl, iff_of_true rfl (Int.not_lt.mp failed), fun _ => rfl⟩

theorem send_of_closed {state : RawTx} (closed : state.sockfd < 0)
    (index : Nat) (frame : List UInt8) (call : TxCall) :
    (¬(0 ≤ call.socket ∧ 0 ≤ call.bind) →
      (state.send index frame call).1 ≠ 0 ∧
        (state.send index frame call).2.sockfd < 0) ∧
    (0 ≤ call.socket ∧ 0 ≤ call.bind →
      state.send index frame call =
        { state with
          sockfd := call.socket, ifindex := index, setupRet := 0 }.send
          index frame call) := by
  constructor
  · intro failed
    unfold send socketSetup
    rw [if_neg (Int.not_le.mpr closed)]
    by_cases refused : call.socket < 0
    · rw [if_pos refused]
      exact ⟨show -eio ≠ 0 by decide, refused⟩
    · have unbound : call.bind < 0 := by omega
      rw [if_neg refused, if_pos unbound]
      exact ⟨show -eio ≠ 0 by decide, show (-1 : Int) < 0 by decide⟩
  · rintro ⟨opened, bound⟩
    have setup : state.socketSetup index call =
        (0, { state with
          sockfd := call.socket, ifindex := index, setupRet := 0 }) := by
      unfold socketSetup
      rw [if_neg (Int.not_le.mpr closed), if_neg (Int.not_lt.mpr opened),
        if_neg (Int.not_lt.mpr bound)]
    unfold send
    rw [setup]
    unfold socketSetup
    rw [if_pos opened]

/-- The socket is the one that some call was the first to set up. -/
structure Cached (state : RawTx) (bound : Option Nat) : Prop where
  none : bound = none → state.sockfd < 0
  some : ∀ index, bound = some index →
    0 ≤ state.sockfd ∧ state.ifindex = index

theorem tx_cached {state : RawTx} {bound : Option Nat}
    (cached : state.Cached bound) (call : TxCall) :
    (state.tx call).2.Cached (bound.or call.binds) := by
  cases target : call.target with
  | none =>
      obtain ⟨-, sockfd, ifindex⟩ := tx_of_target_none state target
      have none : call.binds = none := by simp [TxCall.binds, target]
      rw [none, Option.or_none]
      exact ⟨fun absent => sockfd ▸ cached.none absent,
        fun index present => by
          rw [sockfd, ifindex]
          exact cached.some index present⟩
  | some found =>
      obtain ⟨index, frame⟩ := found
      obtain ⟨started, same, sockfd, ifindex, -⟩ := tx_of_target state target
      rw [same]
      cases bound with
      | some first =>
          obtain ⟨opened, address⟩ := cached.some first rfl
          rw [← sockfd] at opened
          obtain ⟨kept, keptIndex, -⟩ :=
            send_of_open opened index frame call
          refine ⟨nofun, fun other present => ?_⟩
          cases present
          rw [kept, keptIndex, ifindex]
          exact ⟨opened, address⟩
      | none =>
          have closed : started.sockfd < 0 := sockfd ▸ cached.none rfl
          obtain ⟨failing, setting⟩ := send_of_closed closed index frame call
          by_cases done : 0 ≤ call.socket ∧ 0 ≤ call.bind
          · have binds : call.binds = some index := by
              simp [TxCall.binds, done, target]
            rw [setting done, binds]
            obtain ⟨kept, keptIndex, -⟩ := @send_of_open
              { started with
                sockfd := call.socket, ifindex := index, setupRet := 0 }
              done.1 index frame call
            refine ⟨nofun, fun other present => ?_⟩
            cases present
            rw [kept, keptIndex]
            exact ⟨done.1, rfl⟩
          · have binds : call.binds = none := by simp [TxCall.binds, done]
            rw [binds]
            exact ⟨fun _ => (failing done).2, nofun⟩

theorem run_cached {state : RawTx} {bound : Option Nat}
    (cached : state.Cached bound) (calls : List TxCall) :
    (state.run calls).Cached (bound.or (calls.findSome? TxCall.binds)) := by
  induction calls generalizing state bound with
  | nil => simpa [run] using cached
  | cons call calls induction =>
      have later := induction (tx_cached cached call)
      rw [Option.or_assoc] at later
      change ((state.tx call).2.run calls).Cached _
      rw [List.findSome?_cons]
      cases binds : call.binds with
      | none => simpa [binds] using later
      | some index => simpa [binds] using later

/-- The socket after a run is that of the first call that set one up. -/
theorem run_initial_cached (calls : List TxCall) :
    (initial.run calls).Cached (calls.findSome? TxCall.binds) := by
  have start : initial.Cached none := ⟨fun _ => by decide, nofun⟩
  simpa using run_cached start calls

/-- A call that returns 0 has sent the packet of its frame, once, to its own
interface; the header has 12 bytes and the length of the frame. -/
def SendsTo (state : RawTx) (call : TxCall) : Prop :=
  (state.tx call).1 = 0 → ∃ iface frame,
    call.iface = some iface ∧ call.frame = some frame ∧
    (state.tx call).2.sent =
      state.sent ++ [(iface.index,
        (RawTxPktHeader.ofLen frame.length).bytes ++ frame)] ∧
    (RawTxPktHeader.ofLen frame.length).bytes.length = 12 ∧
    (RawTxPktHeader.ofLen frame.length).packetLength.toNat = frame.length

/-- Every call of a run sends to its own interface. -/
def UsesInterface (calls : List TxCall) : Prop :=
  ∀ before call after, calls = before ++ call :: after →
    (initial.run before).SendsTo call

/-- A call that sends on an open socket does so to its own interface just when
the address is that of its interface. -/
theorem sendsTo_iff_of_open {state started : RawTx} {call : TxCall}
    {index : Nat} {frame : List UInt8}
    (target : call.target = some (index, frame))
    (same : state.tx call = started.send index frame call)
    (opened : 0 ≤ started.sockfd) (sent : started.sent = state.sent) :
    state.SendsTo call ↔ (0 ≤ call.sendto → started.ifindex = index) := by
  obtain ⟨-, -, zero, went⟩ := send_of_open opened index frame call
  obtain ⟨iface, hasIface, hasFrame, own, -, -, short, -⟩ :=
    TxCall.target_eq_some target
  unfold SendsTo
  rw [same, zero]
  constructor
  · intro sends done
    obtain ⟨other, others, sameIface, sameFrame, packets, -⟩ := sends done
    rw [hasIface] at sameIface
    rw [hasFrame] at sameFrame
    cases sameIface
    cases sameFrame
    rw [went done, sent] at packets
    have last := List.append_cancel_left packets
    exact (Prod.mk.inj (List.cons.inj last).1).1.trans own
  · intro right done
    refine ⟨iface, frame, hasIface, hasFrame, ?_, rfl, ?_⟩
    · rw [went done, sent, right done, own]
      rfl
    · have bound : frame.length < 65536 := by
        unfold rawFrameMaxLen at short
        omega
      simpa [RawTxPktHeader.ofLen] using bound

theorem sendsTo_iff {state : RawTx} {bound : Option Nat}
    (cached : state.Cached bound) (call : TxCall) :
    state.SendsTo call ↔
      ∀ index frame first, call.target = some (index, frame) →
        0 ≤ call.sendto → bound = some first → first = index := by
  cases target : call.target with
  | none =>
      refine iff_of_true (fun zero => ?_) nofun
      exact absurd zero (tx_of_target_none state target).1
  | some found =>
      obtain ⟨index, frame⟩ := found
      obtain ⟨started, same, sockfd, ifindex, sent⟩ :=
        tx_of_target state target
      cases bound with
      | none =>
          refine iff_of_true ?_ nofun
          have closed : started.sockfd < 0 := sockfd ▸ cached.none rfl
          obtain ⟨failing, setting⟩ := send_of_closed closed index frame call
          by_cases done : 0 ≤ call.socket ∧ 0 ≤ call.bind
          · -- The address has just been set from this call's interface.
            rw [setting done] at same
            exact (sendsTo_iff_of_open target same done.1 sent).mpr
              fun _ => rfl
          · intro zero
            rw [same] at zero
            exact absurd zero (failing done).1
      | some first =>
          obtain ⟨opened, address⟩ := cached.some first rfl
          rw [sendsTo_iff_of_open target same (sockfd ▸ opened) sent, ifindex,
            address]
          constructor
          · intro right other others cachedFirst sameTarget done sameFirst
            cases sameTarget
            cases sameFirst
            exact right done
          · intro right done
            exact right index frame first rfl done rfl

/-- Every call of a run sends to its own interface just when no call that gets
to send has another interface than the first call that set the socket up. -/
theorem usesInterface_iff (calls : List TxCall) :
    UsesInterface calls ↔
      ∀ before call after, calls = before ++ call :: after →
        ∀ index frame first, call.target = some (index, frame) →
          0 ≤ call.sendto → before.findSome? TxCall.binds = some first →
          first = index := by
  unfold UsesInterface
  constructor
  · intro uses before call after split
    exact (sendsTo_iff (run_initial_cached before) call).mp
      (uses before call after split)
  · intro own before call after split
    exact (sendsTo_iff (run_initial_cached before) call).mpr
      (own before call after split)

/-- A frame of the least length, for an interface on which every call
succeeds. -/
def nullFrame (index : Nat) : TxCall where
  iface := some { index, isWifi := true }
  frame := some (List.replicate 24 0)
  injection := 0
  socket := 3
  bind := 0
  sendto := 36

/-- The frame of interface 2 goes out on interface 1. -/
theorem not_usesInterface_two :
    ¬UsesInterface [nullFrame 1, nullFrame 2] := by
  intro uses
  have sends := uses [nullFrame 1] (nullFrame 2) [] rfl
  have own := (sendsTo_iff (run_initial_cached [nullFrame 1]) _).mp sends 2
    (List.replicate 24 0) 1 (by decide) (by decide) (by decide)
  exact absurd own (by decide)

end RawTx

end Wifi

end SerialLink
