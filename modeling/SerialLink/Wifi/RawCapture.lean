import Mathlib.Logic.Function.Basic
import Mathlib.Tactic.SplitIfs
import Mathlib.Tactic.ByContra
import SerialLink.Wifi.Requests

/-!
# Raw capture

`wifi_data_raw_frame_rx_enable`, `wifi_data_raw_frame_rx_disable` and the
thread that reads the capture socket.  `EnableCalls` holds what the driver and
the sockets return during one call; a call that fails changes nothing.

The capture has two variables, the descriptor of the socket and the flag of
the thread.  The thread clears the flag when it leaves on an error, and only
the descriptor is looked at by the next `enable`.
-/

namespace SerialLink

namespace Wifi

/-- `struct net_if`, as far as the raw frames look at it. -/
structure Iface where
  index : Nat
  isWifi : Bool
  deriving DecidableEq, Repr

/-- What the driver has for an interface. -/
structure RadioSettings where
  /-- `NET_IF_UP` -/
  up : Bool
  /-- `NET_REQUEST_WIFI_MODE` -/
  mode : Nat
  /-- `net_eth_txinjection_mode` -/
  txInjection : Bool
  /-- `NET_REQUEST_WIFI_CHANNEL` -/
  channel : UInt32
  /-- `NET_REQUEST_WIFI_PACKET_FILTER` -/
  filter : Nat
  bufferSize : Nat
  deriving DecidableEq, Repr

/-- `BIT(1)` of the modes -/
def monitorMode : Nat := 2

/-- `WIFI_PACKET_FILTER_ALL` -/
def packetFilterAll : Nat := 1

/-- `RAW_RX_FILTER_BUFFER_SIZE` -/
def rawRxFilterBufferSize : Nat := 1550

/-- The variables of the capture, and the driver's settings of every
interface. -/
structure RawRx where
  /-- `raw_rx_sockfd` -/
  sockfd : Int
  /-- `raw_rx_running` -/
  running : Bool
  /-- `raw_rx_iface` -/
  iface : Option Nat
  /-- `raw_rx_addr.sll_ifindex` -/
  ifindex : Nat
  /-- `raw_rx_mode_readback` -/
  modeReadback : Nat
  /-- `raw_rx_frame_count` -/
  frameCount : UInt32
  /-- the frames that `raw_rx_cb` was called with -/
  reported : List (Option Nat × List UInt8)
  radio : Nat → RadioSettings

/-- The results of the calls that one `enable` makes. -/
structure EnableCalls where
  /-- the attempts of `net_if_up` -/
  netIfUp : Nat → Int
  setMode : Int
  getMode : Int
  txInjection : Int
  setChannel : Int
  setPacketFilter : Int
  socket : Int
  bind : Int

namespace RawRx

def initial (radio : Nat → RadioSettings) : RawRx where
  sockfd := -1
  running := false
  iface := none
  ifindex := 0
  modeReadback := 0
  frameCount := 0
  reported := []
  radio := radio

/-- A setting of one interface is changed. -/
def tune (state : RawRx) (index : Nat)
    (change : RadioSettings → RadioSettings) : RawRx :=
  { state with
    radio := Function.update state.radio index (change (state.radio index)) }

/-- The loop around `net_if_up`: its last result. -/
def upRet (netIfUp : Nat → Int) : Nat → Nat → Int → Int
  | 0, _, last => last
  | remaining + 1, attempt, _ =>
      if netIfUp attempt = 0 then 0
      else upRet netIfUp remaining (attempt + 1) (netIfUp attempt)

/-- `enable` from `socket()` on. -/
def openSocket (state : RawRx) (index : Nat) (calls : EnableCalls) :
    Int × RawRx :=
  if calls.socket < 0 then (-eio, { state with sockfd := calls.socket })
  else if calls.bind < 0 then
    (-eio, { state with sockfd := -1, ifindex := index })
  else
    (0, { state with
      sockfd := calls.socket
      ifindex := index
      iface := some index
      running := true })

/-- `enable` from the packet filter on. -/
def filterAll (state : RawRx) (index : Nat) (calls : EnableCalls) :
    Int × RawRx :=
  if calls.setPacketFilter ≠ 0 then (-1004, state)
  else
    (state.tune index fun settings =>
      { settings with
        filter := packetFilterAll
        bufferSize := rawRxFilterBufferSize }).openSocket index calls

/-- `enable` from the channel on. -/
def tuneChannel (state : RawRx) (index : Nat) (channel : UInt32)
    (calls : EnableCalls) : Int × RawRx :=
  if channel ≠ 0 then
    if calls.setChannel ≠ 0 then (-1003, state)
    else (state.tune index fun settings => { settings with channel }).filterAll
      index calls
  else state.filterAll index calls

/-- The mode is read back, to verify it took effect; nothing depends on the
result. -/
def readBack (state : RawRx) (index : Nat) (calls : EnableCalls) : RawRx :=
  if calls.getMode = 0 then
    { state with modeReadback := (state.radio index).mode }
  else state

/-- `enable` from the monitor mode on. -/
def enterMonitor (state : RawRx) (index : Nat) (channel : UInt32)
    (calls : EnableCalls) : Int × RawRx :=
  if calls.setMode ≠ 0 then (calls.setMode, state)
  else
    let monitoring := (state.tune index fun settings =>
      { settings with mode := monitorMode }).readBack index calls
    if calls.txInjection ≠ 0 then (calls.txInjection, monitoring)
    else (monitoring.tune index fun settings =>
      { settings with txInjection := true }).tuneChannel index channel calls

/-- `wifi_data_raw_frame_rx_enable` -/
def enable (state : RawRx) (iface : Option Iface) (channel : UInt32)
    (calls : EnableCalls) : Int × RawRx :=
  match iface with
  | none => (-einval, state)
  | some iface =>
      if ¬iface.isWifi then (-einval, state)
      else if state.sockfd ≥ 0 then (0, state)
      else if ¬(state.radio iface.index).up then
        let ret := upRet calls.netIfUp 5 0 (-eio)
        if ret ≠ 0 then (-2000 - ret, state)
        else (state.tune iface.index fun settings =>
          { settings with up := true }).enterMonitor iface.index channel calls
      else state.enterMonitor iface.index channel calls

/-- `wifi_data_raw_frame_rx_disable` -/
def disable (state : RawRx) : Int × RawRx :=
  if state.sockfd < 0 then (0, state)
  else (0, { state with running := false, sockfd := -1, iface := none })

end RawRx

/-- `EAGAIN`, which `EWOULDBLOCK` is too. -/
def eagain : Int := 11

/-- What the calls of one iteration of the thread return: `poll`, and the
bytes or `errno` of `recvfrom`. -/
structure RxIteration where
  poll : Int
  recvfrom : Except Int (List UInt8)

/-- The thread leaves its loop after this iteration. -/
def RxIteration.Fails (iteration : RxIteration) : Prop :=
  iteration.poll < 0 ∨ (0 < iteration.poll ∧
    ∃ errno, iteration.recvfrom = .error errno ∧ errno ≠ eagain)

/-- One iteration of `raw_rx_thread_fn`; the thread has left the loop where
the flag is clear. -/
def RawRx.iterate (state : RawRx) (iteration : RxIteration) : RawRx :=
  if state.running then
    if iteration.poll < 0 then { state with running := false }
    else if iteration.poll = 0 then state
    else
      match iteration.recvfrom with
      | .ok [] => state
      | .ok (byte :: bytes) =>
          { state with
            frameCount := state.frameCount + 1
            reported := state.reported ++ [(state.iface, byte :: bytes)] }
      | .error errno =>
          if errno ≠ eagain then { state with running := false } else state
  else state

/-- What happens to the capture. -/
inductive RxStep where
  | enable (iface : Option Iface) (channel : UInt32) (calls : EnableCalls)
  | disable
  | iteration (iteration : RxIteration)

namespace RawRx

def step (state : RawRx) : RxStep → RawRx
  | .enable iface channel calls => (state.enable iface channel calls).2
  | .disable => state.disable.2
  | .iteration iteration => state.iterate iteration

def run (state : RawRx) (steps : List RxStep) : RawRx :=
  steps.foldl step state

/-- The thread runs on the open socket. -/
def Active (state : RawRx) : Prop :=
  state.running = true ∧ 0 ≤ state.sockfd

section Activity

variable {index : Nat} {channel : UInt32} {calls : EnableCalls}

/-- How the steps of `enable` behind its checks end. -/
inductive Ended (state : RawRx) : Int × RawRx → Prop where
  | active {later : RawRx} : later.Active → Ended state (0, later)
  | failed {ret : Int} {later : RawRx} :
      ret ≠ 0 → later.sockfd < 0 → later.running = state.running →
      Ended state (ret, later)

theorem Ended.congr {state other : RawRx} {result : Int × RawRx}
    (ended : other.Ended result) (same : other.running = state.running) :
    state.Ended result := by
  cases ended with
  | active active => exact .active active
  | failed nonzero closed kept => exact .failed nonzero closed (kept.trans same)

theorem readBack_sockfd (state : RawRx) :
    (state.readBack index calls).sockfd = state.sockfd := by
  unfold readBack
  split <;> rfl

theorem readBack_running (state : RawRx) :
    (state.readBack index calls).running = state.running := by
  unfold readBack
  split <;> rfl

theorem openSocket_ended (state : RawRx) :
    state.Ended (state.openSocket index calls) := by
  unfold openSocket
  split_ifs with refused unbound
  · exact .failed (by decide) refused rfl
  · exact .failed (by decide) (show (-1 : Int) < 0 by decide) rfl
  · exact .active ⟨rfl, Int.not_lt.mp refused⟩

theorem filterAll_ended {state : RawRx} (closed : state.sockfd < 0) :
    state.Ended (state.filterAll index calls) := by
  unfold filterAll
  split_ifs with refused
  · exact .failed (by decide) closed rfl
  · exact (openSocket_ended _).congr rfl

theorem tuneChannel_ended {state : RawRx} (closed : state.sockfd < 0) :
    state.Ended (state.tuneChannel index channel calls) := by
  unfold tuneChannel
  split_ifs with given refused
  · exact .failed (by decide) closed rfl
  · refine Ended.congr (filterAll_ended ?_) rfl
    exact closed
  · exact filterAll_ended closed

theorem enterMonitor_ended {state : RawRx} (closed : state.sockfd < 0) :
    state.Ended (state.enterMonitor index channel calls) := by
  unfold enterMonitor
  dsimp only
  split_ifs with refused injection
  · exact .failed refused closed rfl
  · exact .failed injection (by rwa [readBack_sockfd]) (readBack_running _)
  · refine Ended.congr (tuneChannel_ended ?_)
      (readBack_running (state.tune index _))
    change (readBack _ index calls).sockfd < 0
    rw [readBack_sockfd]
    exact closed

/-- The last of five attempts to bring the interface up fails with the one
code that `-2000 - up_ret` makes 0. -/
def UpMasked (state : RawRx) (iface : Iface) (calls : EnableCalls) : Prop :=
  state.sockfd < 0 ∧ ¬(state.radio iface.index).up = true ∧
    upRet calls.netIfUp 5 0 (-eio) = -2000

/-- The thread has left its loop on an error and the socket is still open. -/
def Stalled (state : RawRx) : Prop :=
  0 ≤ state.sockfd ∧ state.running = false

/-- What `enable` may do on a Wi-Fi interface. -/
theorem enable_cases (state : RawRx) {iface : Iface}
    (wifi : iface.isWifi = true) (channel : UInt32) (calls : EnableCalls) :
    (0 ≤ state.sockfd ∧ state.enable (some iface) channel calls = (0, state)) ∨
    (state.sockfd < 0 ∧ ∃ ret, ret ≠ 0 ∧
      state.enable (some iface) channel calls = (-2000 - ret, state) ∧
      (ret = -2000 ↔ state.UpMasked iface calls)) ∨
    (state.sockfd < 0 ∧ ¬state.UpMasked iface calls ∧
      state.Ended (state.enable (some iface) channel calls)) := by
  unfold enable
  simp only [wifi, not_true_eq_false, if_false]
  by_cases opened : state.sockfd ≥ 0
  · exact .inl ⟨opened, by rw [if_pos opened]⟩
  have closed := Int.not_le.mp opened
  rw [if_neg opened]
  by_cases up : (state.radio iface.index).up = true
  · rw [if_neg (not_not_intro up)]
    refine .inr (.inr ⟨closed, fun masked => ?_, enterMonitor_ended closed⟩)
    exact masked.2.1 up
  · rw [if_pos up]
    by_cases failed : upRet calls.netIfUp 5 0 (-eio) ≠ 0
    · rw [if_pos failed]
      exact .inr (.inl ⟨closed, _, failed, rfl,
        fun masked => ⟨closed, up, masked⟩, fun masked => masked.2.2⟩)
    · rw [if_neg failed]
      refine .inr (.inr ⟨closed, fun masked => failed ?_, ?_⟩)
      · rw [masked.2.2]
        decide
      · refine Ended.congr (enterMonitor_ended ?_) rfl
        exact closed

theorem enable_of_not_wifi (state : RawRx) {iface : Option Iface}
    (none : ∀ wifi, iface = some wifi → ¬wifi.isWifi = true) :
    state.enable iface channel calls = (-einval, state) := by
  cases iface with
  | none => rfl
  | some iface => simp [enable, none iface rfl]

/-- An `enable` that returns 0 leaves an active capture just when the capture
has not stalled and no failure to bring the interface up is masked. -/
theorem enable_honest_iff (state : RawRx) {iface : Iface}
    (wifi : iface.isWifi = true) (channel : UInt32) (calls : EnableCalls) :
    ((state.enable (some iface) channel calls).1 = 0 →
        (state.enable (some iface) channel calls).2.Active) ↔
      ¬state.Stalled ∧ ¬state.UpMasked iface calls := by
  rcases state.enable_cases wifi channel calls with
    ⟨opened, already⟩ | ⟨closed, ret, failed, down, masked⟩ |
      ⟨closed, unmasked, ended⟩
  · rw [already]
    have running : state.Active ↔ ¬state.Stalled := by
      simp [Active, Stalled, opened]
    have unmasked : ¬state.UpMasked iface calls :=
      fun masked => Int.not_le.mpr masked.1 opened
    simp [running, unmasked]
  · rw [down, ← masked]
    have stopped : ¬state.Active := fun active => Int.not_le.mpr closed active.2
    have unstalled : ¬state.Stalled :=
      fun stalled => Int.not_le.mpr closed stalled.1
    simp only [stopped, unstalled, imp_false, not_false_eq_true, true_and]
    omega
  · have unstalled : ¬state.Stalled :=
      fun stalled => Int.not_le.mpr closed stalled.1
    refine iff_of_true (fun zero => ?_) ⟨unstalled, unmasked⟩
    generalize state.enable (some iface) channel calls = result at ended zero ⊢
    cases ended with
    | active active => exact active
    | failed nonzero => exact absurd zero nonzero

end Activity

/-- The thread runs only on an open socket. -/
def Sound (state : RawRx) : Prop :=
  state.running = true → 0 ≤ state.sockfd

section Runs

variable {state : RawRx}

theorem iterate_keeps (state : RawRx) (iteration : RxIteration) :
    (state.iterate iteration).sockfd = state.sockfd ∧
      (state.iterate iteration).radio = state.radio := by
  unfold iterate
  split_ifs
  · exact ⟨rfl, rfl⟩
  · exact ⟨rfl, rfl⟩
  · rcases iteration.recvfrom with errno | bytes
    · dsimp only
      split_ifs <;> exact ⟨rfl, rfl⟩
    · cases bytes <;> exact ⟨rfl, rfl⟩
  · exact ⟨rfl, rfl⟩

theorem iterate_running_iff (state : RawRx) (iteration : RxIteration) :
    (state.iterate iteration).running = true ↔
      state.running = true ∧ ¬iteration.Fails := by
  unfold iterate RxIteration.Fails
  split_ifs with running failed quiet
  · simp [failed]
  · simp [running, quiet]
  · have polled : 0 < iteration.poll := by omega
    cases received : iteration.recvfrom with
    | ok bytes => cases bytes <;> simp [running, failed]
    | error errno =>
        by_cases again : errno = eagain
        · simp [running, failed, again]
        · simp [polled, again]
  · simp [running]

theorem enable_moves (sound : state.Sound) (iface : Option Iface)
    (channel : UInt32) (calls : EnableCalls) :
    (state.enable iface channel calls).2 = state ∨
    (state.sockfd < 0 ∧
      ((state.enable iface channel calls).2.Active ∨
        ((state.enable iface channel calls).2.sockfd < 0 ∧
          (state.enable iface channel calls).2.running = false))) := by
  by_cases wifi : ∃ found, iface = some found ∧ found.isWifi = true
  · obtain ⟨found, rfl, isWifi⟩ := wifi
    rcases state.enable_cases isWifi channel calls with
      ⟨-, already⟩ | ⟨-, ret, -, down, -⟩ | ⟨closed, -, ended⟩
    · exact .inl (by rw [already])
    · exact .inl (by rw [down])
    · have stopped : state.running = false :=
        Bool.eq_false_iff.mpr fun running =>
          Int.not_le.mpr closed (sound running)
      refine .inr ⟨closed, ?_⟩
      generalize state.enable (some found) channel calls = result at ended ⊢
      cases ended with
      | active active => exact .inl active
      | failed nonzero shut kept => exact .inr ⟨shut, kept.trans stopped⟩
  · have unchanged : state.enable iface channel calls = (-einval, state) :=
      enable_of_not_wifi state fun found same isWifi =>
        wifi ⟨found, same, isWifi⟩
    exact .inl (by rw [unchanged])

theorem step_sound (sound : state.Sound) (step : RxStep) :
    (state.step step).Sound := by
  cases step with
  | enable iface channel calls =>
      rcases enable_moves sound iface channel calls with
        same | ⟨-, active | ⟨-, stopped⟩⟩
      · change (state.enable iface channel calls).2.Sound
        rw [same]
        exact sound
      · exact fun _ => active.2
      · exact fun running => absurd (stopped.symm.trans running) (by decide)
  | disable =>
      unfold RawRx.step disable
      dsimp only
      split_ifs
      · exact sound
      · exact nofun
  | iteration iteration =>
      intro running
      change 0 ≤ (state.iterate iteration).sockfd
      rw [(iterate_keeps state iteration).1]
      exact sound ((iterate_running_iff state iteration).mp running).1

/-- The capture stalls when an iteration fails, and stays so until it is
disabled. -/
theorem step_stalled_iff (sound : state.Sound) (step : RxStep) :
    (state.step step).Stalled ↔
      (state.Stalled ∧ step ≠ .disable) ∨
      (state.running = true ∧
        ∃ iteration, step = .iteration iteration ∧ iteration.Fails) := by
  cases step with
  | enable iface channel calls =>
      simp only [RawRx.step, ne_eq, reduceCtorEq, not_false_eq_true, and_true,
        false_and, exists_false, and_false, or_false]
      rcases enable_moves sound iface channel calls with
        same | ⟨closed, active | ⟨shut, -⟩⟩
      · rw [same]
      · apply iff_of_false
        · exact fun stalled =>
            absurd (stalled.2.symm.trans active.1) (by decide)
        · exact fun stalled => Int.not_le.mpr closed stalled.1
      · apply iff_of_false
        · exact fun stalled => Int.not_le.mpr shut stalled.1
        · exact fun stalled => Int.not_le.mpr closed stalled.1
  | disable =>
      apply iff_of_false
      · unfold RawRx.step disable
        dsimp only
        split_ifs with closed
        · exact fun stalled => Int.not_le.mpr closed stalled.1
        · exact fun stalled =>
            absurd stalled.1 (show ¬(0 : Int) ≤ -1 by decide)
      · rintro (⟨-, other⟩ | ⟨-, iteration, other, -⟩)
        · exact other rfl
        · cases other
  | iteration iteration =>
      have flag := iterate_running_iff state iteration
      unfold Stalled RawRx.step
      dsimp only
      rw [(iterate_keeps state iteration).1, ← Bool.not_eq_true, flag,
        ← Bool.not_eq_true]
      constructor
      · rintro ⟨opened, stopped⟩
        by_cases running : state.running = true
        · refine .inr ⟨running, iteration, rfl, ?_⟩
          by_contra holds
          exact stopped ⟨running, holds⟩
        · exact .inl ⟨⟨opened, running⟩, nofun⟩
      · rintro (⟨⟨opened, stopped⟩, -⟩ | ⟨running, other, same, fails⟩)
        · exact ⟨opened, fun still => stopped still.1⟩
        · cases same
          exact ⟨sound running, fun still => still.2 fails⟩

/-- The capture has stalled after a run just when an iteration has failed and
no `disable` followed. -/
theorem run_stalled_iff (sound : state.Sound) (steps : List RxStep) :
    (state.run steps).Stalled ↔
      (state.Stalled ∧ .disable ∉ steps) ∨
      ∃ before iteration after,
        steps = before ++ .iteration iteration :: after ∧
          iteration.Fails ∧ (state.run before).running = true ∧
          .disable ∉ after := by
  induction steps generalizing state with
  | nil => simp [run]
  | cons step steps induction =>
      change ((state.step step).run steps).Stalled ↔ _
      rw [induction (step_sound sound step), step_stalled_iff sound step]
      constructor
      · rintro (⟨⟨stalled, other⟩ | ⟨running, iteration, rfl, fails⟩, none⟩ |
          ⟨before, iteration, after, rfl, fails, running, none⟩)
        · exact .inl ⟨stalled, fun member =>
            (List.mem_cons.mp member).elim (fun same => other same.symm) none⟩
        · exact .inr ⟨[], iteration, steps, rfl, fails, running, none⟩
        · exact .inr ⟨step :: before, iteration, after, rfl, fails, running,
            none⟩
      · rintro (⟨stalled, none⟩ |
          ⟨before, iteration, after, split, fails, running, none⟩)
        · refine .inl ⟨.inl ⟨stalled, fun same => none ?_⟩,
            fun member => none (List.mem_cons_of_mem step member)⟩
          exact same ▸ List.mem_cons_self
        · cases before with
          | nil =>
              obtain ⟨rfl, rfl⟩ := List.cons.inj split
              exact .inl ⟨.inr ⟨running, iteration, rfl, fails⟩, none⟩
          | cons first before =>
              obtain ⟨rfl, rfl⟩ := List.cons.inj split
              exact .inr ⟨before, iteration, after, rfl, fails, running, none⟩

end Runs

/-- In a run from the start, every `enable` that returns 0 leaves the thread
running on the open socket. -/
def ReportsTruly (radio : Nat → RadioSettings) (steps : List RxStep) : Prop :=
  ∀ before iface channel calls after,
    steps = before ++ .enable iface channel calls :: after →
    (((initial radio).run before).enable iface channel calls).1 = 0 →
    (((initial radio).run before).enable iface channel calls).2.Active

/-- An iteration of the running thread fails in a run and nothing disables the
capture behind it. -/
def DiesIn (radio : Nat → RadioSettings) (steps : List RxStep) : Prop :=
  ∃ before iteration after,
    steps = before ++ .iteration iteration :: after ∧
      iteration.Fails ∧ ((initial radio).run before).running = true ∧
      .disable ∉ after

theorem run_initial_stalled_iff (radio : Nat → RadioSettings)
    (steps : List RxStep) :
    ((initial radio).run steps).Stalled ↔ DiesIn radio steps := by
  have start : ¬(initial radio).Stalled :=
    fun stalled => absurd stalled.1 (show ¬(0 : Int) ≤ -1 by decide)
  rw [run_stalled_iff (by exact nofun) steps]
  simp only [start, false_and, false_or]
  rfl

/-- Raw capture is active whenever it is reported so just when every `enable`
on a Wi-Fi interface comes after a `disable` if the thread has died, and none
finds a failure to bring the interface up masked. -/
theorem reportsTruly_iff (radio : Nat → RadioSettings)
    (steps : List RxStep) :
    ReportsTruly radio steps ↔
      ∀ before iface channel calls after,
        steps = before ++ .enable (some iface) channel calls :: after →
        iface.isWifi = true →
        ¬DiesIn radio before ∧
          ¬((initial radio).run before).UpMasked iface calls := by
  constructor
  · intro truly before iface channel calls after split wifi
    rw [← run_initial_stalled_iff]
    exact (enable_honest_iff _ wifi channel calls).mp
      (truly before (some iface) channel calls after split)
  · intro attended before iface channel calls after split zero
    by_cases wifi : ∃ found, iface = some found ∧ found.isWifi = true
    · obtain ⟨found, rfl, isWifi⟩ := wifi
      have allowed := attended before found channel calls after split isWifi
      rw [← run_initial_stalled_iff] at allowed
      exact (enable_honest_iff _ isWifi channel calls).mpr allowed zero
    · rw [enable_of_not_wifi _ fun found same isWifi =>
        wifi ⟨found, same, isWifi⟩] at zero
      exact absurd zero (show ¬-einval = 0 by decide)

/-- Every call of an `enable` succeeds; the socket is 3. -/
def succeeding : EnableCalls where
  netIfUp := fun _ => 0
  setMode := 0
  getMode := 0
  txInjection := 0
  setChannel := 0
  setPacketFilter := 0
  socket := 3
  bind := 0

/-- Every interface is up, in station mode and without a packet filter. -/
def stations : Nat → RadioSettings := fun _ =>
  { up := true, mode := 1, txInjection := false, channel := 0, filter := 0
    bufferSize := 0 }

/-- An `enable` after a `poll` that failed returns 0 while no thread runs. -/
theorem not_reportsTruly_poll_failed :
    ¬ReportsTruly stations
      [.enable (some { index := 1, isWifi := true }) 6 succeeding,
        .iteration { poll := -1, recvfrom := .ok [] },
        .enable (some { index := 1, isWifi := true }) 6 succeeding] := by
  intro truly
  have active := truly
    [.enable (some { index := 1, isWifi := true }) 6 succeeding,
      .iteration { poll := -1, recvfrom := .ok [] }]
    (some { index := 1, isWifi := true }) 6 succeeding [] rfl (by decide)
  exact absurd active.1 (by decide)

end RawRx

end Wifi

end SerialLink
