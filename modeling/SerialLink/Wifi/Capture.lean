import SerialLink.Wifi.RawCapture

/-!
# What a raw capture is for

`Capture` listens on one interface from a successful `enable` to the next
`disable` or failure of its thread, and hears the packets of that time.  The
code behind it makes eight calls and keeps its state in three variables.
-/

namespace SerialLink

namespace Wifi

/-- A capture is deaf if its thread has left on an error while the socket is
still open. -/
inductive Listening where
  | off
  | on (index : Nat)
  | deaf
  deriving DecidableEq, Repr

/-- The purpose of a capture, with the interfaces that are up. -/
structure Capture where
  listening : Listening
  up : Nat → Bool
  heard : List (Nat × List UInt8)

/-- One of the five attempts to bring the interface up succeeds. -/
def EnableCalls.ComesUp (calls : EnableCalls) : Prop :=
  ∃ attempt < 5, calls.netIfUp attempt = 0

instance (calls : EnableCalls) : Decidable calls.ComesUp :=
  inferInstanceAs (Decidable (∃ attempt < 5, calls.netIfUp attempt = 0))

/-- The calls behind that succeed, where the channel is set if one is
given. -/
structure EnableCalls.Succeed (calls : EnableCalls) (channel : UInt32) :
    Prop where
  setMode : calls.setMode = 0
  txInjection : calls.txInjection = 0
  setChannel : channel ≠ 0 → calls.setChannel = 0
  setPacketFilter : calls.setPacketFilter = 0
  socket : 0 ≤ calls.socket
  bind : 0 ≤ calls.bind

theorem EnableCalls.succeed_iff (calls : EnableCalls) (channel : UInt32) :
    (calls.setMode = 0 ∧ calls.txInjection = 0 ∧
        (channel ≠ 0 → calls.setChannel = 0) ∧ calls.setPacketFilter = 0 ∧
        0 ≤ calls.socket ∧ 0 ≤ calls.bind) ↔ calls.Succeed channel := by
  constructor
  · rintro ⟨mode, injection, tuned, filtered, socket, bind⟩
    exact ⟨mode, injection, tuned, filtered, socket, bind⟩
  · rintro ⟨mode, injection, tuned, filtered, socket, bind⟩
    exact ⟨mode, injection, tuned, filtered, socket, bind⟩

instance (calls : EnableCalls) (channel : UInt32) :
    Decidable (calls.Succeed channel) :=
  decidable_of_iff _ (calls.succeed_iff channel)

namespace RxIteration

variable (iteration : RxIteration)

/-- The packet that an iteration reads, if any. -/
def packet : Option (List UInt8) :=
  if iteration.poll ≤ 0 then none
  else
    match iteration.recvfrom with
    | .ok (byte :: bytes) => some (byte :: bytes)
    | _ => none

/-- The thread leaves its loop, as a check. -/
def fails : Bool :=
  decide (iteration.poll < 0) ||
    (decide (0 < iteration.poll) &&
      match iteration.recvfrom with
      | .error errno => decide (errno ≠ eagain)
      | .ok _ => false)

theorem fails_iff : iteration.fails = true ↔ iteration.Fails := by
  unfold fails Fails
  cases iteration.recvfrom <;> simp

instance : Decidable iteration.Fails :=
  decidable_of_iff _ iteration.fails_iff

end RxIteration

namespace Capture

def initial (radio : Nat → RadioSettings) : Capture where
  listening := .off
  up := fun index => (radio index).up
  heard := []

/-- `enable` does something only if nothing is open yet. -/
def enable (capture : Capture) (iface : Iface) (channel : UInt32)
    (calls : EnableCalls) : Capture :=
  if capture.listening = .off ∧ iface.isWifi = true ∧
      (capture.up iface.index = true ∨ calls.ComesUp) then
    { capture with
      up := Function.update capture.up iface.index true
      listening :=
        if calls.Succeed channel then .on iface.index else .off }
  else capture

/-- Packets are heard in their order, on the interface that is listened to. -/
def listen (capture : Capture) (iteration : RxIteration) : Capture :=
  match capture.listening with
  | .on index =>
      if iteration.Fails then { capture with listening := .deaf }
      else
        { capture with
          heard := capture.heard ++
            (iteration.packet.map (index, ·)).toList }
  | _ => capture

def step (capture : Capture) : RxStep → Capture
  | .enable none _ _ => capture
  | .enable (some iface) channel calls => capture.enable iface channel calls
  | .disable => { capture with listening := .off }
  | .iteration iteration => capture.listen iteration

def run (capture : Capture) (steps : List RxStep) : Capture :=
  steps.foldl step capture

end Capture

/-- How the variables of the code tell the state of a capture. -/
def Listening.Shows (state : RawRx) : Listening → Prop
  | .off => state.sockfd < 0 ∧ state.running = false
  | .on index =>
      0 ≤ state.sockfd ∧ state.running = true ∧ state.iface = some index
  | .deaf => 0 ≤ state.sockfd ∧ state.running = false

/-- What the code has of a capture. -/
structure Refines (state : RawRx) (capture : Capture) : Prop where
  up : ∀ index, (state.radio index).up = capture.up index
  reported : state.reported =
    capture.heard.map fun packet => (some packet.1, packet.2)
  frameCount : state.frameCount = UInt32.ofNat capture.heard.length
  shows : capture.listening.Shows state

theorem initial_refines (radio : Nat → RadioSettings) :
    Refines (RawRx.initial radio) (Capture.initial radio) where
  up := fun _ => rfl
  reported := rfl
  frameCount := rfl
  shows := ⟨show (-1 : Int) < 0 by decide, rfl⟩

namespace RawRx

/-- What `enable` leaves as it is. -/
structure Keeps (state later : RawRx) : Prop where
  up : ∀ index, (later.radio index).up = (state.radio index).up
  reported : later.reported = state.reported
  frameCount : later.frameCount = state.frameCount

/-- How a part of `enable` ends: as wanted, or with nothing open. -/
structure Settles (index : Nat) (wanted : Prop) (state later : RawRx) :
    Prop where
  keeps : Keeps state later
  opened : wanted → (Listening.on index).Shows later
  closed : ¬wanted → later.sockfd < 0 ∧ later.running = state.running

section Enable

variable {state later last : RawRx} {index : Nat} {channel : UInt32}
  {calls : EnableCalls}

theorem Keeps.refl (state : RawRx) : Keeps state state :=
  ⟨fun _ => rfl, rfl, rfl⟩

theorem Keeps.trans (first : Keeps state later) (second : Keeps later last) :
    Keeps state last where
  up := fun index => (second.up index).trans (first.up index)
  reported := second.reported.trans first.reported
  frameCount := second.frameCount.trans first.frameCount

theorem tune_keeps (state : RawRx) (index : Nat)
    {change : RadioSettings → RadioSettings}
    (same : ∀ settings, (change settings).up = settings.up) :
    Keeps state (state.tune index change) where
  up := by
    intro other
    unfold tune
    rcases eq_or_ne other index with rfl | different
    · simp [same]
    · simp [different]
  reported := rfl
  frameCount := rfl

theorem readBack_keeps (state : RawRx) :
    Keeps state (state.readBack index calls) := by
  unfold readBack
  split <;> exact ⟨fun _ => rfl, rfl, rfl⟩

/-- A part of `enable` behind another that opens nothing. -/
theorem Settles.after {wanted : Prop}
    (settles : Settles index wanted later last)
    (keeps : Keeps state later) (running : later.running = state.running) :
    Settles index wanted state last where
  keeps := keeps.trans settles.keeps
  opened := settles.opened
  closed := by
    intro unwanted
    obtain ⟨closed, same⟩ := settles.closed unwanted
    exact ⟨closed, same.trans running⟩

/-- A part of `enable` that is left with an error. -/
theorem Settles.left {wanted : Prop} (unwanted : ¬wanted)
    (keeps : Keeps state later) (closed : later.sockfd < 0)
    (running : later.running = state.running) :
    Settles index wanted state later where
  keeps := keeps
  opened := fun holds => absurd holds unwanted
  closed := fun _ => ⟨closed, running⟩

theorem Settles.congr {wanted other : Prop}
    (settles : Settles index wanted state later) (same : wanted ↔ other) :
    Settles index other state later where
  keeps := settles.keeps
  opened := fun holds => settles.opened (same.mpr holds)
  closed := fun unwanted => settles.closed (mt same.mp unwanted)

variable (index channel calls)

theorem openSocket_settles (state : RawRx) :
    Settles index (0 ≤ calls.socket ∧ 0 ≤ calls.bind) state
      (state.openSocket index calls).2 := by
  unfold openSocket
  split_ifs with refused unbound
  · exact .left (by omega) ⟨fun _ => rfl, rfl, rfl⟩ refused rfl
  · exact .left (by omega) ⟨fun _ => rfl, rfl, rfl⟩
      (show (-1 : Int) < 0 by decide) rfl
  · refine ⟨⟨fun _ => rfl, rfl, rfl⟩, fun opened => ⟨opened.1, rfl, rfl⟩, ?_⟩
    intro unwanted
    omega

theorem filterAll_settles (closed : state.sockfd < 0) :
    Settles index (calls.setPacketFilter = 0 ∧ 0 ≤ calls.socket ∧
      0 ≤ calls.bind) state (state.filterAll index calls).2 := by
  unfold filterAll
  split_ifs with refused
  · exact .left (fun wanted => refused wanted.1) (.refl state) closed rfl
  · refine Settles.congr ((openSocket_settles index calls _).after ?_ rfl) ?_
    · exact tune_keeps state index fun _ => rfl
    · simp [not_not.mp refused]

theorem tuneChannel_settles (closed : state.sockfd < 0) :
    Settles index ((channel ≠ 0 → calls.setChannel = 0) ∧
      calls.setPacketFilter = 0 ∧ 0 ≤ calls.socket ∧ 0 ≤ calls.bind) state
      (state.tuneChannel index channel calls).2 := by
  unfold tuneChannel
  split_ifs with given refused
  · exact .left (fun wanted => refused (wanted.1 given)) (.refl state) closed
      rfl
  · refine Settles.congr ((filterAll_settles index calls ?_).after ?_ rfl) ?_
    · exact closed
    · exact tune_keeps state index fun _ => rfl
    · simp [not_not.mp refused]
  · refine (filterAll_settles index calls closed).congr ?_
    simp [not_not.mp given]

/-- From the monitor mode on, a capture is opened if all calls succeed. -/
theorem enterMonitor_settles (closed : state.sockfd < 0) :
    Settles index (calls.Succeed channel) state
      (state.enterMonitor index channel calls).2 := by
  unfold enterMonitor
  dsimp only
  split_ifs with refused injection
  · exact .left (fun wanted => refused wanted.setMode) (.refl state) closed
      rfl
  · refine .left (fun wanted => injection wanted.txInjection)
      (.trans ?_ (readBack_keeps _)) ?_ (readBack_running _)
    · exact tune_keeps state index fun _ => rfl
    · rw [readBack_sockfd]
      exact closed
  · refine Settles.congr ((tuneChannel_settles index channel calls ?_).after
      (.trans (.trans ?_ (readBack_keeps _)) (tune_keeps _ index ?_))
      (readBack_running _)) ?_
    · change (readBack _ index calls).sockfd < 0
      rw [readBack_sockfd]
      exact closed
    · exact tune_keeps state index fun _ => rfl
    · exact fun _ => rfl
    · rw [← calls.succeed_iff]
      simp [not_not.mp refused, not_not.mp injection]

/-- The loop around `net_if_up` succeeds if an attempt does. -/
theorem upRet_eq_zero_iff (netIfUp : Nat → Int) (remaining attempt : Nat)
    {last : Int} (failed : last ≠ 0) :
    upRet netIfUp remaining attempt last = 0 ↔
      ∃ later < remaining, netIfUp (attempt + later) = 0 := by
  induction remaining generalizing attempt last with
  | zero => simp [upRet, failed]
  | succ remaining induction =>
      rw [upRet]
      split_ifs with up
      · exact iff_of_true rfl ⟨0, Nat.succ_pos _, up⟩
      · rw [induction (attempt + 1) up]
        constructor
        · rintro ⟨later, few, zero⟩
          refine ⟨later + 1, by omega, ?_⟩
          rwa [Nat.add_comm later 1, ← Nat.add_assoc]
        · rintro ⟨later, few, zero⟩
          cases later with
          | zero => exact absurd zero up
          | succ later =>
              refine ⟨later, by omega, ?_⟩
              rwa [Nat.add_assoc, Nat.add_comm 1 later]

theorem comesUp_iff (calls : EnableCalls) :
    upRet calls.netIfUp 5 0 (-eio) = 0 ↔ calls.ComesUp := by
  rw [upRet_eq_zero_iff calls.netIfUp 5 0 (by decide)]
  simp [EnableCalls.ComesUp]

end Enable

end RawRx

section Refinement

variable {state : RawRx} {capture : Capture}

/-- `enable` behind its checks, on an interface that is up by now. -/
theorem Refines.settles (refines : Refines state capture)
    (idle : state.running = false) {base later : RawRx} {index : Nat}
    {channel : UInt32} {calls : EnableCalls}
    (up : ∀ other,
      (base.radio other).up = Function.update capture.up index true other)
    (reported : base.reported = state.reported)
    (frameCount : base.frameCount = state.frameCount)
    (running : base.running = state.running)
    (settles : RawRx.Settles index (calls.Succeed channel) base later) :
    Refines later
      { capture with
        up := Function.update capture.up index true
        listening :=
          if calls.Succeed channel then .on index else .off } where
  up := fun other => (settles.keeps.up other).trans (up other)
  reported :=
    settles.keeps.reported.trans (reported.trans refines.reported)
  frameCount :=
    settles.keeps.frameCount.trans (frameCount.trans refines.frameCount)
  shows := by
    dsimp only
    split_ifs with succeed
    · exact settles.opened succeed
    · obtain ⟨closed, same⟩ := settles.closed succeed
      exact ⟨closed, same.trans (running.trans idle)⟩

theorem Refines.enable (refines : Refines state capture) (iface : Iface)
    (channel : UInt32) (calls : EnableCalls) :
    Refines (state.enable (some iface) channel calls).2
      (capture.enable iface channel calls) := by
  have shows := refines.shows
  have up := refines.up iface.index
  unfold RawRx.enable Capture.enable
  dsimp only
  by_cases wifi : iface.isWifi = true
  · rw [if_neg (not_not.mpr wifi)]
    by_cases off : capture.listening = .off
    · rw [off] at shows
      obtain ⟨closed, idle⟩ := shows
      rw [if_neg (Int.not_le.mpr closed)]
      by_cases already : (state.radio iface.index).up = true
      · rw [if_neg (not_not.mpr already),
          if_pos ⟨off, wifi, .inl (up ▸ already)⟩]
        refine refines.settles idle ?_ rfl rfl rfl
          (RawRx.enterMonitor_settles iface.index channel calls closed)
        intro other
        rw [refines.up other]
        rcases eq_or_ne other iface.index with rfl | different
        · simp [← up, already]
        · simp [different]
      · rw [if_pos already]
        by_cases comes : RawRx.upRet calls.netIfUp 5 0 (-eio) = 0
        · rw [if_neg (not_not.mpr comes),
            if_pos ⟨off, wifi, .inr ((RawRx.comesUp_iff calls).mp comes)⟩]
          refine refines.settles idle ?_ ?_ ?_ ?_
            (RawRx.enterMonitor_settles iface.index channel calls ?_)
          · intro other
            unfold RawRx.tune
            rcases eq_or_ne other iface.index with rfl | different
            · simp
            · simp [different, refines.up other]
          · rfl
          · rfl
          · rfl
          · exact closed
        · rw [if_pos comes, if_neg]
          · exact refines
          · rintro ⟨-, -, isUp | comesUp⟩
            · exact already (up.trans isUp)
            · exact comes ((RawRx.comesUp_iff calls).mpr comesUp)
    · have opened : 0 ≤ state.sockfd := by
        cases listening : capture.listening with
        | off => exact absurd listening off
        | on index =>
            rw [listening] at shows
            exact shows.1
        | deaf =>
            rw [listening] at shows
            exact shows.1
      rw [if_pos opened, if_neg fun holds => off holds.1]
      exact refines
  · rw [if_pos wifi, if_neg fun holds => wifi holds.2.1]
    exact refines

/-- What an iteration of the running thread may do. -/
theorem RawRx.iterate_cases (running : state.running = true)
    (iteration : RxIteration) :
    (iteration.Fails ∧
        state.iterate iteration = { state with running := false }) ∨
      (¬iteration.Fails ∧ iteration.packet = none ∧
        state.iterate iteration = state) ∨
      (¬iteration.Fails ∧ ∃ bytes, iteration.packet = some bytes ∧
        state.iterate iteration =
          { state with
            frameCount := state.frameCount + 1
            reported := state.reported ++ [(state.iface, bytes)] }) := by
  unfold RawRx.iterate RxIteration.packet
  rw [if_pos running, ← iteration.fails_iff, RxIteration.fails]
  by_cases failed : iteration.poll < 0
  · simp [failed]
  by_cases quiet : iteration.poll = 0
  · simp [quiet]
  have polled : 0 < iteration.poll := by omega
  have positive : ¬iteration.poll ≤ 0 := by omega
  simp only [failed, quiet, polled, positive, if_false]
  cases iteration.recvfrom with
  | error errno =>
      by_cases again : errno = eagain <;> simp [again]
  | ok bytes => cases bytes <;> simp

theorem Refines.iterate (refines : Refines state capture)
    (iteration : RxIteration) :
    Refines (state.iterate iteration) (capture.listen iteration) := by
  have shows := refines.shows
  unfold Capture.listen
  cases listening : capture.listening with
  | off | deaf =>
      rw [listening] at shows
      unfold RawRx.iterate
      rw [if_neg (by rw [shows.2]; decide)]
      exact refines
  | on index =>
      rw [listening] at shows
      dsimp only
      rcases RawRx.iterate_cases shows.2.1 iteration with
        ⟨fails, same⟩ | ⟨works, none, same⟩ | ⟨works, bytes, some, same⟩
      · rw [same, if_pos fails]
        exact ⟨refines.up, refines.reported, refines.frameCount, shows.1, rfl⟩
      · rw [same, if_neg works, none]
        refine ⟨refines.up, ?_, ?_, shows⟩
        · simp [refines.reported]
        · simp [refines.frameCount]
      · rw [same, if_neg works, some]
        refine ⟨refines.up, ?_, ?_, shows⟩
        · simp [refines.reported, shows.2.2]
        · simp [refines.frameCount, UInt32.ofNat_add]

theorem Refines.step (refines : Refines state capture) (step : RxStep) :
    Refines (state.step step) (capture.step step) := by
  cases step with
  | enable iface channel calls =>
      cases iface with
      | none => exact refines
      | some iface => exact refines.enable iface channel calls
  | disable =>
      have shows := refines.shows
      simp only [RawRx.step, RawRx.disable, Capture.step]
      split_ifs with closed
      · refine ⟨refines.up, refines.reported, refines.frameCount, closed, ?_⟩
        cases listening : capture.listening with
        | off =>
            rw [listening] at shows
            exact shows.2
        | on index =>
            rw [listening] at shows
            exact absurd closed (Int.not_lt.mpr shows.1)
        | deaf =>
            rw [listening] at shows
            exact shows.2
      · exact ⟨refines.up, refines.reported, refines.frameCount,
          show (-1 : Int) < 0 by decide, rfl⟩
  | iteration iteration => exact refines.iterate iteration

end Refinement

/-- A capture forgets nothing that it has heard. -/
theorem Capture.exists_heard (capture : Capture) (step : RxStep) :
    ∃ news, (capture.step step).heard = capture.heard ++ news := by
  cases step with
  | enable iface channel calls =>
      cases iface with
      | none => exact ⟨[], (List.append_nil _).symm⟩
      | some iface =>
          refine ⟨[], ?_⟩
          simp only [Capture.step, Capture.enable]
          split <;> exact (List.append_nil _).symm
  | disable => exact ⟨[], (List.append_nil _).symm⟩
  | iteration iteration =>
      simp only [Capture.step, Capture.listen]
      split
      · split
        · exact ⟨[], (List.append_nil _).symm⟩
        · exact ⟨_, rfl⟩
      · exact ⟨[], (List.append_nil _).symm⟩

end Wifi

end SerialLink
