import SerialLink.Device.BufferSafety
import SerialLink.Device.Exchange
import SerialLink.Host.Send
import SerialLink.Link.Composition

/-!
# One-way traffic

Frames sent with `bus_send` reach the device one after the other, and its
answers reach the host before the next call.  The device resets its expected
number when it rejects a frame; `bus_send` goes on counting and never looks at
an answer.  The counters therefore meet again only where the host's wraps.
-/

namespace SerialLink

/-- The two ends between two calls of `bus_send`. -/
structure OneWay where
  host : Bus
  device : Device

namespace OneWay

inductive Outcome where
  | accepted
  | rejected
  deriving DecidableEq, Repr

/-- The answers sent from one state of the device to a later one. -/
def newAnswers (device later : Device) : List SerialHeader :=
  (answers later.trace).drop (answers device.trace).length

/-- How the two outcomes show at the device. -/
def Outcome.Shows (client : Client) (type : SerialType)
    (payload : List UInt8) (device later : Device) : Outcome → Prop
  | accepted => ∃ state, completions later.trace =
      completions device.trace ++ [(client, payload.length, state)]
  | rejected =>
      completions later.trace = completions device.trace ∧
        Device.ackHeader type device.rxSequenceNumber
          .incorrectSequenceNumber ∈ newAnswers device later

/-- The bytes of an answer arrive at the host. -/
def hear (bus : Bus) (answer : SerialHeader) : Bus :=
  ({ bus with rxFifo := bus.rxFifo ++ answer.encode }).busRxIsr.takeWork
    |>.busRxWork

/-- The thread of a management client takes its message. -/
def settle (client : Client) (device : Device) : Device :=
  if client.isMgmt then Reception.resetLength client device else device

/-- One call of `bus_send`: the frame reaches the device whole, its answers
reach the host, and the client's thread takes the message. -/
inductive Transfers (build : Build) (client : Client) (type : SerialType)
    (payload : List UInt8) (link : OneWay) : Outcome → OneWay → Prop where
  | transfer {sent : Bus} {served : Device} {outcome : Outcome}
      (called : link.host.busSend type payload = .ok sent)
      (serves : Device.Serves build
        (link.device.arrive (sent.written.drop link.host.written.length))
        served)
      (unharmed : served.stray = false)
      (shows : outcome.Shows client type payload link.device served) :
      Transfers build client type payload link outcome
        { host := (newAnswers link.device served).foldl hear sent
          device := settle client served }

/-- A sequence of calls. -/
inductive Traffic (build : Build) (client : Client) (type : SerialType) :
    OneWay → List (List UInt8) → List Outcome → OneWay → Prop where
  | nil (link : OneWay) : Traffic build client type link [] [] link
  | cons {link later final : OneWay} {payload : List UInt8}
      {payloads : List (List UInt8)} {outcome : Outcome}
      {outcomes : List Outcome} :
      Transfers build client type payload link outcome later →
      Traffic build client type later payloads outcomes final →
      Traffic build client type link (payload :: payloads)
        (outcome :: outcomes) final

/-- At most one frame of the sequence is rejected, all others are accepted,
and behind it the counters agree. -/
def Realigns (build : Build) (client : Client) (type : SerialType)
    (payloads : List (List UInt8)) (link : OneWay) : Prop :=
  ∃ outcomes final, Traffic build client type link payloads outcomes final ∧
    outcomes.count .rejected ≤ 1 ∧
    (payloads ≠ [] → final.host.txSeq = final.device.rxSequenceNumber)

/-- The host between two calls. -/
structure Listening (bus : Bus) : Prop where
  opened : bus.opened = true
  idle : bus.requestPending = false
  boundary : bus.state = .type
  empty : bus.rxFifo = []
  bounded : bus.txSeq ≤ sequenceNumberMax

theorem Listening.hear {bus : Bus} {answer : SerialHeader}
    (listening : Listening bus) (empty : answer.length.val = 0) :
    Listening (hear bus answer) ∧
      (OneWay.hear bus answer).txSeq = bus.txSeq := by
  let frame : Frame :=
    { header := answer, payload := [], length_eq := empty }
  let arrived : Bus := { bus with rxFifo := bus.rxFifo ++ answer.encode }
  have fifo : arrived.rxFifo = frame.encode ++ [] := by
    simp [arrived, listening.empty, frame, Frame.encode]
  have heard : OneWay.hear bus answer =
      ({ arrived with rxFifo := [], rxWorkPending := false }).receive frame :=
    Bus.receive_of_bytes listening.boundary (Nat.zero_le _) fifo
  have same := Bus.receive_sameThread
    { arrived with rxFifo := [], rxWorkPending := false } frame
  have behind := Bus.receive_boundary
    { arrived with rxFifo := [], rxWorkPending := false } frame
  rw [heard]
  exact ⟨⟨same.opened.trans listening.opened,
    same.requestPending.trans listening.idle, behind.1, behind.2.1,
    same.txSeq.le.trans listening.bounded⟩, same.txSeq⟩

theorem Listening.foldl_hear {bus : Bus} {heard : List SerialHeader}
    (listening : Listening bus)
    (empty : ∀ answer ∈ heard, answer.length.val = 0) :
    Listening (heard.foldl OneWay.hear bus) ∧
      (heard.foldl OneWay.hear bus).txSeq = bus.txSeq := by
  induction heard generalizing bus with
  | nil => exact ⟨listening, rfl⟩
  | cons answer heard induction =>
      obtain ⟨still, same⟩ := listening.hear (empty answer (by simp))
      obtain ⟨final, unchanged⟩ := induction still
        (fun other member => empty other (List.mem_cons_of_mem _ member))
      exact ⟨final, unchanged.trans same⟩

/-- Both ends between two calls. -/
structure Standing (client : Client) (link : OneWay) : Prop where
  host : Listening link.host
  device : Device.Ready client link.device

/-- The counters agree. -/
def Aligned (link : OneWay) : Prop :=
  link.host.txSeq = link.device.rxSequenceNumber

instance (link : OneWay) : Decidable (Aligned link) :=
  inferInstanceAs (Decidable (_ = _))

/-- The frame of a call of `bus_send`. -/
def callFrame (bus : Bus) (type : SerialType) (payload : List UInt8)
    (bounded : payload.length ≤ serialMaxPayloadLen) : Frame :=
  .ofPayload type (Fin.ofNat 16 bus.txSeq) payload
    (Nat.lt_of_le_of_lt bounded (by decide))

section Call

variable {build : Build} {client : Client} {type : SerialType}
  {payload : List UInt8} {link later : OneWay}
  (callbacks : serialMuxGetCallbacks build type = some client)
  (positive : 0 < payload.length)
  (bounded : payload.length ≤ serialMaxPayloadLen)
  (standing : Standing client link)

include callbacks positive bounded

/-- A call with a legal payload writes its frame. -/
theorem busSend_frame {bus : Bus} (listening : Listening bus) :
    ∃ sent, bus.busSend type payload = .ok sent ∧ Listening sent ∧
      sent.txSeq = seqNext bus.txSeq ∧
      sent.written.drop bus.written.length =
        (callFrame bus type payload bounded).encode := by
  have passed : bus.checkRequest (Bus.sendCall type payload) = .ok () :=
    Bus.checkRequest_ok listening.opened (known_of_callbacks callbacks)
      positive bounded
  have header : bus.requestHeader (Bus.sendCall type payload) =
      (callFrame bus type payload bounded).header := by
    have small : payload.length % 65536 = payload.length := by
      unfold serialMaxPayloadLen at bounded
      exact Nat.mod_eq_of_lt (by omega)
    simp [Bus.requestHeader, Bus.sendCall, callFrame, Frame.ofPayload,
      Fin.ofNat, small]
  refine ⟨_, by rw [Bus.busSend, passed], ?_, rfl, ?_⟩
  · exact { listening with bounded := seqNext_le _ }
  · rw [header]
    simp [Bus.written, Bus.busSendRaw, Bus.reserveSend, busHeaderEncode_eq,
      Frame.encode]
    rfl

include standing

theorem alone_callFrame :
    Device.Alone build client (callFrame link.host type payload bounded)
      (link.device.arrive
        (callFrame link.host type payload bounded).encode) :=
  standing.device.alone callbacks positive bounded rfl

omit callbacks positive in
theorem callFrame_expected :
    (callFrame link.host type payload bounded).header.sequenceNumber.val =
        link.device.rxSequenceNumber ↔ Aligned link := by
  have small := standing.host.bounded
  unfold sequenceNumberMax at small
  have numbered : (callFrame link.host type payload
      bounded).header.sequenceNumber.val = link.host.txSeq :=
    Nat.mod_eq_of_lt (by omega)
  rw [numbered, Aligned]

omit callbacks positive bounded standing in
theorem settle_ready {device served : Device} {frame : Frame}
    (exchanged : Device.Exchanged client frame device served) :
    Device.Ready client (settle client served) := by
  unfold settle
  split
  · exact
      { exchanged with
        idle := by simp [Reception.resetLength, Device.setClient] }
  · next other =>
      exact { exchanged with idle := exchanged.idle (by simpa using other) }

omit callbacks positive bounded standing in
theorem settle_rxSequenceNumber (client : Client) (device : Device) :
    (settle client device).rxSequenceNumber = device.rxSequenceNumber := by
  unfold settle
  split <;> rfl

/-- The outcome of the next call. -/
def outcomeOf (link : OneWay) : Outcome :=
  if Aligned link then .accepted else .rejected

/-- A call whose payload the client has room for: the host counts on, and the
device counts on or starts again from zero. -/
theorem transfers_of_fits (designates : client ≠ .wifiData)
    (fits : payload.length ≤ client.capacity build) :
    ∃ later, Transfers build client type payload link (outcomeOf link) later ∧
      Standing client later ∧
      later.host.txSeq = seqNext link.host.txSeq ∧
      later.device.rxSequenceNumber =
        if Aligned link then seqNext link.device.rxSequenceNumber else 0 := by
  obtain ⟨sent, called, listening, counted, written⟩ :=
    busSend_frame callbacks positive bounded standing.host
  have alone := alone_callFrame callbacks positive bounded standing
  have expected : (callFrame link.host type payload
      bounded).header.sequenceNumber.val = link.device.rxSequenceNumber ↔
        Aligned link := callFrame_expected bounded standing
  obtain ⟨served, serves, exchanged⟩ := alone.serves_exchanged designates fits
  obtain ⟨further, answered, ofBuffers⟩ := exchanged.answered
  have heard : newAnswers link.device served = Device.firstAnswer
      (callFrame link.host type payload bounded) link.device :: further := by
    rw [newAnswers, answered]
    exact List.drop_left
  have empty : ∀ answer ∈ newAnswers link.device served,
      answer.length.val = 0 := by
    rw [heard]
    intro answer member
    rcases List.mem_cons.mp member with rfl | later
    · unfold Device.firstAnswer
      split <;> rfl
    · exact (ofBuffers answer later).2
  obtain ⟨still, same⟩ := listening.foldl_hear empty
  have shows : (outcomeOf link).Shows client type payload link.device
      served := by
    unfold outcomeOf
    split
    · next aligned => exact exchanged.delivered (expected.mpr aligned)
    · next misaligned =>
        have unexpected := fun equal => misaligned (expected.mp equal)
        refine ⟨exchanged.withheld unexpected, ?_⟩
        rw [heard, Device.firstAnswer,
          if_neg (fun equal => unexpected equal.symm)]
        exact List.mem_cons_self
  refine ⟨_, .transfer called (written ▸ serves) exchanged.unharmed shows,
    ⟨still, settle_ready exchanged⟩, same.trans counted, ?_⟩
  rw [settle_rxSequenceNumber, exchanged.received]
  exact if_congr expected rfl rfl

omit callbacks positive bounded standing in
/-- A call has one outcome and one effect. -/
theorem Transfers.unique {left right : OneWay} {first second : Outcome}
    (one : Transfers build client type payload link first left)
    (other : Transfers build client type payload link second right) :
    first = second ∧ left = right := by
  obtain ⟨called, serves, -, shows⟩ := one
  obtain ⟨calledAgain, servesAgain, -, showsAgain⟩ := other
  rw [called] at calledAgain
  cases calledAgain
  cases serves.unique servesAgain
  refine ⟨?_, rfl⟩
  cases first with
  | accepted =>
      cases second with
      | accepted => rfl
      | rejected =>
          obtain ⟨state, told⟩ := shows
          exact absurd (told.symm.trans showsAgain.1) (by simp)
  | rejected =>
      cases second with
      | rejected => rfl
      | accepted =>
          obtain ⟨state, told⟩ := showsAgain
          exact absurd (told.symm.trans shows.1) (by simp)

/-- A frame is neither accepted nor rejected for its number if the client has
no room for it, and the data proxy has no place for any. -/
theorem Transfers.fits {outcome : Outcome}
    (transfers : Transfers build client type payload link outcome later) :
    client ≠ .wifiData ∧ payload.length ≤ client.capacity build := by
  obtain ⟨sent, called, -, -, written⟩ :=
    busSend_frame callbacks positive bounded standing.host
  have alone := alone_callFrame callbacks positive bounded standing
  obtain ⟨calledAgain, serves, unharmed, shows⟩ := transfers
  rw [called] at calledAgain
  cases calledAgain
  rw [written] at serves
  have fits : payload.length ≤ client.capacity build := by
    apply Nat.le_of_not_lt
    intro exceeds
    obtain ⟨untold, answered⟩ := alone.refused_of_exceeds exceeds serves
    cases outcome with
    | accepted =>
        obtain ⟨state, told⟩ := shows
        have lengths := congrArg List.length (told.symm.trans untold)
        simp [Device.arrive] at lengths
    | rejected =>
        have member := shows.2
        rw [newAnswers, answered, Device.arrive, List.drop_left,
          List.mem_singleton] at member
        have errors := congrArg SerialHeader.error member
        simp [Device.ackHeader] at errors
  refine ⟨?_, fits⟩
  intro data
  have stray := alone.stray_of_wifiData data fits serves
  rw [unharmed] at stray
  cases stray

/-- A call is as `transfers_of_fits` says. -/
theorem Transfers.effect {outcome : Outcome}
    (transfers : Transfers build client type payload link outcome later) :
    outcome = outcomeOf link ∧ Standing client later ∧
      later.host.txSeq = seqNext link.host.txSeq ∧
      later.device.rxSequenceNumber =
        if Aligned link then seqNext link.device.rxSequenceNumber else 0 := by
  obtain ⟨designates, fits⟩ :=
    transfers.fits callbacks positive bounded standing
  obtain ⟨other, same, rest⟩ :=
    transfers_of_fits callbacks positive bounded standing designates fits
  obtain ⟨rfl, rfl⟩ := transfers.unique same
  exact ⟨rfl, rest⟩

end Call

/-- The payloads `bus_send` sends. -/
def Legal (payloads : List (List UInt8)) : Prop :=
  ∀ payload ∈ payloads,
    0 < payload.length ∧ payload.length ≤ serialMaxPayloadLen

/-- The payloads a client has room for. -/
def AllFit (build : Build) (client : Client)
    (payloads : List (List UInt8)) : Prop :=
  ∀ payload ∈ payloads, payload.length ≤ client.capacity build

section Sequence

variable {build : Build} {client : Client} {type : SerialType}
  {payloads : List (List UInt8)} {outcomes : List Outcome}
  {link final : OneWay}
  (callbacks : serialMuxGetCallbacks build type = some client)

include callbacks

/-- Once the counters agree they stay together. -/
theorem traffic_of_aligned (designates : client ≠ .wifiData)
    (legal : Legal payloads) (allFit : AllFit build client payloads)
    (standing : Standing client link) (aligned : Aligned link) :
    ∃ final, Traffic build client type link payloads
        (List.replicate payloads.length .accepted) final ∧
      Aligned final := by
  induction payloads generalizing link with
  | nil => exact ⟨link, .nil link, aligned⟩
  | cons payload payloads induction =>
      obtain ⟨positive, bounded⟩ := legal payload List.mem_cons_self
      obtain ⟨later, transfers, still, sent, received⟩ :=
        transfers_of_fits callbacks positive bounded standing designates
          (allFit payload List.mem_cons_self)
      rw [if_pos aligned] at received
      rw [outcomeOf, if_pos aligned] at transfers
      have together : Aligned later := by
        rw [Aligned, sent, received, aligned]
      obtain ⟨final, traffic, agree⟩ := induction
        (fun other member => legal other (List.mem_cons_of_mem _ member))
        (fun other member => allFit other (List.mem_cons_of_mem _ member))
        still together
      exact ⟨final, .cons transfers traffic, agree⟩

/-- No call of a sequence can be one without room. -/
theorem Traffic.allFit
    (traffic : Traffic build client type link payloads outcomes final)
    (legal : Legal payloads) (standing : Standing client link) :
    AllFit build client payloads ∧
      (payloads ≠ [] → client ≠ .wifiData) := by
  induction traffic with
  | nil => exact ⟨nofun, nofun⟩
  | cons transfers _ induction =>
      obtain ⟨positive, bounded⟩ := legal _ List.mem_cons_self
      obtain ⟨designates, fits⟩ :=
        transfers.fits callbacks positive bounded standing
      obtain ⟨-, still, -⟩ :=
        transfers.effect callbacks positive bounded standing
      obtain ⟨others, -⟩ := induction
        (fun other member => legal other (List.mem_cons_of_mem _ member)) still
      refine ⟨?_, fun _ => designates⟩
      intro payload member
      rcases List.mem_cons.mp member with rfl | later
      · exact fits
      · exact others payload later

/-- A misaligned host has every frame rejected until its counter wraps. -/
theorem Traffic.count_rejected
    (traffic : Traffic build client type link payloads outcomes final)
    (legal : Legal payloads) (standing : Standing client link)
    (misaligned : ¬Aligned link) :
    min payloads.length (16 - link.host.txSeq) ≤
      outcomes.count .rejected := by
  induction traffic with
  | nil => exact Nat.min_le_left _ _
  | @cons link later final payload payloads outcome outcomes transfers _
      induction =>
      obtain ⟨positive, bounded⟩ := legal _ List.mem_cons_self
      obtain ⟨rfl, still, sent, received⟩ :=
        transfers.effect callbacks positive bounded standing
      rw [if_neg misaligned] at received
      rw [outcomeOf, if_neg misaligned, List.count_cons_self, List.length_cons]
      by_cases last : link.host.txSeq = 15
      · omega
      · have small := standing.host.bounded
        unfold sequenceNumberMax at small
        have next : later.host.txSeq = link.host.txSeq + 1 := by
          rw [sent, seqNext, if_neg (by unfold sequenceNumberMax; omega)]
        have apart : ¬Aligned later := by
          rw [Aligned, next, received]
          omega
        have rest := induction
          (fun other member => legal other (List.mem_cons_of_mem _ member))
          still apart
        omega

/-- From the last number on, the rejected frame is the only one. -/
theorem realigns_of_last (designates : client ≠ .wifiData)
    (legal : Legal payloads) (allFit : AllFit build client payloads)
    (standing : Standing client link) (misaligned : ¬Aligned link)
    (last : link.host.txSeq = 15) :
    Realigns build client type payloads link := by
  cases payloads with
  | nil => exact ⟨[], link, .nil link, Nat.zero_le _, nofun⟩
  | cons payload payloads =>
      obtain ⟨positive, bounded⟩ := legal payload List.mem_cons_self
      obtain ⟨later, transfers, still, sent, received⟩ :=
        transfers_of_fits callbacks positive bounded standing designates
          (allFit payload List.mem_cons_self)
      rw [if_neg misaligned] at received
      have together : Aligned later := by
        rw [Aligned, sent, last, received]
        rfl
      obtain ⟨final, traffic, agree⟩ := traffic_of_aligned callbacks designates
        (fun other member => legal other (List.mem_cons_of_mem _ member))
        (fun other member => allFit other (List.mem_cons_of_mem _ member))
        still together
      refine ⟨_, final, .cons transfers traffic, ?_, fun _ => agree⟩
      rw [outcomeOf, if_neg misaligned, List.count_cons_self,
        List.count_replicate]
      exact Nat.le_refl 1

theorem realigns_of_aligned (designates : client ≠ .wifiData)
    (legal : Legal payloads) (allFit : AllFit build client payloads)
    (standing : Standing client link) (aligned : Aligned link) :
    Realigns build client type payloads link := by
  obtain ⟨final, traffic, agree⟩ := traffic_of_aligned callbacks designates
    legal allFit standing aligned
  refine ⟨_, final, traffic, ?_, fun _ => agree⟩
  rw [List.count_replicate]
  exact Nat.zero_le 1

/-- Before the last number, either a second frame is rejected or the only one
leaves the host's counter above zero. -/
theorem not_realigns_of_early (legal : Legal payloads)
    (nonempty : payloads ≠ []) (standing : Standing client link)
    (misaligned : ¬Aligned link) (early : link.host.txSeq ≠ 15) :
    ¬Realigns build client type payloads link := by
  rintro ⟨outcomes, final, traffic, few, agree⟩
  have many := traffic.count_rejected callbacks legal standing misaligned
  have small := standing.host.bounded
  unfold sequenceNumberMax at small
  cases traffic with
  | nil => exact nonempty rfl
  | cons transfers rest =>
      obtain ⟨positive, bounded⟩ := legal _ List.mem_cons_self
      obtain ⟨-, -, sent, received⟩ :=
        transfers.effect callbacks positive bounded standing
      rw [if_neg misaligned] at received
      cases rest with
      | nil =>
          have equal := agree nonempty
          rw [sent, received, seqNext,
            if_neg (by unfold sequenceNumberMax; omega)] at equal
          omega
      | cons =>
          simp only [List.length_cons] at many
          omega

/-- A sequence of calls realigns the link if and only if it is empty, or the
client has room for every payload and the counters agree at the outset or the
host's is about to wrap. -/
theorem realigns_iff (legal : Legal payloads)
    (standing : Standing client link) :
    Realigns build client type payloads link ↔
      payloads = [] ∨
        client ≠ .wifiData ∧ AllFit build client payloads ∧
          (link.host.txSeq = link.device.rxSequenceNumber ∨
            link.host.txSeq = 15) := by
  constructor
  · intro realigns
    by_cases none : payloads = []
    · exact .inl none
    · right
      obtain ⟨outcomes, final, traffic, -⟩ := id realigns
      obtain ⟨allFit, designates⟩ := traffic.allFit callbacks legal standing
      refine ⟨designates none, allFit, ?_⟩
      by_cases aligned : Aligned link
      · exact .inl aligned
      · right
        apply Classical.byContradiction
        intro early
        exact not_realigns_of_early callbacks legal none standing aligned early
          realigns
  · rintro (rfl | ⟨designates, allFit, aligned | last⟩)
    · exact ⟨[], link, .nil link, Nat.zero_le _, nofun⟩
    · exact realigns_of_aligned callbacks designates legal allFit standing
        aligned
    · by_cases aligned : Aligned link
      · exact realigns_of_aligned callbacks designates legal allFit standing
          aligned
      · exact realigns_of_last callbacks designates legal allFit standing
          aligned last

end Sequence

/-- A link in use, with the given counters. -/
def between (txSeq rxSequenceNumber : Nat) : OneWay where
  host := { Bus.inUse with txSeq }
  device := { Device.boot with rxSequenceNumber }

theorem between_standing {client : Client} {txSeq rxSequenceNumber : Nat}
    (bounded : txSeq ≤ sequenceNumberMax) :
    Standing client (between txSeq rxSequenceNumber) where
  host := ⟨rfl, rfl, rfl, rfl, bounded⟩
  device := ⟨⟨rfl, rfl, rfl⟩, rfl, rfl, rfl⟩

/-- Three commands for the Bluetooth controller. -/
def commands : List (List UInt8) :=
  [[1, 3, 12, 0], [1, 3, 16, 0], [1, 9, 16, 0]]

theorem commands_legal : Legal commands := by
  unfold Legal
  decide

theorem realigns_commands_from_last :
    Realigns Build.full .bt .hci commands (between 15 4) :=
  (realigns_iff rfl commands_legal (between_standing (by decide))).mpr
    (.inr ⟨by decide, by unfold AllFit; decide, .inr rfl⟩)

/-- With the host at 2 and the device at 5, commands are rejected one after
the other. -/
theorem commands_not_realigned :
    serialMuxGetCallbacks Build.full .hci = some .bt ∧
      Legal commands ∧ Standing .bt (between 2 5) ∧
      ¬Realigns Build.full .bt .hci commands (between 2 5) := by
  have standing : Standing .bt (between 2 5) := between_standing (by decide)
  exact ⟨rfl, commands_legal, standing, not_realigns_of_early rfl
    commands_legal (List.cons_ne_nil _ _) standing (by decide) (by decide)⟩

end OneWay

end SerialLink
