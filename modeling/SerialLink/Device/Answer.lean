import SerialLink.Device.BackToBack

/-!
# The answers to one frame

A frame that is alone in the FIFO should be answered by one zero-length frame.
The handler's loop is entered once more after a completed frame, which a
management client with little room answers a second time; and the payload of
a refused frame stays in the FIFO, where the following receive events read it
as further frames.
-/

namespace SerialLink

/-- The headers of the zero-length frames sent. -/
def answers (trace : List Event) : List SerialHeader :=
  trace.filterMap fun
    | .send header [] => some header
    | _ => none

@[simp] theorem answers_append (first second : List Event) :
    answers (first ++ second) = answers first ++ answers second := by
  simp [answers]

@[simp] theorem answers_nil : answers [] = [] := rfl

theorem answers_of_trace {first second : List Event}
    (extended : first <+: second) : answers first <+: answers second :=
  extended.filterMap _

@[simp] theorem answers_send (header : SerialHeader) (trace : List Event) :
    answers (.send header [] :: trace) = header :: answers trace := rfl

@[simp] theorem answers_typeByte (position : Nat) (trace : List Event) :
    answers (.typeByte position :: trace) = answers trace := rfl

@[simp] theorem answers_messageComplete (client : Client) (len : Nat)
    (state : ClientState) (trace : List Event) :
    answers (.messageComplete client len state :: trace) = answers trace := rfl

namespace Device

variable {build : Build} {client : Client} {frame : Frame}
  {rest : List UInt8} {device later : Device}

/-- Receive events that follow each other. -/
inductive Rounds (build : Build) : Nat → Device → Device → Prop where
  | zero (device : Device) : Rounds build 0 device device
  | succ {count : Nat} {device later final : Device} :
      Serves build device later → Rounds build count later final →
      Rounds build (count + 1) device final

theorem Rounds.unique {count : Nat} {left right : Device}
    (first : Rounds build count device left)
    (second : Rounds build count device right) : left = right := by
  induction first with
  | zero => cases second; rfl
  | succ served _ induction =>
      cases second with
      | succ otherServed otherRounds =>
          cases served.unique otherServed
          exact induction otherRounds

/-- After any positive number of receive events the frame has been answered
exactly once, with its own type, and without error exactly if its client was
told of it. -/
def AnsweredOnce (build : Build) (client : Client) (frame : Frame)
    (device : Device) : Prop :=
  ∀ count, ∃ later answer calls,
    Rounds build (count + 1) device later ∧
    later.stray = false ∧
    answers later.trace = answers device.trace ++ [answer] ∧
    answer.type = frame.header.type ∧
    completions later.trace = completions device.trace ++ calls ∧
    (answer.error = .noError ↔
      ∃ state, (client, frame.payload.length, state) ∈ calls)

/-- The receiver has nothing to do. -/
structure Quiet (device : Device) : Prop where
  atType : device.parsingState = .type
  empty : device.rxFifo = []
  notQueued : device.workPending = false

theorem Quiet.serves (quiet : Quiet device) : Serves build device device := by
  have outside : device.parsingState ≠ .data := by simp [quiet.atType]
  refine ⟨0, ?_⟩
  simp [serviceRound, uartIrqCallback_of_empty quiet.empty outside, runWork,
    quiet.notQueued]

theorem Quiet.rounds (quiet : Quiet device) (count : Nat) :
    Rounds build count device device := by
  induction count with
  | zero => exact .zero device
  | succ count induction => exact .succ quiet.serves induction

theorem completed_quiet (build : Build) (client : Client)
    (base : Option Nat) (frame : Frame) (device : Device) :
    Quiet (device.completed build client base frame []) where
  atType := rfl
  empty := by simp
  notQueued := by simp [completed]

theorem handling_answers (frame : Frame) (rest : List UInt8)
    (device : Device) :
    answers (device.handling frame rest).trace = answers device.trace := by
  simp

theorem refuseFrame_answers (frameType : SerialType) (device : Device) :
    answers (device.refuseFrame frameType).trace =
      answers device.trace ++
        [ackHeader frameType device.serialHeader.sequenceNumber.val
          .outOfBuffers] := by
  simp [refuseFrame, sendAck, log]

/-- The answer to a complete frame that asks for one. -/
theorem completed_answers (build : Build) (client : Client)
    (base : Option Nat) (rest : List UInt8) (device : Device)
    (wantsAck : frame.header.noAck = false) :
    answers (device.completed build client base frame rest).trace =
      answers device.trace ++
        [if device.rxSequenceNumber = frame.header.sequenceNumber.val then
            ackHeader frame.header.type frame.header.sequenceNumber.val
              .noError
          else
            ackHeader frame.header.type device.rxSequenceNumber
              .incorrectSequenceNumber] := by
  have before : answers ((device.handling frame rest).loaded build client base
      frame.payload rest).trace = answers device.trace := by
    simp
  simp only [completed, resetParser_trace, completeFrame, loaded_serialHeader,
    handling_serialHeader, loaded_rxSequenceNumber, handling_rxSequenceNumber,
    wantsAck]
  split
  · simp_all [sendAck, log]
  · simp_all [sendAck, log, messageComplete, setClient, commitData]

/-- A frame that asks for an answer, alone in the FIFO, and an idle client. -/
structure Alone (build : Build) (client : Client) (frame : Frame)
    (device : Device) : Prop extends
    FrameAtHead build client frame [] device where
  notQueued : device.workPending = false
  unharmed : device.stray = false
  idle : (device.clients client).accumulated = 0
  wantsAck : frame.header.noAck = false

namespace Alone

variable (alone : Alone build client frame device)

include alone

theorem occupied_eq : device.occupied client = 0 := by
  simp [occupied, Client.occupied, alone.idle]

theorem fits_behind (fits : frame.payload.length ≤ client.capacity build) :
    device.occupied client + frame.payload.length ≤
      client.capacity build := by
  rw [alone.occupied_eq]
  omega

theorem headFrame (fits : frame.payload.length ≤ client.capacity build)
    (expected : frame.header.sequenceNumber.val = device.rxSequenceNumber) :
    HeadFrame build client frame [] device :=
  { alone.toFrameAtHead with expected, within := fits }

variable (designates : client ≠ .wifiData)
  (fits : frame.payload.length ≤ client.capacity build)

include designates fits

/-- The second entry into the loop finds the client's buffer as the frame has
left it. -/
theorem refused_again_iff :
    client.acquireBuffer build
        ((device.accepted build client frame []).clients client)
        frame.payload.length = .refused ↔
      frame.header.sequenceNumber.val = device.rxSequenceNumber ∧
        client.isMgmt = true ∧
        client.capacity build < 2 * frame.payload.length := by
  by_cases expected :
      frame.header.sequenceNumber.val = device.rxSequenceNumber
  · rw [(alone.headFrame fits expected).refused_again_iff designates
      (alone.fits_behind fits), alone.occupied_eq]
    simp [expected, Nat.two_mul]
  · have untold : client.occupied
        ((device.accepted build client frame []).clients client) = 0 := by
      rw [accepted, completed_clients_of_unexpected build client _ [] expected]
      exact alone.occupied_eq
    rw [Client.acquireBuffer_refused_iff designates (by omega)
      frame.payload_length_le, untold]
    simp only [expected, false_and, iff_false, Nat.not_lt, Nat.zero_add]
    exact fits

theorem serves_of_stop
    (stopped : (device.accepted build client frame []).clientStep build client
      frame.header.type = .stop later) :
    Serves build device later := by
  have granted : client.acquireBuffer build (device.clients client)
      frame.payload.length = .granted (some (device.occupied client)) :=
    Client.acquireBuffer_fits designates (alone.fits_behind fits)
  have again : (device.accepted build client frame []).payloadMissing = true :=
    completed_missing build client device _ frame [] alone.positive
  exact (alone.granted_iff granted).mpr (Loop.returns_of_stop again stopped)

theorem serves_accepted
    (room : ¬(frame.header.sequenceNumber.val = device.rxSequenceNumber ∧
      client.isMgmt = true ∧
      client.capacity build < 2 * frame.payload.length)) :
    Serves build device (device.accepted build client frame []) := by
  apply alone.serves_of_stop designates fits
  have healthy : (device.accepted build client frame []).rxError = false := by
    simpa [accepted] using alone.healthy
  have empty : (device.accepted build client frame []).rxFifo = [] := by
    simp [accepted]
  cases acquisition : client.acquireBuffer build
      ((device.accepted build client frame []).clients client)
      frame.payload.length with
  | refused =>
      exact absurd ((alone.refused_again_iff designates fits).mp acquisition)
        room
  | granted base =>
      apply clientStep_of_granted_empty healthy empty
      rw [device.accepted_count]
      exact acquisition

theorem serves_refused_again
    (tight : frame.header.sequenceNumber.val = device.rxSequenceNumber ∧
      client.isMgmt = true ∧
      client.capacity build < 2 * frame.payload.length) :
    Serves build device
      ((device.accepted build client frame []).refuseFrame
        frame.header.type) := by
  apply alone.serves_of_stop designates fits
  apply clientStep_of_refused
  rw [device.accepted_count]
  exact (alone.refused_again_iff designates fits).mpr tight

/-- With room for the frame, and for as much again where a management client
counts it, there is exactly one answer. -/
theorem answeredOnce
    (room : ¬(frame.header.sequenceNumber.val = device.rxSequenceNumber ∧
      client.isMgmt = true ∧
      client.capacity build < 2 * frame.payload.length)) :
    AnsweredOnce build client frame device := by
  intro count
  have served := alone.serves_accepted designates fits room
  have rounds : Rounds build count (device.accepted build client frame [])
      (device.accepted build client frame []) :=
    (completed_quiet build client _ frame device).rounds count
  have placed : (device.accepted build client frame []).stray = false := by
    have within := alone.fits_behind fits
    rw [accepted, completed_stray, alone.unharmed]
    simpa using within
  have answered := completed_answers build client
    (some (device.occupied client)) [] device alone.wantsAck
  by_cases expected :
      frame.header.sequenceNumber.val = device.rxSequenceNumber
  · have called := completed_completions build client
      (device.occupied client) [] expected
    rw [if_pos expected.symm] at answered
    refine ⟨_, _, _, .succ served rounds, placed, answered, rfl, called, ?_⟩
    simp [ackHeader]
  · have called := completed_completions_of_unexpected build client
      (some (device.occupied client)) [] expected
    rw [if_neg (fun same => expected same.symm)] at answered
    refine ⟨_, _, [], .succ served rounds, placed, answered, rfl,
      by rw [List.append_nil]; exact called, ?_⟩
    simp [ackHeader]

/-- Without that room, the frame is answered twice. -/
theorem not_answeredOnce_of_tight
    (tight : frame.header.sequenceNumber.val = device.rxSequenceNumber ∧
      client.isMgmt = true ∧
      client.capacity build < 2 * frame.payload.length) :
    ¬AnsweredOnce build client frame device := by
  intro once
  obtain ⟨later, answer, calls, rounds, -, answered, -⟩ := once 0
  have twice : Rounds build 1 device
      ((device.accepted build client frame []).refuseFrame
        frame.header.type) :=
    .succ (alone.serves_refused_again designates fits tight) (.zero _)
  rw [rounds.unique twice, refuseFrame_answers, accepted,
    completed_answers build client _ [] device alone.wantsAck] at answered
  have lengths := congrArg List.length answered
  simp at lengths

omit designates fits in
/-- The data proxy has no place for the payload. -/
theorem stray_of_wifiData (data : client = .wifiData)
    (fits : frame.payload.length ≤ client.capacity build)
    (served : Serves build device later) : later.stray = true := by
  subst data
  have granted : Client.wifiData.acquireBuffer build
      (device.clients .wifiData) frame.payload.length = .granted none := by
    have free : exceedsFree 1600 (device.clients .wifiData)
        frame.payload.length = false :=
      Client.exceedsFree_eq_false (by decide)
        (by rw [alone.idle]; simpa [Client.capacity] using fits)
    simp [Client.acquireBuffer, wifiDataAcquireBuffer, free]
  have returns := (alone.granted_iff granted).mp served
  exact (returns_advances returns).stray
    (completed_stray_of_none build .wifiData device frame [])

omit designates fits in
theorem not_answeredOnce_of_wifiData (data : client = .wifiData)
    (fits : frame.payload.length ≤ client.capacity build) :
    ¬AnsweredOnce build client frame device := by
  intro once
  obtain ⟨later, answer, calls, rounds, unharmed, -⟩ := once 0
  cases rounds with
  | succ served rest =>
      cases rest
      have stray := alone.stray_of_wifiData data fits served
      simp [unharmed] at stray

end Alone

/-- A header whose length is over the limit. -/
def overlongHeader : SerialHeader :=
  { type := .wifiMgmt, noAck := false, host := false, error := .noError
    reserved := 0, sequenceNumber := 0, length := 65535 }

/-- A payload that reads as an over-long header and empty frames. -/
def deceptivePayload (length : Nat) : List UInt8 :=
  overlongHeader.encode ++ List.replicate (length - 4) 0

theorem length_deceptivePayload {length : Nat} (enough : 4 ≤ length) :
    (deceptivePayload length).length = length := by
  simp [deceptivePayload]
  omega

/-- The callback answers an over-long header. -/
theorem uartIrqCallback_answers_overlong (device : Device)
    {header : SerialHeader} (rest : List UInt8)
    (long : serialMaxPayloadLen < header.length.val)
    (atType : device.parsingState = .type)
    (healthy : device.rxError = false)
    (fifo : device.rxFifo = header.encode ++ rest) :
    answers device.trace ++
        [ackHeader header.type header.sequenceNumber.val .lengthTooLong] <+:
      answers device.uartIrqCallback.trace := by
  have parsed : answers (device.headerParsed header).trace =
      answers device.trace ++
        [ackHeader header.type header.sequenceNumber.val
          .lengthTooLong] := by
    have positive : ¬header.length.val = 0 := by omega
    simp only [headerParsed, positive, if_false, gt_iff_lt, long, if_true]
    simp [sendAck, log]
  have drained := answers_of_trace
    (drainHeader_records rest (device.headerParsed header)).trace_kept
  rw [← drainHeader_encode device header rest atType, ← fifo] at drained
  rw [← parsed, uartIrqCallback_eq healthy]
  split <;> exact drained

/-- A payload left in the FIFO is read as frames and may be answered. -/
theorem not_answeredOnce_of_overlong
    (alone : Alone build client frame device)
    (exceeds : client.capacity build < frame.payload.length)
    (deceptive : frame.payload = deceptivePayload frame.payload.length) :
    ¬AnsweredOnce build client frame device := by
  intro once
  obtain ⟨later, answer, calls, rounds, -, answered, -⟩ := once 1
  have refused := Client.acquireBuffer_idle_refused alone.idle exceeds
    frame.payload_length_le
  cases rounds with
  | succ first rounds =>
      cases rounds with
      | succ second rounds =>
          cases rounds
          rw [alone.refused_iff refused] at first
          subst first
          let refusedDevice :=
            (device.handling frame []).refuseFrame frame.header.type
          have fifo : refusedDevice.rxFifo = overlongHeader.encode ++
              List.replicate (frame.payload.length - 4) 0 := by
            rw [← deceptivePayload, ← deceptive]
            exact List.append_nil frame.payload
          have callback := refusedDevice.uartIrqCallback_answers_overlong _
            (by decide) rfl alone.healthy fifo
          have total :=
            (callback.trans (answers_of_trace
              (serves_records second).trace_kept)).length_le
          have before : answers refusedDevice.trace =
              answers device.trace ++ [ackHeader frame.header.type
                frame.header.sequenceNumber.val .outOfBuffers] := by
            rw [refuseFrame_answers, handling_answers]
            rfl
          rw [before, answered] at total
          simp at total

/-- A device with a header waiting for any payload of the declared length
answers it exactly once, whatever the payload, if and only if the payload fits
the client's buffer, the client designates one, and a management client that
accepts the frame has room for as much again. -/
theorem answeredOnce_iff (build : Build) (client : Client)
    (header : SerialHeader) (device : Device)
    (callbacks : serialMuxGetCallbacks build header.type = some client)
    (wantsAck : header.noAck = false)
    (positive : 1 ≤ header.length.val)
    (bounded : header.length.val ≤ serialMaxPayloadLen)
    (quiet : Quiet device) (healthy : device.rxError = false)
    (unharmed : device.stray = false)
    (idle : (device.clients client).accumulated = 0) :
    (∀ frame : Frame, frame.header = header →
        AnsweredOnce build client frame (device.arrive frame.encode)) ↔
      header.length.val ≤ client.capacity build ∧
        client ≠ .wifiData ∧
        (header.sequenceNumber.val = device.rxSequenceNumber →
          client.isMgmt = true →
          2 * header.length.val ≤ client.capacity build) := by
  have aloneOf : ∀ frame : Frame, frame.header = header →
      Alone build client frame (device.arrive frame.encode) := by
    rintro frame rfl
    exact
      { atType := quiet.atType
        healthy
        fifo := by simp [arrive, quiet.empty]
        callbacks
        positive := frame.length_eq ▸ positive
        bounded := frame.length_eq ▸ bounded
        notQueued := quiet.notQueued
        unharmed
        idle
        wantsAck }
  constructor
  · intro once
    have fits : header.length.val ≤ client.capacity build := by
      apply Nat.le_of_not_lt
      intro exceeds
      have enough : 4 ≤ header.length.val := by
        have capacity := client.capacity_ge build
        omega
      have length := length_deceptivePayload enough
      let frame : Frame :=
        { header, payload := deceptivePayload header.length.val
          length_eq := length.symm }
      exact not_answeredOnce_of_overlong (aloneOf frame rfl)
        (show client.capacity build < frame.payload.length by
          rw [length]; exact exceeds)
        (congrArg deceptivePayload length.symm) (once frame rfl)
    let frame : Frame :=
      { header, payload := List.replicate header.length.val 0
        length_eq := List.length_replicate.symm }
    have alone := aloneOf frame rfl
    have frameFits : frame.payload.length ≤ client.capacity build :=
      frame.length_eq ▸ fits
    have designates : client ≠ .wifiData := fun data =>
      alone.not_answeredOnce_of_wifiData data frameFits (once frame rfl)
    refine ⟨fits, designates, ?_⟩
    intro expected mgmt
    apply Nat.le_of_not_lt
    intro tight
    exact alone.not_answeredOnce_of_tight designates frameFits
      ⟨expected, mgmt, frame.length_eq ▸ tight⟩ (once frame rfl)
  · rintro ⟨fits, designates, room⟩ frame rfl
    apply (aloneOf frame rfl).answeredOnce designates (frame.length_eq ▸ fits)
    rintro ⟨expected, mgmt, tight⟩
    have enough := room expected mgmt
    rw [frame.length_eq] at enough
    omega

/-- A short request for the network interface proxy. -/
def shortRequest : Frame := .ofPayload .netIfMgmt 0 [1, 2, 3, 4] (by decide)

theorem answeredOnce_shortRequest :
    AnsweredOnce Build.full .netIfMgmt shortRequest
      (boot.arrive shortRequest.encode) :=
  (answeredOnce_iff Build.full .netIfMgmt shortRequest.header boot rfl rfl
    (by decide) (by decide) ⟨rfl, rfl, rfl⟩ rfl rfl rfl).mpr
      ⟨by decide, by decide, fun _ _ => by decide⟩ shortRequest rfl

/-- A request of 300 bytes is answered twice, without error and then for want
of a buffer. -/
theorem longFrame_answered_twice :
    serialMuxGetCallbacks Build.full longFrame.header.type =
        some .netIfMgmt ∧
      longFrame.header.noAck = false ∧
      (boot.clients .netIfMgmt).accumulated = 0 ∧
      ¬AnsweredOnce Build.full .netIfMgmt longFrame
        (boot.arrive longFrame.encode) := by
  refine ⟨rfl, rfl, rfl, ?_⟩
  have alone : Alone Build.full .netIfMgmt longFrame
      (boot.arrive longFrame.encode) :=
    { atType := rfl
      healthy := rfl
      fifo := (List.append_nil _).symm
      callbacks := rfl
      positive := by rw [longFrame_length]; decide
      bounded := by rw [longFrame_length]; decide
      notQueued := rfl
      unharmed := rfl
      idle := rfl
      wantsAck := rfl }
  apply alone.not_answeredOnce_of_tight (by decide)
  · rw [longFrame_length]; decide
  · exact ⟨rfl, rfl, by rw [longFrame_length]; decide⟩

end Device

end SerialLink
