import SerialLink.Device.Answer
import SerialLink.Device.Egress
import SerialLink.Device.Termination

/-!
# One frame at a time

A frame that finds the receiver idle is stored, checked and answered, and
leaves the receiver idle.  The counter of a management client is left to its
thread.  A protocol information frame has its payload discarded, 64 bytes at a
time, and is answered without a look at its number.
-/

namespace SerialLink

namespace Device

variable {build : Build} {client : Client} {frame : Frame}
  {device later : Device}

/-- The receiver and a client between two frames. -/
structure Ready (client : Client) (device : Device) : Prop
    extends Quiet device where
  healthy : device.rxError = false
  unharmed : device.stray = false
  idle : (device.clients client).accumulated = 0

theorem Ready.alone (ready : Ready client device)
    (callbacks : serialMuxGetCallbacks build frame.header.type = some client)
    (positive : 0 < frame.payload.length)
    (bounded : frame.payload.length ≤ serialMaxPayloadLen)
    (wantsAck : frame.header.noAck = false) :
    Alone build client frame (device.arrive frame.encode) where
  atType := ready.atType
  healthy := ready.healthy
  fifo := by simp [arrive, ready.empty]
  callbacks := callbacks
  positive := positive
  bounded := bounded
  notQueued := ready.notQueued
  unharmed := ready.unharmed
  idle := ready.idle
  wantsAck := wantsAck

/-- The answer that tells whether a frame has the expected number. -/
def firstAnswer (frame : Frame) (device : Device) : SerialHeader :=
  if device.rxSequenceNumber = frame.header.sequenceNumber.val then
    ackHeader frame.header.type frame.header.sequenceNumber.val .noError
  else
    ackHeader frame.header.type device.rxSequenceNumber
      .incorrectSequenceNumber

/-- What the receive event of a frame leaves behind.  A second answer is sent
when the loop is entered again and a management client has no room for as
much again. -/
structure Exchanged (client : Client) (frame : Frame)
    (device later : Device) : Prop extends Quiet later where
  healthy : later.rxError = false
  unharmed : later.stray = false
  received : later.rxSequenceNumber =
    if frame.header.sequenceNumber.val = device.rxSequenceNumber then
      seqNext device.rxSequenceNumber
    else 0
  transmitted : later.txSequenceNumber = device.txSequenceNumber
  others : ∀ other, other ≠ client →
    later.clients other = device.clients other
  idle : client.isMgmt = false → (later.clients client).accumulated = 0
  delivered : frame.header.sequenceNumber.val = device.rxSequenceNumber →
    ∃ state, completions later.trace =
      completions device.trace ++ [(client, frame.payload.length, state)]
  withheld : ¬frame.header.sequenceNumber.val = device.rxSequenceNumber →
    completions later.trace = completions device.trace
  answered : ∃ further, answers later.trace =
      answers device.trace ++ firstAnswer frame device :: further ∧
    ∀ answer ∈ further, answer.error = .outOfBuffers ∧
      answer.length.val = 0

theorem completed_rxSequenceNumber_of_unexpected (build : Build)
    (client : Client) (base : Option Nat) (rest : List UInt8)
    (unexpected : ¬frame.header.sequenceNumber.val =
      device.rxSequenceNumber) :
    (device.completed build client base frame rest).rxSequenceNumber = 0 := by
  have different : device.rxSequenceNumber ≠
      frame.header.sequenceNumber.val := fun same => unexpected same.symm
  simp only [completed, resetParser_rxSequenceNumber, completeFrame,
    loaded_serialHeader, handling_serialHeader, loaded_rxSequenceNumber,
    handling_rxSequenceNumber, if_pos different]

theorem completed_txSequenceNumber (build : Build) (client : Client)
    (base : Option Nat) (frame : Frame) (rest : List UInt8)
    (device : Device) :
    (device.completed build client base frame rest).txSequenceNumber =
      device.txSequenceNumber := by
  simp only [completed, resetParser]
  rw [completeFrame_txSequenceNumber]
  cases base <;> rfl

theorem Exchanged.refuseFrame (exchanged : Exchanged client frame device later)
    (frameType : SerialType) :
    Exchanged client frame device (later.refuseFrame frameType) := by
  obtain ⟨further, answered, ofBuffers⟩ := exchanged.answered
  refine
    { exchanged with
      atType := rfl
      delivered := by
        rw [refuseFrame_completions]
        exact exchanged.delivered
      withheld := by
        rw [refuseFrame_completions]
        exact exchanged.withheld
      answered := ⟨further ++ [ackHeader frameType
        later.serialHeader.sequenceNumber.val .outOfBuffers], ?_, ?_⟩ }
  · rw [refuseFrame_answers, answered]
    simp
  · intro answer member
    rcases List.mem_append.mp member with before | last
    · exact ofBuffers answer before
    · rw [List.mem_singleton.mp last]
      exact ⟨rfl, rfl⟩

namespace Alone

variable (alone : Alone build client frame device)
  (designates : client ≠ .wifiData)
  (fits : frame.payload.length ≤ client.capacity build)

include alone designates

/-- A client that is not a management client has nothing left to count. -/
theorem accepted_idle (other : client.isMgmt = false) :
    ((device.accepted build client frame []).clients client).accumulated =
      0 := by
  by_cases expected :
      frame.header.sequenceNumber.val = device.rxSequenceNumber
  · rw [accepted, completed_clients build client _ [] expected]
    cases client with
    | wifiMgmt | netIfMgmt => cases other
    | wifiData => exact absurd rfl designates
    | bt => rfl
    | ot | vserial => exact alone.idle
  · rw [accepted, completed_clients_of_unexpected build client _ [] expected]
    exact alone.idle

include fits

theorem exchanged :
    Exchanged client frame device (device.accepted build client frame []) := by
  have quiet : Quiet (device.accepted build client frame []) :=
    completed_quiet build client _ frame device
  constructor
  case toQuiet => exact quiet
  case healthy => simpa [accepted] using alone.healthy
  case unharmed =>
    have within := alone.fits_behind fits
    rw [accepted, completed_stray, alone.unharmed]
    simpa using within
  case received =>
    split
    · next expected =>
        exact completed_rxSequenceNumber build client _ [] expected
    · next unexpected =>
        exact completed_rxSequenceNumber_of_unexpected build client _ []
          unexpected
  case transmitted =>
    exact completed_txSequenceNumber build client _ frame [] device
  case others =>
    intro other different
    exact completed_clients_other build client device _ frame [] different
  case idle => exact alone.accepted_idle designates
  case delivered =>
    intro expected
    exact ⟨_, completed_completions build client _ [] expected⟩
  case withheld =>
    intro unexpected
    exact completed_completions_of_unexpected build client _ [] unexpected
  case answered =>
    refine ⟨[], completed_answers build client _ [] device alone.wantsAck, ?_⟩
    intro answer member
    exact absurd member List.not_mem_nil

/-- A frame the client has room for. -/
theorem serves_exchanged :
    ∃ later, Serves build device later ∧
      Exchanged client frame device later := by
  have exchanged := alone.exchanged designates fits
  by_cases tight : frame.header.sequenceNumber.val = device.rxSequenceNumber ∧
      client.isMgmt = true ∧ client.capacity build < 2 * frame.payload.length
  · exact ⟨_, alone.serves_refused_again designates fits tight,
      exchanged.refuseFrame _⟩
  · exact ⟨_, alone.serves_accepted designates fits tight, exchanged⟩

omit designates fits in
/-- A frame the client has no room for is refused, whatever its number. -/
theorem refused_of_exceeds
    (exceeds : client.capacity build < frame.payload.length)
    (served : Serves build device later) :
    completions later.trace = completions device.trace ∧
      answers later.trace = answers device.trace ++
        [ackHeader frame.header.type frame.header.sequenceNumber.val
          .outOfBuffers] := by
  have refused := Client.acquireBuffer_idle_refused alone.idle exceeds
    frame.payload_length_le
  rw [alone.refused_iff refused] at served
  rw [served, refuseFrame_completions, refuseFrame_answers, handling_answers]
  refine ⟨?_, rfl⟩
  simp

end Alone

/-- A client that is not a management client is answered once. -/
theorem accepted_sentBytes (alone : Alone build client frame device) :
    Egress.sentBytes (device.accepted build client frame []).trace =
      Egress.sentBytes device.trace ++ (firstAnswer frame device).encode := by
  simp only [accepted, completed, resetParser_trace, completeFrame,
    loaded_serialHeader, handling_serialHeader, loaded_rxSequenceNumber,
    handling_rxSequenceNumber, alone.wantsAck, firstAnswer]
  by_cases expected : device.rxSequenceNumber =
      frame.header.sequenceNumber.val
  · simp [expected, Egress.sentBytes, sendAck, log, messageComplete, setClient,
      commitData]
  · simp [expected, Egress.sentBytes, sendAck, log]

/-- The device once the rest of a payload has been discarded. -/
def skipped (device : Device) : Device :=
  { device with
    rxFifo := []
    consumed := device.consumed + device.rxFifo.length
    bytesRead := device.serialHeader.length.val }

/-- The loop of a protocol information frame whose payload, and nothing else,
is in the FIFO. -/
theorem protocolInfoLoop_spec (healthy : device.rxError = false)
    (whole : device.bytesRead + device.rxFifo.length =
      device.serialHeader.length.val)
    (missing : 0 < device.rxFifo.length) :
    Loop.Returns payloadMissing (protocolInfoStep build) device
      (device.skipped.answerProtocolInfo build) := by
  induction bound : device.rxFifo.length using Nat.strongRecOn
    generalizing device with
  | ind bound induction =>
      have entered : device.payloadMissing = true := by
        simp only [payloadMissing, decide_eq_true_eq]
        omega
      by_cases last : device.rxFifo.length ≤ 64
      · have count : device.discardCount = device.rxFifo.length := by
          unfold discardCount
          omega
        have all : device.discarded = device.skipped := by
          simp only [discarded, skipped, count, whole, Device.mk.injEq,
            and_true]
          apply List.drop_eq_nil_of_le
          omega
        have stepped : device.protocolInfoStep build =
            .next (device.skipped.answerProtocolInfo build) := by
          rw [protocolInfoStep_eq healthy, count, if_pos (by omega), all]
        apply Loop.returns_of_next entered stepped
        have done := (answerProtocolInfo_frame build device.skipped).1
        exact ⟨1, by simp [Loop.iterate, payloadMissing, done]⟩
      · have count : device.discardCount = 64 := by
          unfold discardCount
          omega
        have stepped : device.protocolInfoStep build =
            .next device.discarded := by
          rw [protocolInfoStep_eq healthy, count, if_neg (by omega)]
        have left : device.discarded.rxFifo.length =
            device.rxFifo.length - 64 := by
          simp only [discarded, List.length_drop]
          omega
        have same : device.discarded.skipped = device.skipped := by
          simp only [skipped, left]
          simp only [discarded, count, Device.mk.injEq, and_true, true_and]
          omega
        apply Loop.returns_of_next entered stepped
        rw [← same]
        apply induction device.discarded.rxFifo.length (by omega)
        · exact healthy
        · rw [left]
          simp only [discarded, count]
          omega
        · omega
        · rfl

/-- What the receive event of a protocol information frame leaves behind. -/
structure Informed (build : Build) (device later : Device) : Prop
    extends Quiet later where
  healthy : later.rxError = device.rxError
  stray : later.stray = device.stray
  received : later.rxSequenceNumber = device.rxSequenceNumber
  transmitted : later.txSequenceNumber = seqNext device.txSequenceNumber
  clients : later.clients = device.clients
  output : Egress.sentBytes later.trace = Egress.sentBytes device.trace ++
    ((frameHeader .protocolInfo .noError false device.txSequenceNumber
      4).encode ++ device.protocolInfoPayload build)

theorem handling_informed (build : Build) (device : Device) (frame : Frame) :
    Informed build device
      ((device.handling frame []).skipped.answerProtocolInfo build) := by
  unfold answerProtocolInfo
  rw [handleProtocolInfo_eq]
  constructor
  case toQuiet => exact ⟨rfl, rfl, rfl⟩
  case output =>
    simp only [resetParser, log, handling, takeWork, payloadExpected, skipped,
      Egress.sentBytes, List.flatMap_append, List.flatMap_cons,
      List.flatMap_nil, List.append_nil]
    rfl
  all_goals rfl

/-- The receive event of a protocol information frame. -/
theorem serves_protocolInfo (build : Build) (quiet : Quiet device)
    (healthy : device.rxError = false)
    (info : frame.header.type = .protocolInfo)
    (positive : 0 < frame.payload.length)
    (bounded : frame.payload.length ≤ serialMaxPayloadLen) :
    Serves build (device.arrive frame.encode)
      (((device.arrive frame.encode).handling frame []).skipped
        |>.answerProtocolInfo build) := by
  have fifo : (device.arrive frame.encode).rxFifo =
      frame.header.encode ++ frame.payload := by
    simp [arrive, quiet.empty, Frame.encode]
  have callback := uartIrqCallback_of_header (device.arrive frame.encode)
    frame.header frame.payload quiet.atType healthy fifo
    (frame.length_eq ▸ positive) (frame.length_eq ▸ bounded)
  have looped : Loop.Returns payloadMissing (protocolInfoStep build)
      ((device.arrive frame.encode).handling frame [])
      (((device.arrive frame.encode).handling frame []).skipped
        |>.answerProtocolInfo build) := by
    apply protocolInfoLoop_spec
    · exact healthy
    · simp [frame.length_eq]
    · simpa using positive
  have body : workStep build .protocolInfo = protocolInfoStep build := by
    funext state
    rw [workStep, if_pos rfl]
  have nonempty : ¬frame.header.length.val = 0 := by
    rw [frame.length_eq]
    omega
  have taken : ((device.arrive frame.encode).payloadExpected frame.header
      frame.payload).submitWork.takeWork =
        (device.arrive frame.encode).handling frame [] := by
    rw [handling, List.append_nil]
    rfl
  have header : ((device.arrive frame.encode).handling frame
      []).serialHeader = frame.header := rfl
  have pending : ((device.arrive frame.encode).payloadExpected frame.header
      frame.payload).submitWork.workPending = true := rfl
  obtain ⟨fuel, returned⟩ := looped
  refine ⟨fuel, ?_⟩
  simp only [serviceRound, callback, runWork, if_pos pending,
    serialWorkHandler, taken, header, info, nonempty, and_false, if_false,
    body]
  exact returned

end Device

end SerialLink
