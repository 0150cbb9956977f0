import SerialLink.Device.Fragmentation

/-!
# Frames rejected for their sequence number

The sequence number is compared when the last byte of the payload has been
read.  Pieces that came before are then already reported to the client with
`commit_data`, and nothing takes them back: what a rejected frame leaves
behind is the number of bytes in all pieces but the last.
-/

namespace SerialLink

namespace Device

/-- The first answer given behind `earlier`. -/
def FirstAnswer (earlier : List Event) (header : SerialHeader)
    (device : Device) : Prop :=
  ∃ rest, device.trace = earlier ++ .send header [] :: rest

/-- The parser stands at a frame boundary and the FIFO is empty. -/
structure AtBoundary (device : Device) : Prop where
  atType : device.parsingState = .type
  empty : device.rxFifo = []
  healthy : device.rxError = false

/-- What a client has accumulated is what it had. -/
def Untouched (before after : ClientState) : Prop :=
  after.accumulated = before.accumulated ∧
    Region.slice after.buffer 0 before.accumulated =
      Region.slice before.buffer 0 before.accumulated

/-- Every next frame of the client that carries the expected number, fits and
comes in one piece is delivered alone. -/
def DeliversNext (build : Build) (client : Client) (device : Device) : Prop :=
  ∀ next : Frame,
    serialMuxGetCallbacks build next.header.type = some client →
    next.header.sequenceNumber.val = device.rxSequenceNumber →
    1 ≤ next.payload.length → next.payload.length ≤ client.capacity build →
    DeliversPayload build client [next.payload]
      (device.arrive next.header.encode).uartIrqCallback

/-- `received` bytes of a frame that will be rejected have been read and
reported, in pieces that did not complete it. -/
structure Rejecting (client : Client) (frame : Frame) (before : ClientState)
    (earlier : List Event) (number received : Nat) (readable : List UInt8)
    (device : Device) : Prop where
  inData : device.parsingState = .data
  header : device.serialHeader = frame.header
  fifo : device.rxFifo = readable
  healthy : device.rxError = false
  sequence : device.rxSequenceNumber = number
  read : device.bytesRead = received
  recorded : device.trace = earlier
  counted : (device.clients client).accumulated =
    sizeAdd before.accumulated received
  contents : received = 0 →
    (device.clients client).buffer = before.buffer

variable {build : Build} {client : Client} {frame : Frame}
  {before : ClientState} {earlier : List Event} {number received : Nat}
  {readable chunk rest : List UInt8} {device later : Device}

theorem FirstAnswer.error_eq {first second : SerialHeader}
    {events : List Event}
    (answered : FirstAnswer earlier first device)
    (recorded : device.trace = earlier ++ .send second [] :: events) :
    first = second := by
  obtain ⟨rest, trace⟩ := answered
  rw [recorded] at trace
  have tails := List.append_cancel_left trace
  simp only [List.cons.injEq, Event.send.injEq] at tails
  exact tails.1.1.symm

theorem FirstAnswer.of_prefix {header : SerialHeader} {events : List Event}
    (recorded : device.trace = earlier ++ .send header [] :: events)
    (extended : device.trace <+: later.trace) :
    FirstAnswer earlier header later := by
  obtain ⟨more, trace⟩ := extended
  refine ⟨events ++ more, ?_⟩
  rw [← trace, recorded, List.append_assoc, List.cons_append]

namespace Rejecting

variable (rejecting : Rejecting client frame before earlier number received
  readable device)

include rejecting

theorem missing : device.serialHeader.length.val - device.bytesRead =
    frame.payload.length - received := by
  rw [rejecting.header, rejecting.read, frame.length_eq]

theorem payloadMissing_eq (incomplete : received < frame.payload.length) :
    device.payloadMissing = true := by
  simpa [payloadMissing, rejecting.header, rejecting.read, frame.length_eq]
    using incomplete

theorem dequeued : Rejecting client frame before earlier number received
    readable device.takeWork :=
  { rejecting with }

theorem refused_trace (type : SerialType) :
    (device.refuseFrame type).trace = earlier ++
      [.send (ackHeader type frame.header.sequenceNumber.val .outOfBuffers)
        []] := by
  rw [refuseFrame, resetParser_trace, sendAck, log, rejecting.recorded,
    rejecting.header]

theorem serves_iff
    (callbacks : serialMuxGetCallbacks build frame.header.type = some client) :
    Serves build device later ↔
      Loop.Returns payloadMissing (clientStep build client frame.header.type)
        device.takeWork later := by
  rw [← rejecting.header] at callbacks ⊢
  exact serves_iff_of_queued (uartIrqCallback_of_data rejecting.inData)
    callbacks

end Rejecting

theorem Rejecting.arrive
    (rejecting : Rejecting client frame before earlier number received []
      device) (chunk : List UInt8) :
    Rejecting client frame before earlier number received chunk
      (device.arrive chunk) :=
  { rejecting with fifo := by simp [Device.arrive, rejecting.fifo] }

theorem Rejecting.reported (build : Build)
    (rejecting : Rejecting client frame before earlier number received chunk
      device) (nonempty : chunk ≠ []) (keeps : client.keepsLength = true) :
    Rejecting client frame before earlier number (received + chunk.length) []
      ((device.loaded build client
        (some (client.occupied (device.clients client))) chunk
        []).commitData client chunk.length) := by
  have positive : 0 < chunk.length := List.length_pos_iff.mpr nonempty
  constructor
  case inData => exact rejecting.inData
  case header => exact rejecting.header
  case fifo => rfl
  case healthy => exact rejecting.healthy
  case sequence => exact rejecting.sequence
  case read => exact congrArg (· + chunk.length) rejecting.read
  case recorded => exact rejecting.recorded
  case counted =>
    rw [commitData_clients, loaded_clients]
    simp only [Client.commitData, keeps, if_true, rejecting.counted, sizeAdd]
    rw [Nat.mod_add_mod, Nat.add_assoc]
  case contents =>
    intro none
    omega

/-- Behind a rejection: the client has the bytes reported before, and what it
held is untouched if there are none. -/
structure Rejected (client : Client) (before : ClientState) (received : Nat)
    (later : Device) : Prop where
  counted : (later.clients client).accumulated =
    sizeAdd before.accumulated received
  contents : received = 0 →
    Region.slice (later.clients client).buffer 0 before.accumulated =
      Region.slice before.buffer 0 before.accumulated
  boundary : AtBoundary later
  reset : later.rxSequenceNumber = 0

theorem Rejected.refused (rejected : Rejected client before received device)
    (type : SerialType) :
    Rejected client before received (device.refuseFrame type) where
  counted := rejected.counted
  contents := rejected.contents
  boundary := ⟨rfl, rejected.boundary.empty, rejected.boundary.healthy⟩
  reset := rejected.reset

/-- The last piece of a frame with another number: the loop would go on. -/
theorem Rejecting.ended (build : Build)
    (rejecting : Rejecting client frame before earlier number received chunk
      device) (keeps : client.keepsLength = true)
    (small : before.accumulated < sizeModulus)
    (unexpected : number ≠ frame.header.sequenceNumber.val)
    (positive : 0 < frame.payload.length) :
    let ended := ((device.loaded build client
      (some (client.occupied (device.clients client))) chunk
      []).completeFrame build client frame.header.type).resetParser
    Rejected client before received ended ∧ ended.payloadMissing = true := by
  intro ended
  let full := device.loaded build client
    (some (client.occupied (device.clients client))) chunk []
  have fullHeader : full.serialHeader = frame.header := rejecting.header
  have different : ¬full.rxSequenceNumber =
      full.serialHeader.sequenceNumber.val := by
    rw [fullHeader]
    exact rejecting.sequence ▸ unexpected
  have clients : ended.clients = full.clients :=
    completeFrame_clients_of_unexpected build client frame.header.type full
      different
  have stored : ended.clients client =
      { device.clients client with
        buffer := Region.store (device.clients client).buffer
          (client.occupied (device.clients client) + device.bytesRead)
          chunk } := by
    rw [clients]
    exact loaded_clients build client device chunk [] _
  constructor
  · constructor
    case counted =>
      rw [stored]
      exact rejecting.counted
    case contents =>
      intro none
      have base : client.occupied (device.clients client) =
          before.accumulated := by
        rw [Client.occupied, if_pos keeps, rejecting.counted, none]
        exact Nat.mod_eq_of_lt small
      rw [stored, rejecting.contents none, base]
      exact Region.slice_store_before _ _ (by omega)
    case boundary =>
      have healthy : ended.rxError = false := by
        simpa [ended] using rejecting.healthy
      exact ⟨rfl, by simp [ended], healthy⟩
    case reset =>
      show (full.completeFrame build client
        frame.header.type).rxSequenceNumber = 0
      simp only [completeFrame, different, ne_eq, not_false_eq_true, if_true]
  · have header : ended.serialHeader = frame.header := by
      rw [← fullHeader]
      simp [ended, full]
    show decide (0 < ended.serialHeader.length.val) = true
    rw [header, frame.length_eq]
    exact decide_eq_true positive

section Piece

variable
  (rejecting : Rejecting client frame before earlier number received chunk
    device)
  (designates : client ≠ .wifiData) (nonempty : chunk ≠ [])

include rejecting designates nonempty

/-- A piece is refused, or read and stored behind what is accumulated. -/
theorem Rejecting.clientStep_cases
    (within : received + chunk.length ≤ frame.payload.length) :
    device.clientStep build client frame.header.type =
        .stop (device.refuseFrame frame.header.type) ∨
      device.clientStep build client frame.header.type =
        if received + chunk.length ≥ frame.payload.length then
          .next ((device.loaded build client
            (some (client.occupied (device.clients client))) chunk
            []).completeFrame build client frame.header.type).resetParser
        else
          .next ((device.loaded build client
            (some (client.occupied (device.clients client))) chunk
            []).commitData client chunk.length) := by
  rcases Client.acquireBuffer_cases build (device.clients client)
    (device.serialHeader.length.val - device.bytesRead) designates with
    refused | granted
  · exact .inl (clientStep_of_refused refused)
  · right
    have taken : device.rxFifo.take
        (device.serialHeader.length.val - device.bytesRead) = chunk := by
      rw [rejecting.fifo, rejecting.missing]
      exact List.take_of_length_le (by omega)
    have dropped : device.rxFifo.drop
        (device.serialHeader.length.val - device.bytesRead) = [] := by
      rw [rejecting.fifo, rejecting.missing]
      exact List.drop_of_length_le (by omega)
    have stepped := clientStep_of_granted frame.header.type
      (some (client.occupied (device.clients client))) chunk []
      rejecting.healthy granted taken dropped nonempty
    rw [rejecting.read, rejecting.header, frame.length_eq] at stepped
    exact stepped

/-- A piece that does not complete the payload is refused or reported. -/
theorem Rejecting.partial_chunk (keeps : client.keepsLength = true)
    (piece : frame.payload.drop received = chunk ++ rest) (more : rest ≠ [])
    (returns : Loop.Returns payloadMissing
      (clientStep build client frame.header.type) device later) :
    (∃ events, later.trace = earlier ++
        .send (ackHeader frame.header.type frame.header.sequenceNumber.val
          .outOfBuffers) [] :: events) ∨
      Rejecting client frame before earlier number (received + chunk.length)
        [] later := by
  have chunkPositive : 0 < chunk.length := List.length_pos_iff.mpr nonempty
  have restPositive : 0 < rest.length := List.length_pos_iff.mpr more
  have lengths : frame.payload.length - received =
      chunk.length + rest.length := by
    simpa using congrArg List.length piece
  have entered := rejecting.payloadMissing_eq (by omega)
  rcases rejecting.clientStep_cases designates nonempty (by omega) with
    refused | stepped
  · left
    rw [Loop.returns_stop_iff entered refused] at returns
    exact ⟨[], by rw [returns, rejecting.refused_trace]⟩
  · rw [if_neg (by omega)] at stepped
    rw [Loop.returns_next_iff entered stepped] at returns
    have next := rejecting.reported build nonempty keeps
    have again := next.payloadMissing_eq (by omega)
    rcases clientStep_of_empty build client frame.header.type next.healthy
      next.fifo with same | refused
    · right
      rw [Loop.returns_stop_iff again same] at returns
      rw [returns]
      exact next
    · left
      rw [Loop.returns_stop_iff again refused] at returns
      exact ⟨[], by rw [returns, next.refused_trace]⟩

/-- The piece that completes the payload: the frame is refused or rejected, and
the pieces reported before stay reported. -/
theorem Rejecting.final_chunk (keeps : client.keepsLength = true)
    (small : before.accumulated < sizeModulus)
    (unexpected : number ≠ frame.header.sequenceNumber.val)
    (piece : frame.payload.drop received = chunk)
    (returns : Loop.Returns payloadMissing
      (clientStep build client frame.header.type) device later) :
    (∃ events, later.trace = earlier ++
        .send (ackHeader frame.header.type frame.header.sequenceNumber.val
          .outOfBuffers) [] :: events) ∨
      Rejected client before received later := by
  have chunkPositive : 0 < chunk.length := List.length_pos_iff.mpr nonempty
  have lengths : frame.payload.length - received = chunk.length := by
    simpa using congrArg List.length piece
  have entered := rejecting.payloadMissing_eq (by omega)
  rcases rejecting.clientStep_cases designates nonempty (by omega) with
    refused | stepped
  · left
    rw [Loop.returns_stop_iff entered refused] at returns
    exact ⟨[], by rw [returns, rejecting.refused_trace]⟩
  · right
    rw [if_pos (by omega)] at stepped
    rw [Loop.returns_next_iff entered stepped] at returns
    obtain ⟨rejected, again⟩ :=
      rejecting.ended build keeps small unexpected (by omega)
    -- The header still holds the old length, so the loop is entered again.
    rcases clientStep_of_empty build client frame.header.type
      rejected.boundary.healthy rejected.boundary.empty with same | refused
    · rw [Loop.returns_stop_iff again same] at returns
      rw [returns]
      exact rejected
    · rw [Loop.returns_stop_iff again refused] at returns
      rw [returns]
      exact rejected.refused frame.header.type

end Piece

theorem ReceivesChunks.trace_kept {chunks : List (List UInt8)}
    {final : Device} (receives : ReceivesChunks build chunks device final) :
    device.trace <+: final.trace := by
  induction receives with
  | nil => exact List.prefix_rfl
  | @cons chunk _ device _ _ served _ induction =>
      have callback :=
        (uartIrqCallback_records (device.arrive chunk)).trace_kept
      exact callback.trans ((serves_records served).trace_kept.trans induction)

/-- A refused frame is not answered with another error. -/
theorem not_firstAnswer_of_refused {type : SerialType} {events : List Event}
    {refusedNumber : Nat} {final : Device}
    (recorded : later.trace = earlier ++
      .send (ackHeader type refusedNumber .outOfBuffers) [] :: events)
    (extended : later.trace <+: final.trace)
    (answered : FirstAnswer earlier
      (ackHeader type number .incorrectSequenceNumber) final) : False := by
  obtain ⟨rest, trace⟩ := FirstAnswer.of_prefix recorded extended
  have same := answered.error_eq trace
  have errors : ErrorType.incorrectSequenceNumber = .outOfBuffers :=
    congrArg SerialHeader.error same
  cases errors

/-- All the pieces of a rejected frame: every piece but the last one stays
reported. -/
theorem receivesChunks_of_rejecting {chunks : List (List UInt8)}
    {final : Device}
    (callbacks : serialMuxGetCallbacks build frame.header.type = some client)
    (designates : client ≠ .wifiData) (keeps : client.keepsLength = true)
    (small : before.accumulated < sizeModulus)
    (unexpected : number ≠ frame.header.sequenceNumber.val)
    (pieces : ∀ chunk ∈ chunks, chunk ≠ []) (nonempty : chunks ≠ [])
    (rejecting : Rejecting client frame before earlier number received []
      device)
    (remaining : frame.payload.drop received = chunks.flatten)
    (receives : ReceivesChunks build chunks device final)
    (answered : FirstAnswer earlier
      (ackHeader frame.header.type number .incorrectSequenceNumber) final) :
    ∃ counted,
      (counted = 0 ↔ received = 0 ∧ chunks.length = 1) ∧
      counted ≤ frame.payload.length ∧
      (final.clients client).accumulated =
        sizeAdd before.accumulated counted ∧
      (counted = 0 →
        Region.slice (final.clients client).buffer 0 before.accumulated =
          Region.slice before.buffer 0 before.accumulated) ∧
      AtBoundary final ∧ final.rxSequenceNumber = 0 := by
  induction chunks generalizing received device with
  | nil => exact absurd rfl nonempty
  | cons chunk chunks induction =>
      have chunkNonempty : chunk ≠ [] := pieces chunk (by simp)
      have positive : 0 < chunk.length := List.length_pos_iff.mpr chunkNonempty
      have arrived := rejecting.arrive chunk
      cases receives with
      | @cons _ _ _ later _ served rest =>
          rw [arrived.serves_iff callbacks] at served
          cases chunks with
          | nil =>
              cases rest
              rcases arrived.dequeued.final_chunk designates chunkNonempty keeps
                small unexpected (by simpa using remaining) served with
                ⟨events, refused⟩ | ⟨counted, contents, boundary, reset⟩
              · exact (not_firstAnswer_of_refused refused List.prefix_rfl
                  answered).elim
              · have bounded : received ≤ frame.payload.length := by
                  have lengths := congrArg List.length remaining
                  simp only [List.length_drop, List.flatten_cons,
                    List.flatten_nil, List.append_nil] at lengths
                  omega
                exact ⟨received, by simp, bounded, counted, contents, boundary,
                  reset⟩
          | cons next chunks =>
              have nextNonempty : next ≠ [] := pieces next (by simp)
              have more : (next :: chunks).flatten ≠ [] := by
                simp [nextNonempty]
              rcases arrived.dequeued.partial_chunk designates chunkNonempty
                keeps remaining more served with ⟨events, refused⟩ | reported
              · exact (not_firstAnswer_of_refused refused rest.trace_kept
                  answered).elim
              · have laterRemaining :
                    frame.payload.drop (received + chunk.length) =
                      (next :: chunks).flatten := by
                  rw [← List.drop_drop, remaining, List.flatten_cons,
                    List.drop_left]
                obtain ⟨counted, zero, results⟩ :=
                  induction (fun other member => pieces other (by simp [member]))
                    (by simp) reported laterRemaining rest
                refine ⟨counted, ?_, results⟩
                rw [zero]
                simp only [List.length_cons]
                omega

theorem rejecting_of_header (atType : device.parsingState = .type)
    (empty : device.rxFifo = []) (healthy : device.rxError = false)
    (small : (device.clients client).accumulated < sizeModulus)
    (positive : 0 < frame.payload.length)
    (bounded : frame.payload.length ≤ serialMaxPayloadLen) :
    Rejecting client frame (device.clients client)
      (device.arrive frame.header.encode).uartIrqCallback.trace
      device.rxSequenceNumber 0 []
      (device.arrive frame.header.encode).uartIrqCallback := by
  have fifo : (device.arrive frame.header.encode).rxFifo =
      frame.header.encode ++ [] := by
    simp [Device.arrive, empty]
  rw [← frame.length_eq] at positive bounded
  rw [uartIrqCallback_of_header (device.arrive frame.header.encode)
    frame.header [] atType healthy fifo positive bounded]
  constructor
  case inData => rfl
  case header => rfl
  case fifo => rfl
  case healthy => exact healthy
  case sequence => rfl
  case read => rfl
  case recorded => rfl
  case counted => exact (Nat.mod_eq_of_lt small).symm
  case contents => intro; rfl

/-- A client that is idle at a frame boundary has its next frame delivered
alone. -/
theorem deliversNext_of_idle (designates : client ≠ .wifiData)
    (boundary : AtBoundary device)
    (idle : (device.clients client).accumulated = 0) :
    DeliversNext build client device := by
  intro next callbacks sequence positive fits
  have bounded := Nat.le_trans fits (client.capacity_le build)
  have receiving := receiving_of_header boundary.atType boundary.empty
    boundary.healthy idle sequence positive bounded
  have whole : [next.payload].flatten = next.payload := by simp
  obtain ⟨final, state, counted, receives, called, zero, total, contents⟩ :=
    receivesChunks_of_receiving callbacks designates fits
      (by
        intro chunk member
        rw [List.mem_singleton.mp member]
        exact List.length_pos_iff.mp positive)
      (List.cons_ne_nil next.payload []) receiving whole.symm
  have none : counted = 0 := zero.mpr ⟨rfl, rfl⟩
  refine ⟨final, state, receives, ?_, ?_, ?_⟩
  · rw [whole, receiving.called]
    exact called
  · rw [whole]
    exact contents (.inr none)
  · intro keeps
    rw [total keeps, whole, none, Nat.zero_add]

/-- A frame that is answered with `INCORRECT_SEQUENCE_NUMBER` leaves its client
as it was, and the next frame of an idle client is delivered alone, if and
only if the payload arrives in one piece. -/
theorem rejected_untouched_iff (build : Build) (client : Client)
    (frame : Frame) (chunks : List (List UInt8)) (device final : Device)
    (callbacks : serialMuxGetCallbacks build frame.header.type = some client)
    (accumulates : client.keepsLength = true)
    (designates : client ≠ .wifiData)
    (atType : device.parsingState = .type)
    (empty : device.rxFifo = []) (healthy : device.rxError = false)
    (small : (device.clients client).accumulated < sizeModulus)
    (unexpected : frame.header.sequenceNumber.val ≠ device.rxSequenceNumber)
    (positive : 1 ≤ frame.payload.length)
    (fits : frame.payload.length ≤ client.capacity build)
    (pieces : ∀ chunk ∈ chunks, chunk ≠ [])
    (split : chunks.flatten = frame.payload)
    (receives : ReceivesChunks build chunks
      (device.arrive frame.header.encode).uartIrqCallback final)
    (answered : FirstAnswer
      (device.arrive frame.header.encode).uartIrqCallback.trace
      (ackHeader frame.header.type device.rxSequenceNumber
        .incorrectSequenceNumber) final) :
    (Untouched (device.clients client) (final.clients client) ∧
        ((device.clients client).accumulated = 0 →
          DeliversNext build client final)) ↔
      chunks.length = 1 := by
  have bounded := Nat.le_trans fits (client.capacity_le build)
  have nonempty : chunks ≠ [] := by
    intro none
    rw [none, List.flatten_nil] at split
    rw [← split] at positive
    exact absurd positive (by decide)
  obtain ⟨counted, zero, limited, accumulated, contents, boundary, -⟩ :=
    receivesChunks_of_rejecting callbacks designates accumulates small
      (Ne.symm unexpected) pieces nonempty
      (rejecting_of_header atType empty healthy small positive bounded)
      split.symm receives answered
  constructor
  · rintro ⟨⟨same, -⟩, -⟩
    rw [same, sizeAdd] at accumulated
    have none : counted = 0 := by
      unfold serialMaxPayloadLen at bounded
      unfold sizeModulus at small accumulated
      omega
    exact (zero.mp none).2
  · intro single
    have none : counted = 0 := zero.mpr ⟨rfl, single⟩
    have same : (final.clients client).accumulated =
        (device.clients client).accumulated := by
      rw [accumulated, none]
      exact Nat.mod_eq_of_lt small
    refine ⟨⟨same, contents none⟩, ?_⟩
    intro idle
    exact deliversNext_of_idle designates boundary (same.trans idle)

/-- A request of two bytes with a number that is not expected. -/
def lateFrame : Frame :=
  .ofPayload .netIfMgmt 5 [1, 2] Frame.oneTwo_bounded

private theorem lateFrame_whole :
    ∃ final,
      ReceivesChunks Build.full [[1, 2]]
        (boot.arrive lateFrame.header.encode).uartIrqCallback final ∧
      FirstAnswer (boot.arrive lateFrame.header.encode).uartIrqCallback.trace
        (ackHeader .netIfMgmt 0 .incorrectSequenceNumber) final := by
  have ran : (receiveChunks Build.full 3 [[1, 2]]
      (boot.arrive lateFrame.header.encode).uartIrqCallback).map
        (·.trace) = some
      ((boot.arrive lateFrame.header.encode).uartIrqCallback.trace ++
        [.send (ackHeader .netIfMgmt 0 .incorrectSequenceNumber) []]) := rfl
  obtain ⟨final, received, trace⟩ := Option.map_eq_some_iff.mp ran
  exact ⟨final, receivesChunks_of_eq received, [], trace⟩

/-- In one piece it leaves nothing behind. -/
theorem rejected_untouched_lateFrame :
    ∃ final,
      ReceivesChunks Build.full [[1, 2]]
        (boot.arrive lateFrame.header.encode).uartIrqCallback final ∧
      Untouched (boot.clients .netIfMgmt) (final.clients .netIfMgmt) ∧
      DeliversNext Build.full .netIfMgmt final := by
  obtain ⟨final, receives, answered⟩ := lateFrame_whole
  have kept := (rejected_untouched_iff Build.full .netIfMgmt lateFrame
    [[1, 2]] boot final (by decide) rfl (by decide) rfl rfl rfl (by decide)
    (by decide) (by decide) (by decide) (by decide) rfl receives answered).mpr
    rfl
  exact ⟨final, receives, kept.1, kept.2 rfl⟩

/-- In two pieces it is answered in the same way and leaves one byte. -/
theorem lateFrame_in_pieces_leaves_one :
    ∃ final,
      ReceivesChunks Build.full [[1], [2]]
        (boot.arrive lateFrame.header.encode).uartIrqCallback final ∧
      FirstAnswer (boot.arrive lateFrame.header.encode).uartIrqCallback.trace
        (ackHeader .netIfMgmt 0 .incorrectSequenceNumber) final ∧
      (final.clients .netIfMgmt).accumulated = 1 ∧
      ¬Untouched (boot.clients .netIfMgmt) (final.clients .netIfMgmt) := by
  have ran : (receiveChunks Build.full 3 [[1], [2]]
      (boot.arrive lateFrame.header.encode).uartIrqCallback).map
        (fun final => (final.trace, (final.clients .netIfMgmt).accumulated)) =
      some ((boot.arrive lateFrame.header.encode).uartIrqCallback.trace ++
        [.send (ackHeader .netIfMgmt 0 .incorrectSequenceNumber) []], 1) := rfl
  obtain ⟨final, received, outcome⟩ := Option.map_eq_some_iff.mp ran
  obtain ⟨trace, counted⟩ := Prod.mk.injEq .. ▸ outcome
  refine ⟨final, receivesChunks_of_eq received, ⟨[], trace⟩, counted, ?_⟩
  intro untouched
  have same : (final.clients .netIfMgmt).accumulated = 0 := untouched.1
  rw [counted] at same
  cases same

end Device

end SerialLink
