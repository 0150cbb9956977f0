import SerialLink.Device.HeaderParsing
import SerialLink.Device.Payload

/-!
# Payloads that arrive in pieces

A payload may become readable over several receive events.  The handler
stores each piece at the location `acquire_buffer` designates plus the bytes
of the frame read before, and reports it with `commit_data`; the last piece is
reported with the length of the whole frame.  A client that counts the
reported bytes designates the end of the pieces it has already seen, so that
the two offsets add up.
-/

namespace SerialLink

namespace Device

/-- Every chunk becomes readable alone and is followed by a receive event. -/
inductive ReceivesChunks (build : Build) :
    List (List UInt8) → Device → Device → Prop where
  | nil (device : Device) : ReceivesChunks build [] device device
  | cons {chunk : List UInt8} {chunks : List (List UInt8)}
      {device later final : Device} :
      Serves build (device.arrive chunk) later →
      ReceivesChunks build chunks later final →
      ReceivesChunks build (chunk :: chunks) device final

theorem ReceivesChunks.unique {build : Build} {chunks : List (List UInt8)}
    {device left right : Device}
    (first : ReceivesChunks build chunks device left)
    (second : ReceivesChunks build chunks device right) : left = right := by
  induction first with
  | nil => cases second; rfl
  | cons served _ induction =>
      cases second with
      | cons otherServed otherRest =>
          cases served.unique otherServed
          exact induction otherRest

/-- The same with a bound on the iterations of each handler's loop. -/
def receiveChunks (build : Build) (fuel : Nat) :
    List (List UInt8) → Device → Option Device
  | [], device => some device
  | chunk :: chunks, device =>
      match (device.arrive chunk).serviceRound build fuel with
      | some later => receiveChunks build fuel chunks later
      | none => none

theorem receivesChunks_of_eq {build : Build} {fuel : Nat}
    {chunks : List (List UInt8)} {device final : Device}
    (received : receiveChunks build fuel chunks device = some final) :
    ReceivesChunks build chunks device final := by
  induction chunks generalizing device with
  | nil =>
      simp only [receiveChunks, Option.some.injEq] at received
      exact received ▸ .nil device
  | cons chunk chunks induction =>
      rw [receiveChunks] at received
      cases round : (device.arrive chunk).serviceRound build fuel with
      | none => simp [round] at received
      | some later =>
          simp only [round] at received
          exact .cons ⟨fuel, round⟩ (induction received)

/-- The chunks end in exactly one call of the client's `message_complete`, made
with the payload at the start of the buffer and counted once. -/
def DeliversPayload (build : Build) (client : Client)
    (chunks : List (List UInt8)) (device : Device) : Prop :=
  ∃ final state,
    ReceivesChunks build chunks device final ∧
    completions final.trace = completions device.trace ++
      [(client, chunks.flatten.length, state)] ∧
    Region.slice state.buffer 0 chunks.flatten.length = chunks.flatten ∧
    (client.keepsLength = true → state.accumulated = chunks.flatten.length)

/-- `received` bytes of the frame's payload have been read, in pieces that did
not complete it, and `readable` is in the FIFO. -/
structure Receiving (client : Client) (frame : Frame)
    (before : List (Client × Nat × ClientState)) (received : Nat)
    (readable : List UInt8) (device : Device) : Prop where
  inData : device.parsingState = .data
  header : device.serialHeader = frame.header
  fifo : device.rxFifo = readable
  healthy : device.rxError = false
  sequence : device.rxSequenceNumber = frame.header.sequenceNumber.val
  read : device.bytesRead = received
  called : completions device.trace = before
  counted : client.keepsLength = true →
    (device.clients client).accumulated = received
  contents : client.keepsLength = false ∨ received = 0 →
    Region.slice (device.clients client).buffer 0 received =
      frame.payload.take received

variable {build : Build} {client : Client} {frame : Frame}
  {before : List (Client × Nat × ClientState)} {received : Nat}
  {readable chunk rest : List UInt8} {device : Device}

namespace Receiving

/-- Whatever the client counts, the rest of the frame still fits behind it. -/
theorem granted
    (receiving : Receiving client frame before received readable device)
    (designates : client ≠ .wifiData)
    (fits : frame.payload.length ≤ client.capacity build)
    (within : received ≤ frame.payload.length) :
    client.acquireBuffer build (device.clients client)
        (device.serialHeader.length.val - device.bytesRead) =
      .granted (some (client.occupied (device.clients client))) := by
  apply Client.acquireBuffer_fits designates
  rw [receiving.header, receiving.read, frame.length_eq]
  unfold Client.occupied
  split
  · next keeps => rw [receiving.counted keeps]; omega
  · omega

theorem missing
    (receiving : Receiving client frame before received readable device) :
    device.serialHeader.length.val - device.bytesRead =
      frame.payload.length - received := by
  rw [receiving.header, receiving.read, frame.length_eq]

theorem payloadMissing_eq
    (receiving : Receiving client frame before received readable device)
    (incomplete : received < frame.payload.length) :
    device.payloadMissing = true := by
  simpa [payloadMissing, receiving.header, receiving.read, frame.length_eq]
    using incomplete

/-- Reading the next piece of a frame: the step before the completion test. -/
theorem clientStep_eq
    (receiving : Receiving client frame before received chunk device)
    (designates : client ≠ .wifiData)
    (fits : frame.payload.length ≤ client.capacity build)
    (nonempty : chunk ≠ [])
    (within : received + chunk.length ≤ frame.payload.length) :
    device.clientStep build client frame.header.type =
      if received + chunk.length ≥ frame.payload.length then
        .next ((device.loaded build client
          (some (client.occupied (device.clients client))) chunk
          []).completeFrame build client frame.header.type).resetParser
      else
        .next ((device.loaded build client
          (some (client.occupied (device.clients client))) chunk
          []).commitData client chunk.length) := by
  have taken : device.rxFifo.take
      (device.serialHeader.length.val - device.bytesRead) = chunk := by
    rw [receiving.fifo, receiving.missing]
    exact List.take_of_length_le (by omega)
  have dropped : device.rxFifo.drop
      (device.serialHeader.length.val - device.bytesRead) = [] := by
    rw [receiving.fifo, receiving.missing]
    exact List.drop_of_length_le (by omega)
  have stepped := clientStep_of_granted frame.header.type
    (some (client.occupied (device.clients client))) chunk []
    receiving.healthy (receiving.granted designates fits (by omega))
    taken dropped nonempty
  rw [receiving.read, receiving.header, frame.length_eq] at stepped
  exact stepped

/-- The bytes stored for a frame whose client keeps no count, or whose first
piece this is, continue the ones stored before. -/
theorem contents_extend
    (receiving : Receiving client frame before received chunk device)
    (piece : frame.payload.drop received = chunk ++ rest)
    (exact : client.keepsLength = false ∨ received = 0) :
    Region.slice
        (Region.store (device.clients client).buffer
          (client.occupied (device.clients client) + device.bytesRead) chunk)
        0 (received + chunk.length) =
      frame.payload.take (received + chunk.length) := by
  have base : client.occupied (device.clients client) = 0 := by
    unfold Client.occupied
    split
    · next keeps =>
        rw [receiving.counted keeps]
        simpa [keeps] using exact
    · rfl
  rw [base, receiving.read, Nat.zero_add]
  exact Region.slice_store_extend (receiving.contents exact) piece

/-- A piece that does not complete the payload. -/
theorem partial_chunk
    (receiving : Receiving client frame before received chunk device)
    (designates : client ≠ .wifiData)
    (fits : frame.payload.length ≤ client.capacity build)
    (nonempty : chunk ≠ [])
    (piece : frame.payload.drop received = chunk ++ rest)
    (more : rest ≠ []) :
    ∃ later,
      Loop.Returns payloadMissing
        (clientStep build client frame.header.type) device later ∧
      Receiving client frame before (received + chunk.length) [] later := by
  have chunkPositive : 0 < chunk.length := List.length_pos_iff.mpr nonempty
  have restPositive : 0 < rest.length := List.length_pos_iff.mpr more
  have lengths : frame.payload.length - received =
      chunk.length + rest.length := by
    simpa using congrArg List.length piece
  have bounded := client.capacity_lt build
  let later := (device.loaded build client
    (some (client.occupied (device.clients client))) chunk []).commitData
      client chunk.length
  have stepped : device.clientStep build client frame.header.type =
      .next later := by
    rw [receiving.clientStep_eq designates fits nonempty (by omega),
      if_neg (by omega)]
  have stored : later.clients client =
      client.commitData
        { device.clients client with
          buffer := Region.store (device.clients client).buffer
            (client.occupied (device.clients client) + device.bytesRead)
            chunk } chunk.length := by
    simp [later]
  have next :
      Receiving client frame before (received + chunk.length) [] later := by
    constructor
    case inData => exact receiving.inData
    case header => exact receiving.header
    case fifo => rfl
    case healthy => exact receiving.healthy
    case sequence => exact receiving.sequence
    case read => exact congrArg (· + chunk.length) receiving.read
    case called => exact receiving.called
    case counted =>
      intro keeps
      rw [stored]
      simp only [Client.commitData, keeps, if_true, receiving.counted keeps]
      exact sizeAdd_eq (by omega)
    case contents =>
      intro exact
      rw [stored, Client.commitData_buffer]
      exact receiving.contents_extend piece (exact.imp_right (by omega))
  refine ⟨later, ?_, next⟩
  apply Loop.returns_of_next (receiving.payloadMissing_eq (by omega)) stepped
  apply Loop.returns_of_stop (next.payloadMissing_eq (by omega))
  exact clientStep_of_granted_empty next.healthy next.fifo
    (next.granted designates fits (by omega))

/-- What the last piece leaves with the client when the whole length is
committed. -/
theorem final_state
    (receiving : Receiving client frame before received chunk device)
    (fits : frame.payload.length ≤ client.capacity build)
    (nonempty : chunk ≠ [])
    (piece : frame.payload.drop received = chunk) {state : ClientState}
    (committed : state = client.commitData
      ((device.loaded build client
        (some (client.occupied (device.clients client))) chunk []).clients
          client) frame.payload.length) :
    (client.keepsLength = true →
      state.accumulated = received + frame.payload.length) ∧
    (client.keepsLength = false ∨ received = 0 →
      Region.slice state.buffer 0 frame.payload.length =
        frame.payload) := by
  have chunkPositive : 0 < chunk.length := List.length_pos_iff.mpr nonempty
  have lengths : frame.payload.length - received = chunk.length := by
    simpa using congrArg List.length piece
  have bounded := client.capacity_le build
  have whole : received + chunk.length = frame.payload.length := by omega
  constructor
  · intro keeps
    simp only [committed, loaded_clients, Client.commitData, keeps, if_true,
      receiving.counted keeps]
    apply sizeAdd_eq
    unfold serialMaxPayloadLen at bounded
    unfold sizeModulus
    omega
  · intro exact
    have extended := receiving.contents_extend
      (piece.trans (List.append_nil chunk).symm) exact
    rw [whole, List.take_length] at extended
    simpa [committed, Client.commitData_buffer] using extended

/-- The piece that completes the payload: `message_complete` is called with
the whole length committed on top of the pieces counted before. -/
theorem final_chunk
    (receiving : Receiving client frame before received chunk device)
    (designates : client ≠ .wifiData)
    (fits : frame.payload.length ≤ client.capacity build)
    (nonempty : chunk ≠ [])
    (piece : frame.payload.drop received = chunk) :
    ∃ later state,
      Loop.Returns payloadMissing
        (clientStep build client frame.header.type) device later ∧
      completions later.trace =
        before ++ [(client, frame.payload.length, state)] ∧
      (client.keepsLength = true →
        state.accumulated = received + frame.payload.length) ∧
      (client.keepsLength = false ∨ received = 0 →
        Region.slice state.buffer 0 frame.payload.length =
          frame.payload) := by
  have chunkPositive : 0 < chunk.length := List.length_pos_iff.mpr nonempty
  have lengths : frame.payload.length - received = chunk.length := by
    simpa using congrArg List.length piece
  let full := device.loaded build client
    (some (client.occupied (device.clients client))) chunk []
  let later := (full.completeFrame build client frame.header.type).resetParser
  let state := client.commitData (full.clients client) frame.payload.length
  have stepped : device.clientStep build client frame.header.type =
      .next later := by
    rw [receiving.clientStep_eq designates fits nonempty (by omega),
      if_pos (by omega)]
  have fullHeader : full.serialHeader = frame.header := by
    simpa [full] using receiving.header
  have delivered : completions later.trace =
      before ++ [(client, frame.payload.length, state)] := by
    have expected : full.rxSequenceNumber =
        full.serialHeader.sequenceNumber.val := by
      rw [fullHeader]
      simpa [full] using receiving.sequence
    have called := completeFrame_completions build client
      frame.header.type full expected
    rw [fullHeader, frame.length_eq] at called
    rw [show later.trace = _ from resetParser_trace _, called]
    simp [full, receiving.called, state]
  have again : later.payloadMissing = true := by
    simp only [later, payloadMissing, resetParser_bytesRead,
      resetParser_serialHeader, completeFrame_serialHeader, fullHeader,
      frame.length_eq, decide_eq_true_eq]
    omega
  have laterHealthy : later.rxError = false := by
    simpa [later, full] using receiving.healthy
  have laterEmpty : later.rxFifo = [] := by simp [later, full]
  have committed : state = client.commitData (full.clients client)
      frame.payload.length := rfl
  obtain ⟨counted, contents⟩ :=
    receiving.final_state fits nonempty piece committed
  -- The header still holds the old length, so the loop is entered again.
  rcases clientStep_of_empty build client frame.header.type laterHealthy
    laterEmpty with same | refused
  · exact ⟨later, state,
      Loop.returns_of_next (receiving.payloadMissing_eq (by omega)) stepped
        (Loop.returns_of_stop again same),
      delivered, counted, contents⟩
  · exact ⟨later.refuseFrame frame.header.type, state,
      Loop.returns_of_next (receiving.payloadMissing_eq (by omega)) stepped
        (Loop.returns_of_stop again refused),
      by rw [refuseFrame_completions]; exact delivered, counted, contents⟩

/-- Bytes that become readable do not disturb the frame being received. -/
theorem arrive (receiving : Receiving client frame before received [] device)
    (chunk : List UInt8) :
    Receiving client frame before received chunk (device.arrive chunk) :=
  { receiving with fifo := by simp [Device.arrive, receiving.fifo] }

theorem dequeued
    (receiving : Receiving client frame before received readable device) :
    Receiving client frame before received readable
      device.takeWork :=
  { receiving with }

theorem serves
    (receiving : Receiving client frame before received readable device)
    (callbacks : serialMuxGetCallbacks build frame.header.type = some client)
    {later : Device}
    (returns : Loop.Returns payloadMissing
      (clientStep build client frame.header.type)
      device.takeWork later) :
    Serves build device later := by
  rw [← receiving.header] at callbacks returns
  exact (serves_iff_of_queued (uartIrqCallback_of_data receiving.inData)
    callbacks).mpr returns

end Receiving

/-- All the pieces of a payload: the client is called once, with every piece
but the last one counted twice. -/
theorem receivesChunks_of_receiving {chunks : List (List UInt8)}
    (callbacks : serialMuxGetCallbacks build frame.header.type = some client)
    (designates : client ≠ .wifiData)
    (fits : frame.payload.length ≤ client.capacity build)
    (pieces : ∀ chunk ∈ chunks, chunk ≠ [])
    (nonempty : chunks ≠ [])
    (receiving : Receiving client frame before received [] device)
    (remaining : frame.payload.drop received = chunks.flatten) :
    ∃ final state counted,
      ReceivesChunks build chunks device final ∧
      completions final.trace =
        before ++ [(client, frame.payload.length, state)] ∧
      (counted = 0 ↔ received = 0 ∧ chunks.length = 1) ∧
      (client.keepsLength = true →
        state.accumulated = counted + frame.payload.length) ∧
      (client.keepsLength = false ∨ counted = 0 →
        Region.slice state.buffer 0 frame.payload.length =
          frame.payload) := by
  induction chunks generalizing received device with
  | nil => exact absurd rfl nonempty
  | cons chunk chunks induction =>
      have chunkNonempty : chunk ≠ [] := pieces chunk (by simp)
      have positive : 0 < chunk.length := List.length_pos_iff.mpr chunkNonempty
      have arrived := receiving.arrive chunk
      cases chunks with
      | nil =>
          obtain ⟨later, state, returns, called, counted, contents⟩ :=
            arrived.dequeued.final_chunk designates fits chunkNonempty
              (by simpa using remaining)
          refine ⟨later, state, received, ?_, called, by simp, counted,
            contents⟩
          exact .cons (arrived.serves callbacks returns) (.nil later)
      | cons next rest =>
          have nextNonempty : next ≠ [] := pieces next (by simp)
          have more : (next :: rest).flatten ≠ [] := by simp [nextNonempty]
          obtain ⟨later, returns, received'⟩ :=
            arrived.dequeued.partial_chunk designates fits chunkNonempty
              remaining more
          have laterRemaining :
              frame.payload.drop (received + chunk.length) =
                (next :: rest).flatten := by
            rw [← List.drop_drop, remaining, List.flatten_cons, List.drop_left]
          obtain ⟨final, state, counted, receives, called, zero, total,
              contents⟩ :=
            induction (fun other member => pieces other (by simp [member]))
              (by simp) received' laterRemaining
          refine ⟨final, state, counted,
            .cons (arrived.serves callbacks returns) receives, called, ?_,
            total, contents⟩
          rw [zero]
          simp only [List.length_cons]
          omega

/-- The device has read the header and waits for the payload. -/
theorem receiving_of_header (atType : device.parsingState = .type)
    (empty : device.rxFifo = []) (healthy : device.rxError = false)
    (idle : (device.clients client).accumulated = 0)
    (sequence : frame.header.sequenceNumber.val = device.rxSequenceNumber)
    (positive : 0 < frame.payload.length)
    (bounded : frame.payload.length ≤ serialMaxPayloadLen) :
    Receiving client frame (completions device.trace) 0 []
      (device.arrive frame.header.encode).uartIrqCallback := by
  have fifo : (device.arrive frame.header.encode).rxFifo =
      frame.header.encode ++ [] := by
    simp [Device.arrive, empty]
  rw [← frame.length_eq] at positive bounded
  rw [uartIrqCallback_of_header (device.arrive frame.header.encode)
    frame.header [] atType healthy fifo positive bounded]
  constructor
  case inData => rfl
  case header => rfl
  case fifo => rfl
  case healthy => exact healthy
  case sequence => exact sequence.symm
  case read => rfl
  case called => simp [submitWork, payloadExpected, log, Device.arrive]
  case counted => exact fun _ => idle
  case contents => intro; simp

/-- A payload that fits is delivered as it was sent if and only if its client
keeps no count of reported bytes or the payload arrives in one piece. -/
theorem fragmented_delivery_iff (build : Build) (client : Client)
    (frame : Frame) (chunks : List (List UInt8)) (device : Device)
    (callbacks : serialMuxGetCallbacks build frame.header.type = some client)
    (designates : client ≠ .wifiData)
    (atType : device.parsingState = .type)
    (empty : device.rxFifo = []) (healthy : device.rxError = false)
    (idle : (device.clients client).accumulated = 0)
    (sequence : frame.header.sequenceNumber.val = device.rxSequenceNumber)
    (positive : 1 ≤ frame.payload.length)
    (fits : frame.payload.length ≤ client.capacity build)
    (pieces : ∀ chunk ∈ chunks, chunk ≠ [])
    (split : chunks.flatten = frame.payload) :
    DeliversPayload build client chunks
        (device.arrive frame.header.encode).uartIrqCallback ↔
      client.keepsLength = false ∨ chunks.length = 1 := by
  have bounded := Nat.le_trans fits (client.capacity_le build)
  have nonempty : chunks ≠ [] := by
    intro none
    rw [none, List.flatten_nil] at split
    rw [← split] at positive
    exact absurd positive (by decide)
  have receiving := receiving_of_header atType empty healthy idle sequence
    positive bounded
  obtain ⟨final, state, counted, receives, called, zero, total, contents⟩ :=
    receivesChunks_of_receiving callbacks designates fits pieces nonempty
      receiving (by simpa using split.symm)
  constructor
  · rintro ⟨otherFinal, otherState, otherReceives, otherCalled, -, once⟩
    cases receives.unique otherReceives
    rw [called, split, receiving.called] at otherCalled
    have sameState : state = otherState := by simpa using otherCalled
    subst sameState
    by_cases keeps : client.keepsLength = true
    · have counts := total keeps
      rw [once keeps, split] at counts
      exact Or.inr (zero.mp (by omega)).2
    · exact Or.inl (by simpa using keeps)
  · intro condition
    have exact : client.keepsLength = false ∨ counted = 0 :=
      condition.imp_right fun single => zero.mpr ⟨rfl, single⟩
    refine ⟨final, state, receives, ?_, ?_, ?_⟩
    · rw [split, receiving.called]; exact called
    · rw [split]; exact contents exact
    · intro keeps
      have none : counted = 0 := by simpa [keeps] using exact
      rw [total keeps, split, none, Nat.zero_add]

/-- A frame of two bytes for the Thread radio. -/
def threadFrame : Frame :=
  .ofPayload .thread 0 [1, 2] Frame.oneTwo_bounded

theorem fragmented_delivery_twoChunks :
    DeliversPayload Build.full .ot [[1], [2]]
      (boot.arrive threadFrame.header.encode).uartIrqCallback :=
  (fragmented_delivery_iff Build.full .ot threadFrame [[1], [2]] boot
    (by decide) (by decide) rfl rfl rfl rfl rfl (by decide) (by decide)
    (by decide) rfl).mpr (.inl rfl)

/-- A request of two bytes for the network interface proxy. -/
def twoByteFrame : Frame :=
  .ofPayload .netIfMgmt 0 [1, 2] Frame.oneTwo_bounded

/-- In two pieces it is completed with three bytes counted. -/
theorem twoByteFrame_in_pieces_not_delivered :
    serialMuxGetCallbacks Build.full twoByteFrame.header.type =
        some .netIfMgmt ∧
      (boot.clients .netIfMgmt).accumulated = 0 ∧
      twoByteFrame.header.sequenceNumber.val = boot.rxSequenceNumber ∧
      [[1], [2]].flatten = twoByteFrame.payload ∧
      ¬DeliversPayload Build.full .netIfMgmt [[1], [2]]
        (boot.arrive twoByteFrame.header.encode).uartIrqCallback := by
  refine ⟨by decide, rfl, rfl, rfl, ?_⟩
  rintro ⟨final, state, receives, called, -, once⟩
  have ran : (receiveChunks Build.full 3 [[1], [2]]
      (boot.arrive twoByteFrame.header.encode).uartIrqCallback).map
        (fun last => (completions last.trace).map (·.2.2.accumulated)) =
      some [3] := by
    decide
  obtain ⟨last, received, counts⟩ := Option.map_eq_some_iff.mp ran
  cases receives.unique (receivesChunks_of_eq received)
  rw [called] at counts
  have calls : [state.accumulated] = [3] := counts
  have counted : state.accumulated = 2 := once rfl
  rw [counted] at calls
  exact absurd calls (by decide)

end Device

end SerialLink
