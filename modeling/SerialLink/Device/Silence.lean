import SerialLink.Device.NoAck

/-!
# Runs that answer a frame with `no_ack`

A frame is fed to the receiver byte by byte, an iteration of the handler after
each.  If no run answers, this one has found a place for every byte, the
expected number and a grant for the stale header: what the frame needs to be
delivered without an answer.
-/

namespace SerialLink

namespace Reception

variable {build : Build} {client : Client} {frame : Frame} {origin : Device}
  {read : Nat} {start reception : Reception}

/-- Some run gets there. -/
def Reaches (build : Build) : Reception → Reception → Prop :=
  Run.Reaches (step build)

theorem Reaches.arrive (reaches : Reaches build start reception)
    (count : Nat) :
    Reaches build start
      { receiver := { reception.receiver with device := reception.arrived count }
        incoming := reception.incoming.drop count } :=
  Run.Reaches.snoc reaches
    (show step build reception (.arrive count) = some _ from rfl)

theorem Reaches.callback (reaches : Reaches build start reception)
    (idle : reception.receiver.handling = none) :
    Reaches build start
      { reception with
        receiver :=
          { reception.receiver with
            device := reception.receiver.device.uartIrqCallback } } := by
  have stepped : step build reception (.act .callback) = some
      { reception with
        receiver :=
          { reception.receiver with
            device := reception.receiver.device.uartIrqCallback } } := by
    simp [step, Receiver.step, idle]
  exact Run.Reaches.snoc reaches stepped

theorem Reaches.begin (reaches : Reaches build start reception)
    (idle : reception.receiver.handling = none)
    (pending : reception.receiver.device.workPending = true) :
    Reaches build start
      { reception with
        receiver :=
          Receiver.begin build reception.receiver.device.takeWork } := by
  have stepped : step build reception (.act .begin) = some
      { reception with
        receiver :=
          Receiver.begin build reception.receiver.device.takeWork } := by
    simp [step, Receiver.step, idle, pending]
  exact Run.Reaches.snoc reaches stepped

theorem Reaches.iterate {frameType : SerialType}
    (reaches : Reaches build start reception)
    (handling : reception.receiver.handling = some frameType) :
    Reaches build start
      { reception with
        receiver := Receiver.iterate build frameType
          reception.receiver.device } := by
  have stepped : step build reception (.act .iterate) = some
      { reception with
        receiver := Receiver.iterate build frameType
          reception.receiver.device } := by
    simp [step, Receiver.step, handling]
  exact Run.Reaches.snoc reaches stepped

theorem Silent.unanswered (silent : Silent build start)
    (reaches : Reaches build start reception) :
    Unanswered start.receiver.device reception := by
  obtain ⟨labels, executed⟩ := reaches
  exact silent labels reception executed

/-- A state that has answered more than one before it is not reached. -/
theorem Unanswered.not_answered {header : SerialHeader}
    (unanswered : Unanswered origin reception)
    (answered : answers origin.trace ++ [header] <+:
      answers reception.receiver.device.trace) : False := by
  have length := answered.length_le
  rw [unanswered.same, List.length_append] at length
  exact Nat.not_succ_le_self _ length

/-- The callback answers an over-long frame. -/
theorem Silent.bounded {device : Device}
    (silent : Silent build (awaiting device frame))
    (quiet : Device.Quiet device) (healthy : device.rxError = false) :
    frame.payload.length ≤ serialMaxPayloadLen := by
  apply Nat.le_of_not_lt
  intro long
  let arrived := (awaiting device frame).arrived frame.encode.length
  have fifo : arrived.rxFifo = frame.header.encode ++ frame.payload := by
    show device.rxFifo ++ frame.encode.take frame.encode.length = _
    rw [quiet.empty, List.take_length]
    rfl
  have reached : Reaches build (awaiting device frame) _ :=
    (Reaches.arrive (.refl _) frame.encode.length).callback rfl
  have answered := arrived.uartIrqCallback_answers_overlong frame.payload
    (by rw [frame.length_eq]; exact long) quiet.atType healthy fifo
  exact (silent.unanswered reached).not_answered answered

/-- The handler has started, and nothing of the payload has arrived. -/
theorem exists_filling {device : Device} (build : Build) (client : Client)
    (quiet : Device.Quiet device) (healthy : device.rxError = false)
    (unharmed : device.stray = false)
    (positive : 0 < frame.payload.length)
    (bounded : frame.payload.length ≤ serialMaxPayloadLen) :
    ∃ reception, Reaches build (awaiting device frame) reception ∧
      Filling client frame device 0 reception ∧
      reception.receiver.handling = some frame.header.type ∧
      reception.receiver.device.rxFifo = [] := by
  let arrived := (awaiting device frame).arrived 4
  have fifo : arrived.rxFifo = frame.header.encode ++ [] := by
    show device.rxFifo ++ (frame.header.encode ++ frame.payload).take 4 = _
    rw [quiet.empty, List.append_nil]
    rfl
  have called := Device.uartIrqCallback_of_header arrived frame.header []
    quiet.atType healthy fifo (by rw [frame.length_eq]; exact positive)
    (by rw [frame.length_eq]; exact bounded)
  have parsing := (parsing_awaiting frame quiet healthy).arrive 4
  have unanswered : Unanswered device (awaiting device frame) :=
    ⟨rfl, unharmed⟩
  have reached : Reaches build (awaiting device frame) _ :=
    (Reaches.arrive (.refl _) 4).callback rfl
  have pending : arrived.uartIrqCallback.workPending = true := by
    rw [called]
    rfl
  refine ⟨_, reached.begin rfl pending, .of_parsing build client quiet.atType
    positive bounded parsing.callback (parsing.unanswered_callback
      (unanswered.arrive 4)
      (answers_of_announced quiet.atType positive bounded)) pending, ?_⟩
  have begun : Receiver.begin build arrived.uartIrqCallback.takeWork =
      { device := arrived.uartIrqCallback.takeWork
        handling := some frame.header.type } := by
    rw [called]
    apply begin_of_positive
    show 0 < frame.header.length.val
    rw [frame.length_eq]
    exact positive
  show (Receiver.begin build arrived.uartIrqCallback.takeWork).handling =
      some frame.header.type ∧
    (Receiver.begin build
      arrived.uartIrqCallback.takeWork).device.rxFifo = []
  rw [begun, called]
  exact ⟨rfl, rfl⟩

/-- The next byte of the payload arrives alone. -/
theorem Midway.arrived_length (midway : Midway frame origin read reception)
    (empty : reception.receiver.device.rxFifo = []) :
    (reception.arrived 1).rxFifo.length = 1 := by
  have incomplete := midway.incomplete
  have stream := midway.stream
  rw [empty, List.nil_append] at stream
  have length := congrArg List.length stream
  rw [List.length_drop] at length
  simp only [arrived, Device.arrive, empty, List.nil_append,
    List.length_take]
  omega

section Bytewise

variable {device : Device} (silent : Silent build (awaiting device frame))
  (reached : Reaches build (awaiting device frame) reception)

include silent reached

/-- A run that must not answer finds a place for the next byte. -/
theorem Filling.granted (filling : Filling client frame device read reception)
    (callbacks : serialMuxGetCallbacks build frame.header.type = some client)
    (handling : reception.receiver.handling = some frame.header.type)
    (nonempty : reception.receiver.device.rxFifo ≠ []) :
    client ≠ .wifiData ∧
      client.acquireBuffer build (reception.receiver.device.clients client)
        (reception.receiver.device.serialHeader.length.val -
          reception.receiver.device.bytesRead) =
        .granted (some (reception.receiver.device.occupied client)) ∧
      reception.receiver.device.occupied client + read +
        reception.receiver.device.rxFifo.length ≤ client.capacity build := by
  have next := silent.unanswered (reached.iterate handling)
  rw [Receiver.iterate, if_pos filling.payloadMissing,
    Device.workStep_of_client callbacks] at next
  have refused_or : client.acquireBuffer build
      (reception.receiver.device.clients client)
      (reception.receiver.device.serialHeader.length.val -
        reception.receiver.device.bytesRead) ≠ .refused := by
    intro refused
    rw [Device.clientStep_of_refused refused] at next
    apply next.not_answered
    rw [Device.refuseFrame_answers, filling.unanswered.same]
    exact List.prefix_rfl
  have unharmed : ∀ base, client.acquireBuffer build
      (reception.receiver.device.clients client)
      (reception.receiver.device.serialHeader.length.val -
        reception.receiver.device.bytesRead) = .granted base →
      (reception.receiver.device.loaded build client base
        reception.receiver.device.rxFifo []).stray = false := by
    intro base granted
    rw [filling.clientStep_eq granted nonempty] at next
    by_cases complete : read + reception.receiver.device.rxFifo.length ≥
        frame.payload.length
    · rw [if_pos complete] at next
      simpa using next.unharmed
    · rw [if_neg complete] at next
      exact next.unharmed
  have designates : client ≠ .wifiData := by
    rintro rfl
    rcases Client.acquireBuffer_wifiData build
        (reception.receiver.device.clients .wifiData)
        (reception.receiver.device.serialHeader.length.val -
          reception.receiver.device.bytesRead) with refused | granted
    · exact refused_or refused
    · cases unharmed none granted
  rcases Client.acquireBuffer_cases build
      (reception.receiver.device.clients client)
      (reception.receiver.device.serialHeader.length.val -
        reception.receiver.device.bytesRead) designates with refused | granted
  · exact absurd refused refused_or
  · refine ⟨designates, granted, ?_⟩
    have placed := unharmed _ granted
    rw [Device.loaded_stray, filling.unanswered.unharmed,
      filling.bytesRead] at placed
    simpa [Device.occupied] using placed

/-- A byte that does not complete the payload. -/
theorem Filling.next_byte
    (filling : Filling client frame device read reception)
    (callbacks : serialMuxGetCallbacks build frame.header.type = some client)
    (handling : reception.receiver.handling = some frame.header.type)
    (empty : reception.receiver.device.rxFifo = [])
    (more : read + 1 < frame.payload.length) :
    ∃ next, Reaches build (awaiting device frame) next ∧
      Filling client frame device (read + 1) next ∧
      next.receiver.handling = some frame.header.type ∧
      next.receiver.device.rxFifo = [] := by
  have one := filling.arrived_length empty
  have fed := filling.arrive 1
  have nonempty : (reception.arrived 1).rxFifo ≠ [] := by
    intro none
    rw [none] at one
    cases one
  obtain ⟨_, granted, placed⟩ := fed.granted silent (reached.arrive 1)
    callbacks handling nonempty
  have iterated : Receiver.iterate build frame.header.type
      (reception.arrived 1) =
        { device := ((reception.arrived 1).loaded build client
            (some ((reception.arrived 1).occupied client))
            (reception.arrived 1).rxFifo []).commitData client
              (reception.arrived 1).rxFifo.length
          handling := some frame.header.type } := by
    rw [Receiver.iterate, if_pos fed.payloadMissing,
      Device.workStep_of_client callbacks, fed.clientStep_eq granted nonempty,
      if_neg (by simp only [one]; omega)]
  have extended := fed.extend placed (by simp only [one]; exact more) handling
  have arrived := (reached.arrive 1).iterate handling
  simp only [one] at extended
  rw [show Receiver.iterate build frame.header.type _ = _ from iterated]
    at arrived
  simp only [one] at arrived
  exact ⟨_, arrived, extended, rfl, rfl⟩

/-- Every byte but the last one, each taken by itself. -/
theorem exists_filling_before
    (filling : Filling client frame device 0 reception)
    (callbacks : serialMuxGetCallbacks build frame.header.type = some client)
    (handling : reception.receiver.handling = some frame.header.type)
    (empty : reception.receiver.device.rxFifo = [])
    (read : Nat) (before : read < frame.payload.length) :
    ∃ next, Reaches build (awaiting device frame) next ∧
      Filling client frame device read next ∧
      next.receiver.handling = some frame.header.type ∧
      next.receiver.device.rxFifo = [] := by
  induction read with
  | zero => exact ⟨reception, reached, filling, handling, empty⟩
  | succ read induction =>
      obtain ⟨next, nextReached, nextFilling, nextHandling, nextEmpty⟩ :=
        induction (by omega)
      exact nextFilling.next_byte silent nextReached callbacks nextHandling
        nextEmpty before

/-- The last piece of the payload is taken. -/
theorem Filling.reaches_completed
    (filling : Filling client frame device read reception)
    (callbacks : serialMuxGetCallbacks build frame.header.type = some client)
    (handling : reception.receiver.handling = some frame.header.type)
    (nonempty : reception.receiver.device.rxFifo ≠ [])
    (last : read + reception.receiver.device.rxFifo.length =
      frame.payload.length) :
    Reaches build (awaiting device frame)
      { reception with
        receiver :=
          { device := pieceCompleted build client frame
              reception.receiver.device
            handling := some frame.header.type } } := by
  obtain ⟨_, granted, _⟩ := filling.granted silent reached callbacks handling
    nonempty
  have completed := reached.iterate handling
  rwa [Receiver.iterate, if_pos filling.payloadMissing,
    Device.workStep_of_client callbacks,
    filling.clientStep_eq granted nonempty,
    if_pos (Nat.le_of_eq last.symm)] at completed

omit reached in
/-- The frame has the expected number. -/
theorem Filling.expected
    (filling : Filling client frame device read reception)
    (completed : Reaches build (awaiting device frame)
      { reception with
        receiver :=
          { device := pieceCompleted build client frame
              reception.receiver.device
            handling := some frame.header.type } }) :
    frame.header.sequenceNumber.val = device.rxSequenceNumber := by
  by_cases same : frame.header.sequenceNumber.val = device.rxSequenceNumber
  · exact same
  · exfalso
    apply (silent.unanswered completed).not_answered
    show _ <+: answers (pieceCompleted build client frame
      reception.receiver.device).trace
    rw [pieceCompleted, Device.resetParser_trace,
      completeFrame_answers_unexpected _ _ _ _ (by
        simpa [filling.sequence, filling.header, eq_comm] using same),
      Device.loaded_trace, filling.unanswered.same]
    exact List.prefix_rfl

omit reached in
/-- The stale length is not refused. -/
theorem Filling.granted_again
    (filling : Filling client frame device read reception)
    (callbacks : serialMuxGetCallbacks build frame.header.type = some client)
    (completed : Reaches build (awaiting device frame)
      { reception with
        receiver :=
          { device := pieceCompleted build client frame
              reception.receiver.device
            handling := some frame.header.type } }) :
    client.acquireBuffer build
      ((pieceCompleted build client frame
        reception.receiver.device).clients client)
      frame.payload.length ≠ .refused := by
  intro refused
  have stale : (pieceCompleted build client frame
      reception.receiver.device).serialHeader.length.val =
        frame.payload.length := by
    simp [pieceCompleted, filling.header, frame.length_eq]
  have unread : (pieceCompleted build client frame
      reception.receiver.device).bytesRead = 0 := rfl
  have missing : (pieceCompleted build client frame
      reception.receiver.device).payloadMissing = true := by
    have positive := Nat.zero_lt_of_lt filling.incomplete
    simpa [Device.payloadMissing, stale, unread] using positive
  have earlier := silent.unanswered completed
  have again := silent.unanswered (completed.iterate rfl)
  have stopped : Device.clientStep build client frame.header.type
      (pieceCompleted build client frame reception.receiver.device) = _ :=
    Device.clientStep_of_refused (by rw [stale, unread]; exact refused)
  simp only [Receiver.iterate, if_pos missing,
    Device.workStep_of_client callbacks, stopped] at again
  apply again.not_answered
  refine ⟨[], ?_⟩
  rw [List.append_nil, Device.refuseFrame_answers, earlier.same]

/-- The last byte has found room in the worst case. -/
theorem Filling.last_byte
    (filling : Filling client frame device read reception)
    (callbacks : serialMuxGetCallbacks build frame.header.type = some client)
    (handling : reception.receiver.handling = some frame.header.type)
    (one : reception.receiver.device.rxFifo.length = 1)
    (last : read + 1 = frame.payload.length) :
    client ≠ .wifiData ∧
      frame.header.sequenceNumber.val = device.rxSequenceNumber ∧
      client.demand (device.clients client) frame.payload.length ≤
        client.capacity build := by
  have nonempty : reception.receiver.device.rxFifo ≠ [] := by
    intro none
    rw [none] at one
    cases one
  obtain ⟨designates, _, placed⟩ := filling.granted silent reached callbacks
    handling nonempty
  have completed := filling.reaches_completed silent reached callbacks
    handling nonempty (by rw [one]; exact last)
  have expected := filling.expected silent completed
  have held := filling.occupied_complete designates placed expected
  have again := filling.granted_again silent callbacks completed
  rw [one] at placed
  have within : (pieceCompleted build client frame
      reception.receiver.device).occupied client ≤
        client.capacity build := by
    rw [held]
    split <;> omega
  rw [Ne, Client.acquireBuffer_refused_iff designates within
    frame.payload_length_le, Nat.not_lt] at again
  refine ⟨designates, expected, ?_⟩
  change (pieceCompleted build client frame
    reception.receiver.device).occupied client + _ ≤ _ at again
  rw [held, filling.occupied] at again
  rw [filling.occupied] at placed
  unfold Client.demand
  change device.occupied client + _ + _ + _ ≤ _
  cases client <;>
    simp [Client.isMgmt, Client.keepsLength] at again placed ⊢ <;> omega

omit silent reached in
/-- A single byte of a frame without a client is discarded. -/
theorem Midway.discardStep_eq (midway : Midway frame device read reception)
    (one : reception.receiver.device.rxFifo.length = 1) :
    reception.receiver.device.discardStep frame.header.type =
      let skipped :=
        { reception.receiver.device with
          rxFifo := []
          consumed := reception.receiver.device.consumed + 1
          bytesRead := read + 1 }
      if read + 1 ≥ frame.payload.length then
        .next (skipped.sendAck frame.header.type
          frame.header.sequenceNumber.val .lengthTooLong).resetParser
      else .next skipped := by
  have incomplete := midway.incomplete
  have taken : reception.receiver.device.rxFifo.take
      (min (frame.payload.length - read) 64) =
      reception.receiver.device.rxFifo :=
    List.take_of_length_le (by omega)
  have dropped : reception.receiver.device.rxFifo.drop
      (min (frame.payload.length - read) 64) = [] :=
    List.drop_of_length_le (by omega)
  simp only [Device.discardStep, Device.uartFifoRead, midway.healthy,
    Bool.false_eq_true, if_false, midway.header, midway.bytesRead,
    frame.length_eq, taken, dropped, one]

/-- A byte of a frame without a client that does not complete it. -/
theorem Midway.skip_byte (midway : Midway frame device read reception)
    (discards : ∀ device : Device, device.workStep build frame.header.type =
      device.discardStep frame.header.type)
    (handling : reception.receiver.handling = some frame.header.type)
    (empty : reception.receiver.device.rxFifo = []) :
    read + 1 < frame.payload.length ∧
      ∃ next, Reaches build (awaiting device frame) next ∧
        Midway frame device (read + 1) next ∧
        next.receiver.handling = some frame.header.type ∧
        next.receiver.device.rxFifo = [] := by
  have fed := midway.arrive 1
  have one := midway.arrived_length empty
  have stepped := fed.discardStep_eq one
  have iterated := (reached.arrive 1).iterate handling
  rw [Receiver.iterate, if_pos fed.payloadMissing, discards, stepped]
    at iterated
  by_cases complete : read + 1 ≥ frame.payload.length
  · exfalso
    simp only [if_pos complete] at iterated
    apply (silent.unanswered iterated).not_answered
    show _ <+: answers ((reception.arrived 1).trace ++ [_])
    rw [answers_append, fed.unanswered.same]
    exact List.prefix_rfl
  · simp only [if_neg complete] at iterated
    refine ⟨by omega, _, iterated, ?_, rfl, rfl⟩
    exact
      { header := fed.header
        inData := fed.inData
        bytesRead := rfl
        incomplete := by omega
        stream := by
          have rest := fed.incoming_eq
          rw [one] at rest
          exact rest
        healthy := fed.healthy
        sequence := fed.sequence
        unanswered := ⟨fed.unanswered.same, fed.unanswered.unharmed⟩
        position := .inr ⟨rfl, fed.waiting handling⟩ }

/-- The discarded payload of a frame without a client is answered. -/
theorem Midway.registered (notInfo : frame.header.type ≠ .protocolInfo)
    (midway : Midway frame device 0 reception)
    (handling : reception.receiver.handling = some frame.header.type)
    (empty : reception.receiver.device.rxFifo = []) :
    ∃ client, serialMuxGetCallbacks build frame.header.type = some client := by
  cases callbacks : serialMuxGetCallbacks build frame.header.type with
  | some client => exact ⟨client, rfl⟩
  | none =>
      exfalso
      have discards (device : Device) :
          device.workStep build frame.header.type =
            device.discardStep frame.header.type := by
        simp [Device.workStep, notInfo, callbacks]
      have endless : ∀ read, read < frame.payload.length ∧
          ∃ next, Reaches build (awaiting device frame) next ∧
            Midway frame device read next ∧
            next.receiver.handling = some frame.header.type ∧
            next.receiver.device.rxFifo = [] := by
        intro read
        induction read with
        | zero => exact ⟨midway.incomplete, _, reached, midway, handling, empty⟩
        | succ read induction =>
            obtain ⟨_, next, nextReached, skipping, inLoop, drained⟩ :=
              induction
            exact skipping.skip_byte silent nextReached discards inLoop drained
      exact absurd (endless frame.payload.length).1 (Nat.lt_irrefl _)

end Bytewise

theorem Silent.unremarked {device : Device}
    (silent : Silent build (awaiting device frame))
    (quiet : Device.Quiet device) (healthy : device.rxError = false)
    (unharmed : device.stray = false)
    (notInfo : frame.header.type ≠ .protocolInfo) :
    Unremarked build frame device := by
  by_cases empty : frame.payload = []
  · exact .inl empty
  · right
    have positive : 0 < frame.payload.length := List.length_pos_iff.mpr empty
    have bounded := silent.bounded quiet healthy
    obtain ⟨begun, begunReached, begunFilling, handling, drained⟩ :=
      exists_filling build .ot quiet healthy unharmed positive bounded
    obtain ⟨client, callbacks⟩ := begunFilling.registered silent begunReached
      notInfo handling drained
    obtain ⟨first, firstReached, firstFilling, handling, drained⟩ :=
      exists_filling build client quiet healthy unharmed positive bounded
    obtain ⟨last, lastReached, lastFilling, handling, drained⟩ :=
      exists_filling_before silent firstReached firstFilling callbacks
        handling drained (frame.payload.length - 1) (by omega)
    exact ⟨client, callbacks, (lastFilling.arrive 1).last_byte silent
      (lastReached.arrive 1) callbacks handling
      (lastFilling.arrived_length drained) (by omega)⟩

/-- A frame that asks for no answer gets none, in whatever pieces it arrives,
exactly if it has no payload or is delivered to a client whose buffer has room
for the worst case. -/
theorem silent_iff (build : Build) (frame : Frame) (device : Device)
    (quiet : Device.Quiet device) (healthy : device.rxError = false)
    (unharmed : device.stray = false)
    (noAck : frame.header.noAck = true)
    (notInfo : frame.header.type ≠ .protocolInfo) :
    Silent build (awaiting device frame) ↔
      frame.payload = [] ∨
        ∃ client,
          serialMuxGetCallbacks build frame.header.type = some client ∧
          client ≠ .wifiData ∧
          frame.header.sequenceNumber.val = device.rxSequenceNumber ∧
          client.demand (device.clients client) frame.payload.length ≤
            client.capacity build := by
  constructor
  · intro silent
    exact silent.unremarked quiet healthy unharmed notInfo
  · intro unremarked
    exact silent_of_unremarked quiet healthy unharmed noAck notInfo unremarked

/-- An HCI command that asks for no answer. -/
def quietCommand (number : Fin 16) : Frame where
  header :=
    { type := .hci, noAck := true, host := false, error := .noError
      reserved := 0, sequenceNumber := number, length := 4 }
  payload := [1, 3, 12, 0]
  length_eq := rfl

theorem silent_quietCommand :
    Silent Build.full (awaiting Device.boot (quietCommand 0)) :=
  (silent_iff Build.full (quietCommand 0) Device.boot ⟨rfl, rfl, rfl⟩ rfl rfl
    rfl (by decide)).mpr
      (.inr ⟨.bt, rfl, by decide, rfl, by decide⟩)

/-- The command with another number than the expected one is answered. -/
theorem quietCommand_answered :
    (quietCommand 5).header.noAck = true ∧
      ((Run.exec (step Build.full) (awaiting Device.boot (quietCommand 5))
        [.arrive 8, .act .callback, .act .begin, .act .iterate]).map
          fun final => answers final.receiver.device.trace) =
        some [Device.ackHeader .hci 0 .incorrectSequenceNumber] ∧
      ¬Silent Build.full (awaiting Device.boot (quietCommand 5)) := by
  have answered : ((Run.exec (step Build.full)
      (awaiting Device.boot (quietCommand 5))
      [.arrive 8, .act .callback, .act .begin, .act .iterate]).map
        fun final => answers final.receiver.device.trace) =
      some [Device.ackHeader .hci 0 .incorrectSequenceNumber] := by
    decide
  refine ⟨rfl, answered, ?_⟩
  intro silent
  obtain ⟨final, executed, trace⟩ := Option.map_eq_some_iff.mp answered
  have same := (silent _ final executed).same
  rw [trace] at same
  cases same

end Reception

end SerialLink
