import SerialLink.Device.BufferSafety

/-!
# When the work handler returns

The three kinds of frames make progress in different ways.  The loop of a
registered client ends when the FIFO is empty, the loop of a protocol
information frame when its payload is complete, and the loop of a frame nobody
is registered for never: it neither stops on an empty FIFO nor clears the
length once the payload has been discarded.

A client's loop may also leave what C defines, by a store through the pointer
that the Wi-Fi data proxy never sets, or behind the end of a buffer.
-/

namespace SerialLink

namespace Device

variable {build : Build} {client : Client} {frameType : SerialType}
  {device later : Device}

/-- `serial_work_handler` returns when no byte arrives during the call, and
has stored no byte through an unset pointer or outside a buffer. -/
def HandlerReturns (build : Build) (device : Device) : Prop :=
  ∃ fuel final, device.serialWorkHandler build fuel = some final ∧
    final.stray = false

/-- A read of a healthy UART finds no more than the FIFO holds. -/
theorem uartFifoRead_of_healthy (healthy : device.rxError = false)
    (count : Nat) :
    device.uartFifoRead count =
      some (device.rxFifo.take count,
        { device with
          rxFifo := device.rxFifo.drop count
          consumed :=
            device.consumed + (device.rxFifo.take count).length }) := by
  simp only [uartFifoRead, healthy, Bool.false_eq_true, if_false]

/-- Every iteration of a client's loop that goes on takes a byte from the
FIFO. -/
theorem clientStep_next_fifo (missing : device.payloadMissing = true)
    (stepped : device.clientStep build client frameType = .next later) :
    later.rxFifo.length < device.rxFifo.length := by
  rcases device.clientStep_cases build client frameType missing with
    refused | same | ⟨base, nonempty, completed | extended⟩
  · rw [refused] at stepped
    cases stepped
  · rw [same] at stepped
    cases stepped
  all_goals
    have taken : 0 < (device.rxFifo.take
        (device.serialHeader.length.val - device.bytesRead)).length :=
      List.length_pos_iff.mpr nonempty
    rw [List.length_take] at taken
  · rw [completed] at stepped
    cases stepped
    simp only [resetParser_rxFifo, completeFrame_rxFifo, loaded_rxFifo,
      List.length_drop]
    omega
  · rw [extended] at stepped
    cases stepped
    simp only [commitData, setClient, loaded_rxFifo, List.length_drop]
    omega

theorem clientLoop_returns (build : Build) (client : Client)
    (frameType : SerialType) (device : Device) :
    ∃ final, Loop.Returns payloadMissing
      (clientStep build client frameType) device final := by
  apply Loop.returns_of_measure (fun state => state.rxFifo.length)
    (fun _ => True)
  · intro state next _ missing stepped
    exact ⟨trivial, clientStep_next_fifo missing stepped⟩
  · trivial

/-- The bytes that the next read finds, if it is granted, go through a pointer
that has been set, and into the buffer. -/
def StoresWithin (build : Build) (client : Client) (device : Device) : Prop :=
  device.rxFifo = [] ∨
    ∀ base, client.acquireBuffer build (device.clients client)
        (device.serialHeader.length.val - device.bytesRead) = .granted base →
      ∃ offset, base = some offset ∧
        offset + device.bytesRead +
          min (device.serialHeader.length.val - device.bytesRead)
            device.rxFifo.length ≤ client.capacity build

theorem loaded_stray_of_stray (base : Option Nat) (bytes rest : List UInt8)
    (strayed : device.stray = true) :
    (device.loaded build client base bytes rest).stray = true := by
  cases base with
  | none => rfl
  | some offset => rw [loaded_stray, strayed, Bool.true_or]

/-- A stray store is not taken back. -/
theorem clientStep_stray (missing : device.payloadMissing = true)
    (strayed : device.stray = true) :
    (device.clientStep build client frameType).state.stray = true := by
  rcases device.clientStep_cases build client frameType missing with
    refused | same | ⟨base, -, completed | extended⟩
  · rw [refused]
    exact strayed
  · rw [same]
    exact strayed
  · rw [completed]
    simp only [Loop.Outcome.state, resetParser_stray, completeFrame_stray]
    exact loaded_stray_of_stray base _ _ strayed
  · rw [extended]
    exact loaded_stray_of_stray base _ _ strayed

/-- A read that does not stay within the buffer strays. -/
theorem clientStep_strays (frameType : SerialType)
    (healthy : device.rxError = false)
    (missing : device.payloadMissing = true)
    (outside : ¬StoresWithin build client device) :
    (device.clientStep build client frameType).state.stray = true := by
  obtain ⟨nonempty, reaches⟩ := not_or.mp outside
  obtain ⟨base, reaches⟩ := Classical.not_forall.mp reaches
  obtain ⟨granted, nowhere⟩ := Classical.not_imp.mp reaches
  have taken := taken_ne_nil missing nonempty
  have strayed : (device.loaded build client base
      (device.rxFifo.take
        (device.serialHeader.length.val - device.bytesRead))
      (device.rxFifo.drop
        (device.serialHeader.length.val - device.bytesRead))).stray =
        true := by
    cases base with
    | none => rfl
    | some offset =>
        have past : ¬offset + device.bytesRead +
            min (device.serialHeader.length.val - device.bytesRead)
              device.rxFifo.length ≤ client.capacity build :=
          fun within => nowhere ⟨offset, rfl, within⟩
        rw [loaded_stray, List.length_take,
          decide_eq_true (Nat.lt_of_not_le past), Bool.or_true]
  rw [clientStep_of_granted frameType base _ _ healthy granted rfl rfl taken]
  split
  · simpa only [Loop.Outcome.state, resetParser_stray,
      completeFrame_stray] using strayed
  · exact strayed

/-- A frame that fits whole leaves its client's counter within the buffer. -/
theorem completeFrame_occupied (fits : WholeFits build client device) :
    client.occupied ((device.completeFrame build client frameType).clients
      client) ≤ client.capacity build := by
  unfold WholeFits at fits
  by_cases expected : device.rxSequenceNumber =
      device.serialHeader.sequenceNumber.val
  · rw [completeFrame_clients build client frameType device expected]
    by_cases keeps : client.keepsLength = true
    · rw [Client.occupied, if_pos keeps]
      exact Nat.le_trans (messageComplete_accumulated_le build client _)
        (commitData_accumulated_le fits keeps)
    · rw [Client.occupied, if_neg keeps]
      exact Nat.zero_le _
  · rw [completeFrame_clients_of_unexpected build client frameType device
      expected]
    omega

/-- A frame that starts behind a counter within the buffer is refused, or
stays within it. -/
theorem storesWithin_of_start (designates : client ≠ .wifiData)
    (start : device.bytesRead = 0)
    (within : client.occupied (device.clients client) ≤
      client.capacity build) : StoresWithin build client device := by
  right
  intro base granted
  have small : device.serialHeader.length.val - device.bytesRead ≤ 65535 := by
    omega
  have notRefused : client.acquireBuffer build (device.clients client)
      (device.serialHeader.length.val - device.bytesRead) ≠ .refused := by
    rw [granted]
    exact Acquisition.noConfusion
  rw [ne_eq, Client.acquireBuffer_refused_iff designates within small]
    at notRefused
  rcases Client.acquireBuffer_cases build (device.clients client)
    (device.serialHeader.length.val - device.bytesRead) designates with
    refused | placed
  · rw [refused] at granted
    cases granted
  · rw [placed] at granted
    cases granted
    exact ⟨_, rfl, by omega⟩

/-- Within the buffer, the loop goes on within the buffer. -/
theorem clientStep_within (frameType : SerialType)
    (healthy : device.rxError = false)
    (missing : device.payloadMissing = true) (clean : device.stray = false)
    (within : StoresWithin build client device) :
    (device.clientStep build client frameType).state.stray = false ∧
      ∀ later, device.clientStep build client frameType = .next later →
        later.rxError = false ∧ StoresWithin build client later := by
  have incomplete : device.bytesRead < device.serialHeader.length.val := by
    simpa [payloadMissing] using missing
  cases acquisition : client.acquireBuffer build (device.clients client)
      (device.serialHeader.length.val - device.bytesRead) with
  | refused =>
      rw [clientStep_of_refused acquisition]
      exact ⟨clean, fun later stepped => by cases stepped⟩
  | granted base =>
      rcases within with empty | placed
      · rw [clientStep_of_granted_empty healthy empty acquisition]
        exact ⟨clean, fun later stepped => by cases stepped⟩
      by_cases empty : device.rxFifo = []
      · rw [clientStep_of_granted_empty healthy empty acquisition]
        exact ⟨clean, fun later stepped => by cases stepped⟩
      obtain ⟨offset, rfl, fits⟩ := placed base acquisition
      obtain ⟨designates, rfl⟩ := Client.acquireBuffer_placed acquisition
      have taken := taken_ne_nil missing empty
      have stores : (device.loaded build client
          (some (client.occupied (device.clients client)))
          (device.rxFifo.take
            (device.serialHeader.length.val - device.bytesRead))
          (device.rxFifo.drop
            (device.serialHeader.length.val - device.bytesRead))).stray =
            false := by
        rw [loaded_stray, clean, List.length_take, Bool.false_or,
          decide_eq_false_iff_not]
        omega
      rw [clientStep_of_granted frameType _ _ _ healthy acquisition rfl rfl
        taken]
      split
      · rename_i complete
        rw [List.length_take] at complete
        refine ⟨?_, ?_⟩
        · simpa only [Loop.Outcome.state, resetParser_stray,
            completeFrame_stray] using stores
        · intro later stepped
          cases stepped
          refine ⟨by simpa using healthy,
            storesWithin_of_start designates rfl ?_⟩
          rw [resetParser_clients]
          apply completeFrame_occupied
          simp only [WholeFits, loaded_clients, loaded_serialHeader,
            Client.occupied] at fits ⊢
          omega
      · rename_i partly
        rw [List.length_take] at partly
        refine ⟨stores, ?_⟩
        intro later stepped
        cases stepped
        refine ⟨by simpa [commitData, setClient] using healthy, .inl ?_⟩
        simp only [commitData, setClient, loaded_rxFifo,
          List.drop_eq_nil_iff]
        omega

theorem clientLoop_within (healthy : device.rxError = false)
    (clean : device.stray = false) (within : StoresWithin build client device)
    {final : Device} (returns : Loop.Returns payloadMissing
      (clientStep build client frameType) device final) :
    final.stray = false := by
  obtain ⟨fuel, result⟩ := returns
  refine Loop.iterate_ends
    (fun state => state.rxError = false ∧ state.stray = false ∧
      StoresWithin build client state)
    (fun state => state.stray = false) ?_ ?_ ?_ ⟨healthy, clean, within⟩ result
  · rintro state later ⟨stateHealthy, stateClean, stateWithin⟩ missing stepped
    obtain ⟨kept, follows⟩ := clientStep_within frameType stateHealthy
      missing stateClean stateWithin
    obtain ⟨laterHealthy, laterWithin⟩ := follows later stepped
    rw [stepped] at kept
    exact ⟨laterHealthy, kept, laterWithin⟩
  · rintro state last ⟨stateHealthy, stateClean, stateWithin⟩ missing stepped
    have kept := (clientStep_within frameType stateHealthy missing stateClean
      stateWithin).1
    rwa [stepped] at kept
  · rintro state ⟨-, stateClean, -⟩ -
    exact stateClean

theorem clientLoop_strays (healthy : device.rxError = false)
    (missing : device.payloadMissing = true)
    (outside : ¬StoresWithin build client device) {final : Device}
    (returns : Loop.Returns payloadMissing
      (clientStep build client frameType) device final) :
    final.stray = true := by
  have strays := clientStep_strays frameType healthy missing outside
  have keeps : ∀ {state last : Device}, state.stray = true →
      Loop.Returns payloadMissing (clientStep build client frameType) state
        last → last.stray = true := by
    rintro state last strayed ⟨fuel, result⟩
    exact Loop.iterate_preserves (fun device => device.stray = true)
      (fun middle kept incomplete => clientStep_stray incomplete kept) strayed
      result
  cases outcome : device.clientStep build client frameType with
  | next later =>
      rw [outcome] at strays
      exact keeps strays ((Loop.returns_next_iff missing outcome).mp returns)
  | stop last =>
      rw [outcome] at strays
      rwa [(Loop.returns_stop_iff missing outcome).mp returns]

/-- The rest of the payload is in the FIFO. -/
def PayloadArrived (device : Device) : Prop :=
  device.serialHeader.length.val ≤ device.bytesRead + device.rxFifo.length

/-- The bytes an iteration of the discarding loops can read. -/
def discardCount (device : Device) : Nat :=
  min (min (device.serialHeader.length.val - device.bytesRead) 64)
    device.rxFifo.length

/-- The device once an iteration has discarded what it can. -/
def discarded (device : Device) : Device :=
  { device with
    rxFifo := device.rxFifo.drop
      (min (device.serialHeader.length.val - device.bytesRead) 64)
    consumed := device.consumed + device.discardCount
    bytesRead := device.bytesRead + device.discardCount }

theorem protocolInfoStep_eq (healthy : device.rxError = false) :
    device.protocolInfoStep build =
      if device.bytesRead + device.discardCount ≥
          device.serialHeader.length.val then
        .next (device.discarded.answerProtocolInfo build)
      else .next device.discarded := by
  unfold protocolInfoStep
  rw [uartFifoRead_of_healthy healthy]
  simp only [List.length_take]
  rfl

theorem answerProtocolInfo_frame (build : Build) (device : Device) :
    (device.answerProtocolInfo build).serialHeader.length.val = 0 ∧
      (device.answerProtocolInfo build).rxError = device.rxError := by
  unfold answerProtocolInfo
  rw [handleProtocolInfo_eq]
  exact ⟨rfl, rfl⟩

/-- With the payload in the FIFO, every iteration reads some of it or
answers. -/
theorem protocolInfoLoop_returns (healthy : device.rxError = false)
    (arrived : device.PayloadArrived) :
    ∃ final, Loop.Returns payloadMissing (protocolInfoStep build) device
      final := by
  apply Loop.returns_of_measure
    (fun state => state.serialHeader.length.val - state.bytesRead)
    (fun state => state.rxError = false ∧ state.PayloadArrived)
  · intro state next holds missing stepped
    obtain ⟨stateHealthy, stateArrived⟩ := holds
    have incomplete : state.bytesRead < state.serialHeader.length.val := by
      simpa [payloadMissing] using missing
    unfold PayloadArrived at stateArrived
    rw [protocolInfoStep_eq stateHealthy] at stepped
    split at stepped
    all_goals cases stepped
    · have frame := answerProtocolInfo_frame build state.discarded
      refine ⟨⟨frame.2.trans stateHealthy, ?_⟩, ?_⟩
      · rw [PayloadArrived, frame.1]
        omega
      · rw [frame.1]
        omega
    · refine ⟨⟨stateHealthy, ?_⟩, ?_⟩
      · simp only [PayloadArrived, discarded, discardCount, List.length_drop]
        omega
      · simp only [discarded, discardCount]
        omega
  · exact ⟨healthy, arrived⟩

theorem protocolInfoLoop_stray {final : Device}
    (returns : Loop.Returns payloadMissing (protocolInfoStep build) device
      final) : final.stray = device.stray := by
  obtain ⟨fuel, result⟩ := returns
  refine Loop.iterate_preserves (fun state => state.stray = device.stray)
    (fun middle kept _ => ?_) rfl result
  exact (protocolInfoStep_sameClients build middle).stray.trans kept

/-- Without it, the loop keeps reading an empty FIFO. -/
theorem protocolInfoLoop_diverges (healthy : device.rxError = false)
    (awaited : ¬device.PayloadArrived) (final : Device) :
    ¬Loop.Returns payloadMissing (protocolInfoStep build) device final := by
  apply Loop.not_returns_of_invariant
    (fun state => state.rxError = false ∧ ¬state.PayloadArrived)
  · intro state holds
    obtain ⟨stateHealthy, stateAwaited⟩ := holds
    unfold PayloadArrived at stateAwaited
    constructor
    · simp only [payloadMissing, decide_eq_true_eq]
      omega
    · have incomplete : ¬state.bytesRead + state.discardCount ≥
          state.serialHeader.length.val := by
        unfold discardCount
        omega
      rw [protocolInfoStep_eq stateHealthy, if_neg incomplete]
      refine ⟨_, rfl, stateHealthy, ?_⟩
      simp only [PayloadArrived, discarded, discardCount, List.length_drop]
      omega
  · exact ⟨healthy, awaited⟩

/-- Nothing ends the loop of a frame without a client. -/
theorem discardLoop_diverges (healthy : device.rxError = false)
    (missing : device.payloadMissing = true) (final : Device) :
    ¬Loop.Returns payloadMissing (discardStep frameType) device final := by
  apply Loop.not_returns_of_invariant
    (fun state => state.rxError = false ∧ state.payloadMissing = true)
  · intro state holds
    obtain ⟨next, stepped, -, nextMissing, nextHealthy⟩ :=
      discardStep_next frameType holds.1 holds.2
    exact ⟨holds.2, next, stepped, nextHealthy, nextMissing⟩
  · exact ⟨healthy, missing⟩

/-- Past the answer to an empty protocol information frame, the handler is its
loop. -/
theorem handlerReturns_iff_loop (missing : device.payloadMissing = true) :
    HandlerReturns build device ↔
      ∃ final, Loop.Returns payloadMissing
        (workStep build device.serialHeader.type) device final ∧
          final.stray = false := by
  have notEmpty : ¬(device.serialHeader.type = .protocolInfo ∧
      device.serialHeader.length.val = 0) := by
    rintro ⟨-, empty⟩
    simp [payloadMissing, empty] at missing
  simp only [HandlerReturns, serialWorkHandler, if_neg notEmpty, Loop.Returns]
  constructor
  · rintro ⟨fuel, final, result, clean⟩
    exact ⟨final, ⟨fuel, result⟩, clean⟩
  · rintro ⟨final, ⟨fuel, result⟩, clean⟩
    exact ⟨fuel, final, result, clean⟩

theorem workStep_of_unregistered (notInfo : frameType ≠ .protocolInfo)
    (callbacks : serialMuxGetCallbacks build frameType = none) :
    workStep build frameType = discardStep frameType := by
  funext state
  simp only [workStep, if_neg notInfo, callbacks]

/-- Without a client the loop does not end, whatever it does to the buffers. -/
theorem serialWorkHandler_of_unregistered (healthy : device.rxError = false)
    (missing : device.payloadMissing = true)
    (notInfo : device.serialHeader.type ≠ .protocolInfo)
    (callbacks : serialMuxGetCallbacks build device.serialHeader.type = none)
    (fuel : Nat) : device.serialWorkHandler build fuel = none := by
  have notEmpty : ¬(device.serialHeader.type = .protocolInfo ∧
      device.serialHeader.length.val = 0) := fun empty => notInfo empty.1
  simp only [serialWorkHandler, if_neg notEmpty,
    workStep_of_unregistered notInfo callbacks]
  apply Option.eq_none_iff_forall_ne_some.mpr
  intro final result
  exact discardLoop_diverges healthy missing final ⟨fuel, result⟩

/-- The handler returns, and stays inside the buffers, if and only if a client
is registered for the frame and the first read stays inside its buffer, or it
is a protocol information frame whose payload is in the FIFO. -/
theorem handlerReturns_iff (build : Build) (device : Device)
    (healthy : device.rxError = false) (clean : device.stray = false)
    (missing : device.payloadMissing = true) :
    HandlerReturns build device ↔
      (∃ client, serialMuxGetCallbacks build device.serialHeader.type =
          some client ∧ StoresWithin build client device) ∨
      device.serialHeader.type = .protocolInfo ∧ device.PayloadArrived := by
  cases callbacks : serialMuxGetCallbacks build device.serialHeader.type with
  | some client =>
      have body : workStep build device.serialHeader.type =
          clientStep build client device.serialHeader.type :=
        funext fun _ => workStep_of_client callbacks
      have notInfo : device.serialHeader.type ≠ .protocolInfo := by
        intro info
        simp [info, serialMuxGetCallbacks] at callbacks
      rw [handlerReturns_iff_loop missing, body]
      constructor
      · rintro ⟨final, returns, kept⟩
        refine .inl ⟨client, rfl, ?_⟩
        apply Classical.byContradiction
        intro outside
        rw [clientLoop_strays healthy missing outside returns] at kept
        cases kept
      · rintro (⟨other, same, within⟩ | ⟨info, -⟩)
        · cases same
          obtain ⟨final, returns⟩ := clientLoop_returns build client
            device.serialHeader.type device
          exact ⟨final, returns,
            clientLoop_within healthy clean within returns⟩
        · exact absurd info notInfo
  | none =>
      by_cases info : device.serialHeader.type = .protocolInfo
      · have body : workStep build device.serialHeader.type =
            protocolInfoStep build :=
          funext fun _ => if_pos info
        rw [handlerReturns_iff_loop missing, body]
        constructor
        · rintro ⟨final, returns, -⟩
          right
          refine ⟨info, ?_⟩
          apply Classical.byContradiction
          intro awaited
          exact protocolInfoLoop_diverges healthy awaited final returns
        · rintro (⟨client, registered, -⟩ | ⟨-, arrived⟩)
          · cases registered
          · obtain ⟨final, returns⟩ := protocolInfoLoop_returns healthy arrived
            exact ⟨final, returns,
              (protocolInfoLoop_stray returns).trans clean⟩
      · constructor
        · rintro ⟨fuel, final, result, -⟩
          rw [serialWorkHandler_of_unregistered healthy missing info
            callbacks] at result
          cases result
        · rintro (⟨client, registered, -⟩ | ⟨same, -⟩)
          · cases registered
          · exact absurd same info

/-- A protocol information query with a one-byte payload. -/
def infoQuery : Frame := .ofPayload .protocolInfo 0 [0] (by decide)

theorem handlerReturns_infoQuery :
    HandlerReturns Build.full (boot.arrive infoQuery.encode).uartIrqCallback :=
  (handlerReturns_iff Build.full
    (boot.arrive infoQuery.encode).uartIrqCallback rfl rfl rfl).mpr
    (Or.inr ⟨rfl, by unfold PayloadArrived; decide⟩)

/-- A frame of a type that no proxy is ever registered for. -/
def atCommand : Frame := .ofPayload .atCmd 0 [1] Frame.one_bounded

/-- Its handler reads on from the empty FIFO for ever. -/
theorem atCommand_handler_diverges :
    let device := (boot.arrive atCommand.encode).uartIrqCallback
    device.rxError = false ∧ device.payloadMissing = true ∧
      device.serialHeader.length.val ≤ serialMaxPayloadLen ∧
      device.rxFifo = [1] ∧
      ∀ fuel, device.serialWorkHandler Build.full fuel = none :=
  ⟨rfl, rfl, by decide, rfl,
    serialWorkHandler_of_unregistered rfl rfl (by decide) rfl⟩

end Device

end SerialLink
