import SerialLink.Device.Refusal

/-!
# Stores stay inside the clients' buffers

The capacity check of `acquire_buffer` covers the missing part of a frame, the
store starts at the bytes already read, and the final `commit_data` reports the
whole frame.  For a client that counts the reported pieces the three agree only
while the whole frame fits behind the count.
-/

namespace SerialLink

namespace Device

variable {build : Build} {client : Client} {frameType : SerialType}
  {device : Device}

/-- The representation invariant of the receive buffers. -/
structure Contained (build : Build) (device : Device) : Prop where
  /-- No counter exceeds its buffer. -/
  counts : ∀ client : Client, client.keepsLength = true →
    (device.clients client).accumulated ≤ client.capacity build
  /-- Every byte was stored inside the buffer of its client. -/
  stores : device.stray = false

/-- What else holds between the steps of the receiver. -/
structure Tidy (build : Build) (device : Device) : Prop
    extends Contained build device where
  /-- Inside a header no payload byte has been read. -/
  header : device.parsingState = .sequenceNumber ∨
      device.parsingState = .length1 ∨ device.parsingState = .length2 →
    device.bytesRead = 0
  /-- A frame read in part for a client without a counter fits its buffer. -/
  short : 0 < device.bytesRead → ∀ client,
    serialMuxGetCallbacks build device.serialHeader.type = some client →
    client.keepsLength = false →
    device.serialHeader.length.val ≤ client.capacity build

theorem Tidy.of_clients {later : Device} (tidy : Tidy build device)
    (clients : later.clients = device.clients)
    (stray : later.stray = device.stray) (read : later.bytesRead = 0) :
    Tidy build later where
  counts := clients ▸ tidy.counts
  stores := stray.trans tidy.stores
  header := fun _ => read
  short := fun positive => by omega

theorem parseHeaderByte_tidy (tidy : Tidy build device) (byte : UInt8) :
    Tidy build (device.parseHeaderByte byte) := by
  cases state : device.parsingState with
  | data => simpa only [parseHeaderByte, state] using tidy
  | type =>
      apply tidy.of_clients
      all_goals simp only [parseHeaderByte, state, log]
  | sequenceNumber | length1 =>
      have unread := tidy.header (by simp [state])
      apply tidy.of_clients
      all_goals simp only [parseHeaderByte, state, unread]
  | length2 =>
      have unread := tidy.header (by simp [state])
      simp only [parseHeaderByte, state]
      split
      · split <;> exact tidy.of_clients rfl rfl unread
      · split <;> exact tidy.of_clients rfl rfl unread

theorem uartIrqCallback_tidy (tidy : Tidy build device) :
    Tidy build device.uartIrqCallback := by
  have drained : Tidy build (drainHeader device.rxFifo device) := by
    apply drainHeader_preserves (Tidy build)
    · intro state byte holds
      exact { parseHeaderByte_tidy holds byte with }
    · intro state fifo holds
      exact { holds with }
    · exact tidy
  unfold uartIrqCallback
  dsimp only
  split
  · split
    · exact { tidy with }
    · exact tidy
  · split
    · exact { drained with }
    · exact drained

/-- The whole frame, and not only its missing part, fits behind what the
client's buffer holds. -/
def WholeFits (build : Build) (client : Client) (device : Device) : Prop :=
  client.occupied (device.clients client) +
    device.serialHeader.length.val ≤ client.capacity build

theorem loaded_clients_other (build : Build) (base : Option Nat)
    (bytes rest : List UInt8) (device : Device) {other : Client}
    (different : other ≠ client) :
    (device.loaded build client base bytes rest).clients other =
      device.clients other := by
  cases base with
  | none => rfl
  | some offset => simp [loaded, storePayload, setClient, different]

theorem Tidy.occupied_le (tidy : Tidy build device) :
    client.occupied (device.clients client) ≤ client.capacity build := by
  unfold Client.occupied
  split
  · next keeps => exact tidy.counts client keeps
  · omega

/-- A granted request leaves room for the whole frame, unless part of the
frame has been counted already. -/
theorem Tidy.wholeFits (tidy : Tidy build device)
    (designates : client ≠ .wifiData)
    (callbacks : serialMuxGetCallbacks build device.serialHeader.type =
      some client)
    (granted : client.acquireBuffer build (device.clients client)
      (device.serialHeader.length.val - device.bytesRead) ≠ .refused)
    (counted : client.keepsLength = true → 0 < device.bytesRead →
      WholeFits build client device) :
    WholeFits build client device := by
  by_cases read : device.bytesRead = 0
  · have small : device.serialHeader.length.val - device.bytesRead ≤ 65535 := by
      omega
    rw [ne_eq, Client.acquireBuffer_refused_iff designates tidy.occupied_le
      small] at granted
    unfold WholeFits
    omega
  · have positive : 0 < device.bytesRead := by omega
    by_cases keeps : client.keepsLength = true
    · exact counted keeps positive
    · have ignores : client.keepsLength = false := by simpa using keeps
      have fits := tidy.short positive client callbacks ignores
      simpa [WholeFits, Client.occupied, ignores] using fits

/-- Everything an iteration does with a read of `bytes` at `offset`. -/
theorem clientStep_read {offset : Nat} (healthy : device.rxError = false)
    (nonempty : device.rxFifo ≠ [])
    (missing : device.payloadMissing = true)
    (granted : client.acquireBuffer build (device.clients client)
      (device.serialHeader.length.val - device.bytesRead) =
        .granted (some offset)) :
    ∃ bytes rest,
      0 < bytes.length ∧
      bytes.length ≤ device.serialHeader.length.val - device.bytesRead ∧
      ((device.clientStep build client frameType).state =
          ((device.loaded build client (some offset) bytes rest).completeFrame
            build client frameType).resetParser ∨
        (device.clientStep build client frameType).state =
          (device.loaded build client (some offset) bytes rest).commitData
            client bytes.length) := by
  have taken := taken_ne_nil missing nonempty
  refine ⟨_, device.rxFifo.drop
    (device.serialHeader.length.val - device.bytesRead),
    List.length_pos_iff.mpr taken, ?_, ?_⟩
  · rw [List.length_take]
    omega
  · rw [clientStep_of_granted frameType (some offset) _ _ healthy granted rfl
      rfl taken]
    split
    · exact Or.inl rfl
    · exact Or.inr rfl

section Loaded

variable {bytes : List UInt8}

/-- Storing at the end of what the buffer holds, when the whole frame fits. -/
theorem loaded_contained (rest : List UInt8) (tidy : Tidy build device)
    (fits : WholeFits build client device)
    (small : bytes.length ≤ device.serialHeader.length.val - device.bytesRead)
    (incomplete : device.bytesRead < device.serialHeader.length.val) :
    Contained build (device.loaded build client
      (some (client.occupied (device.clients client))) bytes rest) := by
  unfold WholeFits at fits
  constructor
  · intro other keeps
    by_cases same : other = client
    · subst same
      rw [loaded_clients]
      exact tidy.counts other keeps
    · rw [loaded_clients_other build _ bytes rest device same]
      exact tidy.counts other keeps
  · rw [loaded_stray, tidy.stores, Bool.false_or, decide_eq_false_iff_not]
    omega

/-- A client's counter after a report of `len` bytes. -/
theorem commitData_accumulated_le {state : ClientState} {len : Nat}
    (fits : client.occupied state + len ≤ client.capacity build)
    (keeps : client.keepsLength = true) :
    (client.commitData state len).accumulated ≤ client.capacity build := by
  have bounded := client.capacity_lt build
  simp only [Client.occupied, keeps, if_true] at fits
  simp only [Client.commitData, keeps, if_true]
  rw [sizeAdd_eq (by omega)]
  exact fits

theorem messageComplete_accumulated_le (build : Build) (client : Client)
    (state : ClientState) :
    (client.messageComplete build state).accumulated ≤ state.accumulated := by
  cases client <;> simp only [Client.messageComplete] <;> try exact Nat.le_refl _
  · split <;> simp
  · omega

/-- Reporting a piece that fits. -/
theorem Contained.commitData (contained : Contained build device)
    (client : Client) (len : Nat)
    (fits : client.occupied (device.clients client) + len ≤
      client.capacity build) :
    Contained build (device.commitData client len) := by
  constructor
  · intro other keeps
    by_cases same : other = client
    · subst same
      rw [commitData_clients]
      exact commitData_accumulated_le fits keeps
    · simpa [Device.commitData, setClient, same] using
        contained.counts other keeps
  · exact contained.stores

/-- Completing a frame that fits. -/
theorem Contained.completeFrame (contained : Contained build device)
    (fits : WholeFits build client device) (frameType : SerialType) :
    Contained build (device.completeFrame build client frameType) := by
  by_cases expected : device.rxSequenceNumber =
      device.serialHeader.sequenceNumber.val
  · constructor
    · intro other keeps
      by_cases same : other = client
      · subst same
        rw [completeFrame_clients build other frameType device expected]
        exact Nat.le_trans (messageComplete_accumulated_le build other _)
          (commitData_accumulated_le fits keeps)
      · rw [completeFrame_clients_other build client frameType device same]
        exact contained.counts other keeps
    · rw [completeFrame_stray]
      exact contained.stores
  · constructor
    · rw [completeFrame_clients_of_unexpected build client frameType device
        expected]
      exact contained.counts
    · rw [completeFrame_stray]
      exact contained.stores

end Loaded

/-- The iteration may ask the client of the frame for a buffer: a granted
request sets the pointer, and a frame that a counting client knows in part
still fits whole. -/
def Answerable (build : Build) (client : Client) (device : Device) : Prop :=
  client.acquireBuffer build (device.clients client)
      (device.serialHeader.length.val - device.bytesRead) ≠ .refused →
    client ≠ .wifiData ∧
      (client.keepsLength = true → 0 < device.bytesRead →
        WholeFits build client device)

/-- The pointer of a granted request, and every byte the following read can
store, is inside the client's buffer. -/
def Designates (build : Build) (client : Client) (device : Device) : Prop :=
  ∀ base, client.acquireBuffer build (device.clients client)
      (device.serialHeader.length.val - device.bytesRead) = .granted base →
    ∃ offset, base = some offset ∧ offset < client.capacity build ∧
      offset + device.bytesRead +
        (device.serialHeader.length.val - device.bytesRead) ≤
          client.capacity build

section ClientStep

variable (tidy : Tidy build device)
  (callbacks : serialMuxGetCallbacks build device.serialHeader.type =
    some client)
  (missing : device.payloadMissing = true)
  (answerable : Answerable build client device)

include tidy callbacks answerable

/-- A granted request points behind what the client has counted, and the whole
frame fits there. -/
theorem granted_placed {base : Option Nat}
    (granted : client.acquireBuffer build (device.clients client)
      (device.serialHeader.length.val - device.bytesRead) = .granted base) :
    base = some (client.occupied (device.clients client)) ∧
      WholeFits build client device := by
  have notRefused : client.acquireBuffer build (device.clients client)
      (device.serialHeader.length.val - device.bytesRead) ≠ .refused := by
    simp [granted]
  obtain ⟨sets, counted⟩ := answerable notRefused
  refine ⟨?_, tidy.wholeFits sets callbacks notRefused counted⟩
  rcases Client.acquireBuffer_cases build (device.clients client)
    (device.serialHeader.length.val - device.bytesRead) sets with
    refused | placed
  · exact absurd refused notRefused
  · simpa [granted] using placed

include missing

theorem designates_of_answerable : Designates build client device := by
  intro base granted
  have incomplete : device.bytesRead < device.serialHeader.length.val := by
    simpa [payloadMissing] using missing
  obtain ⟨placed, fits⟩ := granted_placed tidy callbacks answerable granted
  unfold WholeFits at fits
  exact ⟨_, placed, by omega, by omega⟩

theorem clientStep_tidy
    (settled : device.parsingState = .type ∨ device.parsingState = .data) :
    Tidy build (device.clientStep build client frameType).state := by
  have incomplete : device.bytesRead < device.serialHeader.length.val := by
    simpa [payloadMissing] using missing
  cases acquisition : client.acquireBuffer build (device.clients client)
      (device.serialHeader.length.val - device.bytesRead) with
  | refused =>
      rw [clientStep_of_refused acquisition]
      exact tidy.of_clients rfl rfl rfl
  | granted base =>
      obtain ⟨placed, fits⟩ :=
        granted_placed tidy callbacks answerable acquisition
      subst placed
      by_cases failing : device.rxError = true
      · simp only [clientStep, acquisition, uartFifoRead, failing, if_true]
        exact tidy
      have healthy : device.rxError = false := by simpa using failing
      by_cases empty : device.rxFifo = []
      · rw [clientStep_of_granted_empty healthy empty acquisition]
        exact tidy
      obtain ⟨bytes, rest, positive, small, outcome⟩ :=
        clientStep_read healthy empty missing acquisition
      have contained := loaded_contained rest tidy fits small incomplete
      have loadedFits : WholeFits build client (device.loaded build client
          (some (client.occupied (device.clients client))) bytes rest) := by
        simpa [WholeFits, Client.occupied] using fits
      rcases outcome with completed | extended
      · rw [completed]
        have whole := contained.completeFrame loadedFits frameType
        exact
          { counts := whole.counts
            stores := whole.stores
            header := fun _ => rfl
            short := fun read => absurd read (Nat.lt_irrefl 0) }
      · rw [extended]
        have reported := contained.commitData client bytes.length (by
          unfold WholeFits at loadedFits
          rw [loaded_serialHeader] at loadedFits
          omega)
        exact
          { counts := reported.counts
            stores := reported.stores
            header := by
              intro inHeader
              simp only [commitData, setClient, loaded_parsingState]
                at inHeader
              rcases settled with atType | inData
              · simp [atType] at inHeader
              · simp [inData] at inHeader
            short := by
              intro _ other otherCallbacks ignores
              simp only [commitData, setClient, loaded_serialHeader]
                at otherCallbacks ⊢
              cases callbacks.symm.trans otherCallbacks
              unfold WholeFits at fits
              omega }

end ClientStep

/-- What no iteration of the handler changes, apart from resetting the
parser. -/
structure SameFrame (device later : Device) : Prop where
  type : later.serialHeader.type = device.serialHeader.type
  pending : later.workPending = device.workPending
  state : later.parsingState = .type ∨
    later.parsingState = device.parsingState

/-- Iterations that involve no client. -/
structure SameClients (device later : Device) : Prop
    extends SameFrame device later where
  clients : later.clients = device.clients
  stray : later.stray = device.stray

theorem protocolInfoStep_sameClients (build : Build) (device : Device) :
    SameClients device (device.protocolInfoStep build).state := by
  by_cases failing : device.rxError = true
  · simp only [protocolInfoStep, uartFifoRead, failing, if_true]
    exact ⟨⟨rfl, rfl, Or.inr rfl⟩, rfl, rfl⟩
  · simp only [protocolInfoStep, uartFifoRead, failing, Bool.false_eq_true,
      if_false]
    split
    · unfold answerProtocolInfo
      rw [handleProtocolInfo_eq]
      exact ⟨⟨rfl, rfl, Or.inl rfl⟩, rfl, rfl⟩
    · exact ⟨⟨rfl, rfl, Or.inr rfl⟩, rfl, rfl⟩

theorem discardStep_sameClients (frameType : SerialType) (device : Device) :
    SameClients device (device.discardStep frameType).state := by
  by_cases failing : device.rxError = true
  · simp only [discardStep, uartFifoRead, failing, if_true]
    exact ⟨⟨rfl, rfl, Or.inr rfl⟩, rfl, rfl⟩
  · simp only [discardStep, uartFifoRead, failing, Bool.false_eq_true,
      if_false]
    split
    · exact ⟨⟨rfl, rfl, Or.inl rfl⟩, rfl, rfl⟩
    · exact ⟨⟨rfl, rfl, Or.inr rfl⟩, rfl, rfl⟩

theorem clientStep_sameFrame (missing : device.payloadMissing = true) :
    SameFrame device (device.clientStep build client frameType).state := by
  rcases device.clientStep_cases build client frameType missing with
    refused | same | ⟨base, -, completed | extended⟩
  · rw [refused]
    exact ⟨rfl, rfl, Or.inl rfl⟩
  · rw [same]
    exact ⟨rfl, rfl, Or.inr rfl⟩
  · rw [completed]
    constructor
    case type => simp [Loop.Outcome.state]
    case pending => simp [Loop.Outcome.state]
    case state => exact Or.inl rfl
  · rw [extended]
    constructor
    case type => simp [Loop.Outcome.state, commitData, setClient]
    case pending => simp [Loop.Outcome.state, commitData, setClient]
    case state => simp [Loop.Outcome.state, commitData, setClient]

theorem Tidy.of_unregistered {later : Device} (tidy : Tidy build device)
    (same : SameClients device later)
    (settled : later.parsingState = .type ∨ later.parsingState = .data)
    (unregistered :
      serialMuxGetCallbacks build device.serialHeader.type = none) :
    Tidy build later where
  counts := same.clients ▸ tidy.counts
  stores := same.stray.trans tidy.stores
  header := by
    intro inHeader
    rcases settled with atType | inData
    · simp [atType] at inHeader
    · simp [inData] at inHeader
  short := by
    intro _ client callbacks
    rw [same.type, unregistered] at callbacks
    cases callbacks

theorem SameFrame.settled {later : Device} (same : SameFrame device later)
    (settled : device.parsingState = .type ∨ device.parsingState = .data) :
    later.parsingState = .type ∨ later.parsingState = .data := by
  rcases same.state with atType | kept
  · exact Or.inl atType
  · rw [kept]
    exact settled

/-- The condition for an iteration of the handler. -/
def IterationAnswerable (build : Build) (device : Device) : Prop :=
  device.payloadMissing = true → ∀ client,
    serialMuxGetCallbacks build device.serialHeader.type = some client →
    Answerable build client device

/-- An iteration of the handler that meets the condition. -/
theorem workStep_tidy (tidy : Tidy build device)
    (settled : device.parsingState = .type ∨ device.parsingState = .data)
    (missing : device.payloadMissing = true)
    (answerable : IterationAnswerable build device) :
    Tidy build (device.workStep build device.serialHeader.type).state ∧
      SameFrame device
        (device.workStep build device.serialHeader.type).state := by
  unfold workStep
  split
  · next info =>
      have same := protocolInfoStep_sameClients build device
      refine ⟨tidy.of_unregistered same (same.settled settled) ?_,
        same.toSameFrame⟩
      rw [info]
      rfl
  · split
    · next unregistered =>
        have same := discardStep_sameClients device.serialHeader.type device
        exact ⟨tidy.of_unregistered same (same.settled settled) unregistered,
          same.toSameFrame⟩
    · next client callbacks =>
        exact ⟨clientStep_tidy tidy callbacks missing
          (answerable missing client callbacks) settled,
          clientStep_sameFrame missing⟩

end Device

namespace Reception

/-- The steps of the receiver and of the management proxies' threads. -/
inductive BufferLabel where
  | receive (label : Label)
  /-- A management thread has processed its message: `message_length = 0`. -/
  | resetLength (client : Client)
  deriving DecidableEq, Repr

def resetLength (client : Client) (device : Device) : Device :=
  device.setClient client { device.clients client with accumulated := 0 }

def bufferStep (build : Build) (reception : Reception) :
    BufferLabel → Option Reception
  | .receive label => reception.step build label
  | .resetLength client =>
      if client.isMgmt then
        some { reception with
          receiver := { reception.receiver with
            device := resetLength client reception.receiver.device } }
      else none

/-- The freshly booted receiver, with any bytes to come. -/
def boot (incoming : List UInt8) : Reception where
  receiver := { device := Device.boot, handling := none }
  incoming := incoming

/-- The condition on a step: an iteration of the handler asks only for
buffers it may ask for. -/
def StepAnswerable (build : Build) (reception : Reception) :
    BufferLabel → Prop
  | .receive (.act .iterate) =>
      Device.IterationAnswerable build reception.receiver.device
  | _ => True

/-- A step that asks a client for a buffer is given one inside the client's
own array, and stores inside it. -/
def StepDesignates (build : Build) (reception : Reception) :
    BufferLabel → Prop
  | .receive (.act .iterate) =>
      reception.receiver.handling ≠ none →
      reception.receiver.device.payloadMissing = true → ∀ client,
        serialMuxGetCallbacks build
          reception.receiver.device.serialHeader.type = some client →
        Device.Designates build client reception.receiver.device
  | _ => True

/-- The invariant of the whole receiver. -/
structure Sound (build : Build) (reception : Reception) : Prop where
  tidy : Device.Tidy build reception.receiver.device
  queued : reception.receiver.device.workPending = true →
    reception.receiver.device.parsingState = .data
  handled : ∀ frameType, reception.receiver.handling = some frameType →
    reception.receiver.device.serialHeader.type = frameType ∧
      (reception.receiver.device.parsingState = .type ∨
        reception.receiver.device.parsingState = .data) ∧
      reception.receiver.device.workPending = false

theorem boot_sound (build : Build) (incoming : List UInt8) :
    Sound build (boot incoming) where
  tidy :=
    { counts := fun _ _ => Nat.zero_le _
      stores := rfl
      header := fun _ => rfl
      short := fun positive => absurd positive (Nat.lt_irrefl 0) }
  queued := nofun
  handled := nofun

variable {build : Build} {reception later : Reception}

theorem Sound.callback (sound : Sound build reception) :
    Sound build { reception with
      receiver :=
        { device := reception.receiver.device.uartIrqCallback
          handling := none } } where
  tidy := Device.uartIrqCallback_tidy sound.tidy
  queued := Device.uartIrqCallback_queued sound.queued
  handled := nofun

theorem Sound.begin (sound : Sound build reception)
    (pending : reception.receiver.device.workPending = true) :
    Sound build { reception with
      receiver :=
        Receiver.begin build reception.receiver.device.takeWork } := by
  have inData := sound.queued pending
  unfold Receiver.begin
  split
  · unfold Device.answerProtocolInfo
    rw [Device.handleProtocolInfo_eq]
    exact
      { tidy := sound.tidy.of_clients rfl rfl rfl
        queued := by
          intro again
          cases again
        handled := by
          intro frameType handling
          cases handling }
  · exact
      { tidy := { sound.tidy with }
        queued := by
          intro again
          cases again
        handled := by
          intro frameType handling
          exact ⟨Option.some.inj handling, Or.inr inData, rfl⟩ }

theorem Sound.iterate (sound : Sound build reception)
    {frameType : SerialType}
    (handling : reception.receiver.handling = some frameType)
    (answerable : Device.IterationAnswerable build
      reception.receiver.device) :
    Sound build { reception with
      receiver := Receiver.iterate build frameType
        reception.receiver.device } := by
  obtain ⟨type, settled, taken⟩ := sound.handled frameType handling
  subst type
  unfold Receiver.iterate
  split
  · next missing =>
      obtain ⟨tidy, same⟩ := Device.workStep_tidy sound.tidy settled missing
        answerable
      have idle := same.pending.trans taken
      split
      · next later outcome =>
          rw [outcome] at tidy same idle
          exact
            { tidy
              queued := fun pending => Bool.noConfusion (idle.symm.trans pending)
              handled := by
                intro other continued
                exact ⟨same.type.trans (Option.some.inj continued),
                  same.settled settled, idle⟩ }
      · next final outcome =>
          rw [outcome] at tidy same idle
          exact
            { tidy
              queued := fun pending => Bool.noConfusion (idle.symm.trans pending)
              handled := nofun }
  · exact
      { tidy := sound.tidy
        queued := sound.queued
        handled := nofun }

theorem Sound.resetLength (sound : Sound build reception) (client : Client) :
    Sound build { reception with
      receiver := { reception.receiver with
        device := resetLength client reception.receiver.device } } where
  tidy :=
    { counts := by
        intro other keeps
        by_cases same : other = client
        · simp [Reception.resetLength, Device.setClient, same]
        · simpa [Reception.resetLength, Device.setClient, same] using
            sound.tidy.counts other keeps
      stores := sound.tidy.stores
      header := sound.tidy.header
      short := sound.tidy.short }
  queued := sound.queued
  handled := sound.handled

theorem Sound.step {label : BufferLabel} (sound : Sound build reception)
    (answerable : StepAnswerable build reception label)
    (stepped : reception.bufferStep build label = some later) :
    Sound build later := by
  cases label with
  | resetLength client =>
      simp only [bufferStep] at stepped
      split at stepped
      · cases stepped
        exact sound.resetLength client
      · cases stepped
  | receive label =>
      cases label with
      | arrive count =>
          cases stepped
          exact
            { tidy := { sound.tidy with }
              queued := sound.queued
              handled := sound.handled }
      | act action =>
          cases handling : reception.receiver.handling with
          | none =>
              cases action with
              | callback =>
                  simp only [bufferStep, Reception.step, Receiver.step,
                    handling] at stepped
                  cases stepped
                  exact sound.callback
              | begin =>
                  simp only [bufferStep, Reception.step, Receiver.step,
                    handling] at stepped
                  by_cases pending :
                      reception.receiver.device.workPending = true
                  · simp only [pending, if_true] at stepped
                    cases stepped
                    exact sound.begin pending
                  · simp [pending] at stepped
              | iterate =>
                  simp [bufferStep, Reception.step, Receiver.step,
                    handling] at stepped
          | some frameType =>
              cases action with
              | callback | begin =>
                  simp [bufferStep, Reception.step, Receiver.step,
                    handling] at stepped
              | iterate =>
                  simp only [bufferStep, Reception.step, Receiver.step,
                    handling] at stepped
                  cases stepped
                  exact sound.iterate handling answerable

/-- In every run of the receiver whose iterations meet the condition, no
counter exceeds its buffer, nothing has been stored outside the buffers, and
the next buffer that is granted is inside its client's array. -/
theorem contained_of_answerable (build : Build) (incoming : List UInt8)
    (labels : List BufferLabel) (final : Reception)
    (run : Run.GuardedRun (bufferStep build) (StepAnswerable build)
      (boot incoming) labels final) :
    Device.Contained build final.receiver.device ∧
      ∀ label, StepAnswerable build final label →
        StepDesignates build final label := by
  have sound : Sound build final :=
    run.preserves
      (fun _ _ _ sound answerable stepped => sound.step answerable stepped)
      (boot_sound build incoming)
  refine ⟨sound.tidy.toContained, ?_⟩
  intro label answerable
  match label with
  | .receive (.act .iterate) =>
      intro _ missing client callbacks
      exact Device.designates_of_answerable sound.tidy callbacks missing
        (answerable missing client callbacks)
  | .receive (.act .callback) => trivial
  | .receive (.act .begin) => trivial
  | .receive (.arrive _) => trivial
  | .resetLength _ => trivial

instance (build : Build) (client : Client) (device : Device) :
    Decidable (Device.Answerable build client device) :=
  inferInstanceAs (Decidable (_ → _ ∧ (_ → 0 < device.bytesRead →
    client.occupied _ + device.serialHeader.length.val ≤ _)))

instance (build : Build) (device : Device) :
    Decidable (Device.IterationAnswerable build device) :=
  match callbacks :
      serialMuxGetCallbacks build device.serialHeader.type with
  | none => .isTrue fun _ _ other => by cases callbacks.symm.trans other
  | some client =>
      decidable_of_iff
        (device.payloadMissing = true → Device.Answerable build client device)
        ⟨fun holds missing other same => by
            cases callbacks.symm.trans same
            exact holds missing,
          fun holds missing => holds missing client callbacks⟩

instance (build : Build) (reception : Reception) :
    (label : BufferLabel) → Decidable (StepAnswerable build reception label)
  | .receive (.act .iterate) =>
      inferInstanceAs (Decidable (Device.IterationAnswerable build _))
  | .receive (.act .callback) => .isTrue trivial
  | .receive (.act .begin) => .isTrue trivial
  | .receive (.arrive _) => .isTrue trivial
  | .resetLength _ => .isTrue trivial

/-- The labels of a receive event with `rounds` iterations of the handler. -/
def receiveEvent (count rounds : Nat) : List BufferLabel :=
  .receive (.arrive count) :: .receive (.act .callback) ::
    .receive (.act .begin) ::
      List.replicate rounds (.receive (.act .iterate))

/-- An HCI packet that arrives in two pieces and still fits twice. -/
def hciCommand : Frame := .ofPayload .hci 0 [1, 3, 12, 0] (by decide)

theorem contained_hciCommand :
    ∃ final,
      Run.exec (bufferStep Build.full) (boot hciCommand.encode)
          (receiveEvent 6 2 ++ receiveEvent 2 2) = some final ∧
        Device.Contained Build.full final.receiver.device := by
  have guarded : (Run.execGuarded (bufferStep Build.full)
      (StepAnswerable Build.full) (boot hciCommand.encode)
      (receiveEvent 6 2 ++ receiveEvent 2 2)).isSome = true := by
    decide
  obtain ⟨final, executed⟩ := Option.isSome_iff_exists.mp guarded
  have run := Run.guardedRun_of_execGuarded executed
  exact ⟨final, run.exec_eq,
    (contained_of_answerable Build.full hciCommand.encode _ final run).1⟩

/-- A request that fills the buffer of the network interface proxy. -/
def fullRequest : Frame :=
  .ofPayload .netIfMgmt 0 (List.replicate 512 0)
    (by rw [List.length_replicate]; decide)

/-- In two pieces it is stored past the end of the buffer and counted up to
768 bytes. -/
theorem fullRequest_overruns :
    ∃ final,
      Run.exec (bufferStep Build.full) (boot fullRequest.encode)
          (receiveEvent 260 2 ++ receiveEvent 256 1) = some final ∧
        final.receiver.device.stray = true ∧
        (final.receiver.device.clients .netIfMgmt).accumulated = 768 ∧
        Client.netIfMgmt.capacity Build.full = 512 ∧
        ¬Device.Contained Build.full final.receiver.device := by
  have ran : (Run.exec (bufferStep Build.full) (boot fullRequest.encode)
      (receiveEvent 260 2 ++ receiveEvent 256 1)).map (fun final =>
        (final.receiver.device.stray,
          (final.receiver.device.clients .netIfMgmt).accumulated)) =
      some (true, 768) := by
    decide +kernel
  obtain ⟨final, executed, observed⟩ := Option.map_eq_some_iff.mp ran
  simp only [Prod.mk.injEq] at observed
  refine ⟨final, executed, observed.1, observed.2, rfl, ?_⟩
  intro contained
  have inside := contained.stores
  simp [observed.1] at inside

end Reception

end SerialLink
