import SerialLink.Device.Multiplexer

/-!
# Two interfaces do not interfere

Both receivers deliver to the same clients.  As long as the frames for a
client come over one interface only, every interface behaves as if it were the
only one: its bytes are answered and its messages delivered as by a device with
that interface alone.
-/

namespace SerialLink

namespace Device

open Cells

variable {owner : Client → MuxIface} {iface : MuxIface}
  {others : Client → ClientState}

/-- The clients that belong to another interface are in another state. -/
def elsewhere (owner : Client → MuxIface) (iface : MuxIface)
    (others : Client → ClientState) (device : Device) : Device :=
  { device with clients := overlay owner iface device.clients others }

variable {build : Build} {client : Client} {frameType : SerialType}

@[simp] theorem elsewhere_rxFifo (device : Device) :
    (device.elsewhere owner iface others).rxFifo = device.rxFifo := rfl

@[simp] theorem elsewhere_rxError (device : Device) :
    (device.elsewhere owner iface others).rxError = device.rxError := rfl

@[simp] theorem elsewhere_parsingState (device : Device) :
    (device.elsewhere owner iface others).parsingState =
      device.parsingState := rfl

@[simp] theorem elsewhere_serialHeader (device : Device) :
    (device.elsewhere owner iface others).serialHeader =
      device.serialHeader := rfl

@[simp] theorem elsewhere_bytesRead (device : Device) :
    (device.elsewhere owner iface others).bytesRead = device.bytesRead := rfl

@[simp] theorem elsewhere_rxSequenceNumber (device : Device) :
    (device.elsewhere owner iface others).rxSequenceNumber =
      device.rxSequenceNumber := rfl

@[simp] theorem elsewhere_workPending (device : Device) :
    (device.elsewhere owner iface others).workPending =
      device.workPending := rfl

theorem elsewhere_clients (device : Device) (own : owner client = iface) :
    (device.elsewhere owner iface others).clients client =
      device.clients client := by
  simp [elsewhere, overlay, own]

theorem elsewhere_setClient (device : Device) (state : ClientState)
    (own : owner client = iface) :
    (device.elsewhere owner iface others).setClient client state =
      (device.setClient client state).elsewhere owner iface others := by
  unfold elsewhere setClient
  congr 1
  funext other
  by_cases same : other = client
  · simp [overlay, same, own]
  · simp [overlay, same]

theorem elsewhere_parseHeaderByte (device : Device) (byte : UInt8) :
    (device.elsewhere owner iface others).parseHeaderByte byte =
      (device.parseHeaderByte byte).elsewhere owner iface others := by
  unfold parseHeaderByte elsewhere
  dsimp only
  split
  · rfl
  · rfl
  · rfl
  · split
    · split <;> rfl
    · split <;> rfl
  · rfl

theorem elsewhere_drainHeader (bytes : List UInt8) (device : Device) :
    drainHeader bytes (device.elsewhere owner iface others) =
      (drainHeader bytes device).elsewhere owner iface others := by
  induction bytes generalizing device with
  | nil => rfl
  | cons byte rest induction =>
      rw [drainHeader, drainHeader, elsewhere_parsingState]
      split
      · rfl
      · rw [elsewhere_parseHeaderByte, ← induction]
        rfl

theorem elsewhere_uartIrqCallback (device : Device) :
    (device.elsewhere owner iface others).uartIrqCallback =
      device.uartIrqCallback.elsewhere owner iface others := by
  unfold uartIrqCallback
  rw [elsewhere_rxError, elsewhere_rxFifo, elsewhere_drainHeader]
  dsimp only
  split <;> rw [elsewhere_parsingState] <;> split <;> rfl

theorem elsewhere_answerProtocolInfo (build : Build) (device : Device) :
    (device.elsewhere owner iface others).answerProtocolInfo build =
      (device.answerProtocolInfo build).elsewhere owner iface others := by
  unfold answerProtocolInfo
  rw [handleProtocolInfo_eq, handleProtocolInfo_eq]
  rfl

/-- What is read does not depend on the clients. -/
theorem elsewhere_uartFifoRead (device : Device) (count : Nat) :
    (device.elsewhere owner iface others).uartFifoRead count =
      (device.uartFifoRead count).map fun read =>
        (read.1, read.2.elsewhere owner iface others) := by
  unfold uartFifoRead
  rw [elsewhere_rxError]
  split <;> rfl

theorem elsewhere_protocolInfoStep (build : Build) (device : Device) :
    (device.elsewhere owner iface others).protocolInfoStep build =
      (device.protocolInfoStep build).map (elsewhere owner iface others) := by
  unfold protocolInfoStep
  rw [elsewhere_uartFifoRead, elsewhere_serialHeader, elsewhere_bytesRead]
  cases device.uartFifoRead _ with
  | none => rfl
  | some read =>
      simp only [Option.map_some]
      rw [apply_ite (Loop.Outcome.map _)]
      refine ite_congr rfl (fun _ => ?_) fun _ => rfl
      exact congrArg Loop.Outcome.next (elsewhere_answerProtocolInfo build
        { read.2 with bytesRead := read.2.bytesRead + read.1.length })

theorem elsewhere_discardStep (frameType : SerialType) (device : Device) :
    (device.elsewhere owner iface others).discardStep frameType =
      (device.discardStep frameType).map (elsewhere owner iface others) := by
  unfold discardStep
  rw [elsewhere_uartFifoRead, elsewhere_serialHeader, elsewhere_bytesRead]
  cases device.uartFifoRead _ with
  | none => rfl
  | some read =>
      simp only [Option.map_some]
      rw [apply_ite (Loop.Outcome.map _)]
      exact ite_congr rfl (fun _ => rfl) fun _ => rfl

theorem elsewhere_commitData (device : Device) (len : Nat)
    (own : owner client = iface) :
    (device.elsewhere owner iface others).commitData client len =
      (device.commitData client len).elsewhere owner iface others := by
  unfold commitData
  rw [elsewhere_clients device own, elsewhere_setClient device _ own]

theorem elsewhere_messageComplete (build : Build) (device : Device)
    (len : Nat) (own : owner client = iface) :
    (device.elsewhere owner iface others).messageComplete build client len =
      (device.messageComplete build client len).elsewhere owner iface
        others := by
  unfold messageComplete
  rw [elsewhere_clients device own]
  exact elsewhere_setClient (device.log _) _ own

theorem elsewhere_storePayload (build : Build) (base : Option Nat)
    (bytes : List UInt8) (device : Device) (own : owner client = iface) :
    storePayload build client base bytes
        (device.elsewhere owner iface others) =
      (storePayload build client base bytes device).elsewhere owner iface
        others := by
  cases base with
  | none => rfl
  | some base =>
      unfold storePayload
      rw [elsewhere_clients device own]
      dsimp only
      rw [elsewhere_setClient device _ own]
      rfl

theorem elsewhere_completeFrame (build : Build) (frameType : SerialType)
    (device : Device) (own : owner client = iface) :
    (device.elsewhere owner iface others).completeFrame build client
        frameType =
      (device.completeFrame build client frameType).elsewhere owner iface
        others := by
  unfold completeFrame
  dsimp only
  rw [elsewhere_rxSequenceNumber, elsewhere_serialHeader,
    elsewhere_commitData device _ own, elsewhere_messageComplete build _ _ own]
  split
  · rfl
  · split <;> rfl

theorem elsewhere_clientStep (build : Build) (frameType : SerialType)
    (device : Device) (own : owner client = iface) :
    (device.elsewhere owner iface others).clientStep build client frameType =
      (device.clientStep build client frameType).map
        (elsewhere owner iface others) := by
  unfold clientStep
  dsimp only
  rw [elsewhere_clients device own, elsewhere_serialHeader,
    elsewhere_bytesRead]
  cases client.acquireBuffer build (device.clients client) _ with
  | refused => rfl
  | granted base =>
      simp only [elsewhere_uartFifoRead]
      cases device.uartFifoRead _ with
      | none => rfl
      | some read =>
          simp only [Option.map_some]
          rw [apply_ite (Loop.Outcome.map _), apply_ite (Loop.Outcome.map _),
            elsewhere_storePayload build base read.1 read.2 own]
          generalize storePayload build client base read.1 read.2 = stored
          refine ite_congr rfl (fun _ => rfl) fun _ =>
            ite_congr rfl (fun _ => ?_) fun _ => ?_
          · exact congrArg (fun final => Loop.Outcome.next
              (resetParser final)) (elsewhere_completeFrame build frameType
                { stored with bytesRead := stored.bytesRead + read.1.length }
                own)
          · exact congrArg Loop.Outcome.next (elsewhere_commitData
              { stored with bytesRead := stored.bytesRead + read.1.length }
              read.1.length own)

theorem elsewhere_workStep (build : Build) (frameType : SerialType)
    (device : Device)
    (own : ∀ client, serialMuxGetCallbacks build frameType = some client →
      owner client = iface) :
    (device.elsewhere owner iface others).workStep build frameType =
      (device.workStep build frameType).map
        (elsewhere owner iface others) := by
  unfold workStep
  split
  · exact elsewhere_protocolInfoStep build device
  · split
    · exact elsewhere_discardStep frameType device
    · rename_i client callbacks
      exact elsewhere_clientStep build frameType device (own client callbacks)

end Device

namespace Receiver

variable {owner : Client → MuxIface} {iface : MuxIface}
  {others : Client → ClientState} {build : Build}

def elsewhere (owner : Client → MuxIface) (iface : MuxIface)
    (others : Client → ClientState) (receiver : Receiver) : Receiver :=
  { receiver with device := receiver.device.elsewhere owner iface others }

/-- The payload that is being read, and a thread that runs, are those of a
client of the interface. -/
def Keeps (build : Build) (owner : Client → MuxIface) (iface : MuxIface)
    (receiver : Receiver) : LineAction → Prop
  | .receive .iterate =>
      ∀ client ∈ receiver.handling.bind (serialMuxGetCallbacks build),
        owner client = iface
  | .clearEvent client => owner client = iface
  | .resetLength client => owner client = iface
  | _ => True

theorem elsewhere_begin (build : Build) (device : Device) :
    begin build (device.elsewhere owner iface others) =
      (begin build device).elsewhere owner iface others := by
  unfold begin
  rw [Device.elsewhere_serialHeader, Device.elsewhere_answerProtocolInfo]
  split <;> rfl

theorem elsewhere_iterate {frameType : SerialType} (device : Device)
    (own : ∀ client, serialMuxGetCallbacks build frameType = some client →
      owner client = iface) :
    iterate build frameType (device.elsewhere owner iface others) =
      (iterate build frameType device).elsewhere owner iface others := by
  unfold iterate
  rw [Device.elsewhere_workStep build frameType device own]
  by_cases missing : device.payloadMissing = true
  · have same : (device.elsewhere owner iface others).payloadMissing = true :=
      missing
    rw [if_pos missing, if_pos same]
    cases device.workStep build frameType with
    | next later => rfl
    | stop last => rfl
  · have same : ¬(device.elsewhere owner iface others).payloadMissing =
        true :=
      missing
    rw [if_neg missing, if_neg same]
    rfl

theorem elsewhere_step (receiver : Receiver) {action : Action}
    (keeps : receiver.Keeps build owner iface (.receive action)) :
    (receiver.elsewhere owner iface others).step build action =
      (receiver.step build action).map (elsewhere owner iface others) := by
  obtain ⟨device, handling⟩ := receiver
  cases action with
  | callback =>
      cases handling with
      | none =>
          simp [step, elsewhere, Device.elsewhere_uartIrqCallback]
      | some frameType => rfl
  | begin =>
      cases handling with
      | none =>
          simp only [step, elsewhere, Device.elsewhere_workPending]
          rw [apply_ite (Option.map _)]
          exact ite_congr rfl (fun _ => congrArg some
            (elsewhere_begin build device.takeWork)) fun _ => rfl
      | some frameType => rfl
  | iterate =>
      cases handling with
      | none => rfl
      | some frameType =>
          exact congrArg some (elsewhere_iterate device keeps)

theorem elsewhere_send (receiver : Receiver) (type : SerialType)
    (payload : List UInt8) :
    (receiver.elsewhere owner iface others).send type payload =
      (receiver.send type payload).map (elsewhere owner iface others) := by
  unfold send Device.serialSendFrame
  by_cases long : payload.length > serialMaxPayloadLen
  · rw [if_pos long, if_pos long]
    rfl
  · rw [if_neg long, if_neg long]
    rfl

theorem elsewhere_updateClient (receiver : Receiver) {client : Client}
    (update : ClientState → ClientState) (own : owner client = iface) :
    (receiver.elsewhere owner iface others).updateClient client update =
      (receiver.updateClient client update).elsewhere owner iface others := by
  unfold updateClient elsewhere
  dsimp only
  rw [Device.elsewhere_clients _ own, Device.elsewhere_setClient _ _ own]

theorem elsewhere_lineStep (receiver : Receiver) {action : LineAction}
    (keeps : receiver.Keeps build owner iface action) :
    (receiver.elsewhere owner iface others).lineStep build action =
      (receiver.lineStep build action).map (elsewhere owner iface others) := by
  cases action with
  | arrive bytes => rfl
  | rxError failing => rfl
  | receive action => exact receiver.elsewhere_step keeps
  | send type payload =>
      rw [lineStep, lineStep, elsewhere_send]
      cases receiver.send type payload with
      | ok later => rfl
      | error code => rfl
  | clearEvent client =>
      exact congrArg some (receiver.elsewhere_updateClient _ keeps)
  | resetLength client =>
      exact congrArg some (receiver.elsewhere_updateClient _ keeps)

/-- A receiver keeps to the clients of its interface. -/
theorem confined {cells : Cells MuxIface Receiver Client ClientState}
    {action : LineAction}
    (keeps : (ofWorker (cells.worker iface)).Keeps build owner iface action) :
    Cells.Confined (workerStep build) owner cells (iface, action) := by
  intro others
  unfold workerStep
  change Option.map toWorker (lineStep build (elsewhere owner iface others
    (ofWorker (cells.worker iface))) action) = _
  rw [elsewhere_lineStep _ keeps, Option.map_map, Option.map_map]
  rfl

@[simp] theorem ofWorker_toWorker (receiver : Receiver) :
    ofWorker receiver.toWorker = receiver := rfl

/-- A receiver alone keeps its clients itself. -/
theorem exec_workerStep (receiver : Receiver) (actions : List LineAction) :
    Run.exec (workerStep build) receiver.toWorker actions =
      (Run.exec (lineStep build) receiver actions).map toWorker := by
  induction actions generalizing receiver with
  | nil => rfl
  | cons action actions induction =>
      rw [Run.exec, Run.exec, workerStep, ofWorker_toWorker]
      cases receiver.lineStep build action with
      | none => rfl
      | some later => exact induction later

end Receiver

namespace Multiplexer

variable {build : Build} {config : MuxConfig} {owner : Client → MuxIface}
  {mux later : Multiplexer} {label : Label}

/-- The interface at which a label takes place, and what happens there. -/
def located (config : MuxConfig) (registered : MuxIface → Bool)
    (owner : Client → MuxIface) : Label → Option (MuxIface × LineAction)
  | .arrive iface bytes => some (iface, .arrive bytes)
  | .rxError iface failing => some (iface, .rxError failing)
  | .receive iface action => some (iface, .receive action)
  | .serialMuxSend type payload =>
      if registered (serialMuxRouteForType config type) then
        some (serialMuxRouteForType config type, .send type payload)
      else none
  | .clearEvent client => some (owner client, .clearEvent client)
  | .resetLength client => some (owner client, .resetLength client)

/-- The client whose payload an iteration of the handler is going to read. -/
def reading (build : Build) (mux : Multiplexer) :
    Label → Option (MuxIface × Client)
  | .receive iface .iterate =>
      ((mux.receiver iface).handling.bind (serialMuxGetCallbacks build)).map
        fun client => (iface, client)
  | _ => none

/-- Only payloads for the clients of an interface are read from it. -/
def KeepsTo (build : Build) (owner : Client → MuxIface) (mux : Multiplexer)
    (label : Label) : Prop :=
  ∀ place ∈ reading build mux label, owner place.2 = place.1

instance (mux : Multiplexer) (label : Label) :
    Decidable (KeepsTo build owner mux label) :=
  inferInstanceAs (Decidable (∀ place ∈ reading build mux label, _))

/-- The clients are in the store only. -/
def Stored (mux : Multiplexer) : Prop :=
  ∀ iface, (mux.receiver iface).toWorker.state = mux.cells.state iface

theorem stored_setReceiver (stored : mux.Stored) (iface : MuxIface)
    (receiver : Receiver) : (mux.setReceiver iface receiver).Stored := by
  intro other
  have kept := stored other
  unfold Multiplexer.receiver setReceiver Cells.worker Cells.replace
  dsimp only
  split
  · rfl
  · exact kept

theorem cells_step {iface : MuxIface} {action : LineAction}
    {receiver : Receiver}
    (moved : (mux.receiver iface).lineStep build action = some receiver) :
    mux.cells.step (Receiver.workerStep build) (iface, action) =
      some (mux.setReceiver iface receiver).cells := by
  have worked : Receiver.workerStep build (mux.cells.worker iface) action =
      some receiver.toWorker := by
    rw [Receiver.workerStep]
    exact congrArg (Option.map Receiver.toWorker) moved
  simp [Cells.step, worked, setReceiver]

/-- Putting a receiver back that has its state changes the clients only. -/
theorem setReceiver_of_state (stored : mux.Stored) {iface : MuxIface}
    {receiver : Receiver}
    (same : receiver.toWorker.state =
      (mux.receiver iface).toWorker.state) :
    mux.setReceiver iface receiver =
      { mux with cells := { mux.cells with
          store := receiver.device.clients } } := by
  have state : (fun other => if other = iface then receiver.toWorker.state
      else mux.cells.state other) = mux.cells.state := by
    funext other
    split
    · rename_i here
      rw [here, same]
      exact stored iface
    · rfl
  unfold setReceiver Cells.replace
  rw [state]
  rfl

/-- A thread of a client may be taken for one of any receiver. -/
theorem setClient_eq (stored : mux.Stored) (client : Client)
    (update : ClientState → ClientState) (iface : MuxIface) :
    mux.setReceiver iface
        ((mux.receiver iface).updateClient client update) =
      mux.setClient client (update (mux.cells.store client)) :=
  setReceiver_of_state stored rfl

/-- A step of the multiplexer is a step of one of its receivers, or nothing. -/
def Follows (build : Build) (config : MuxConfig) (owner : Client → MuxIface)
    (mux : Multiplexer) (label : Label) (later : Multiplexer) : Prop :=
  located config mux.registered owner label = none ∧
      later.cells = mux.cells ∨
    ∃ iface action,
      located config mux.registered owner label = some (iface, action) ∧
      mux.cells.step (Receiver.workerStep build) (iface, action) =
        some later.cells

theorem follows_setClient (stored : mux.Stored) {client : Client}
    {update : ClientState → ClientState} {action : LineAction}
    (place : located config mux.registered owner label =
      some (owner client, action))
    (moved : (mux.receiver (owner client)).lineStep build action =
      some ((mux.receiver (owner client)).updateClient client update)) :
    Stored (mux.setClient client (update (mux.cells.store client))) ∧
      Follows build config owner mux label
        (mux.setClient client (update (mux.cells.store client))) := by
  rw [← setClient_eq stored client update (owner client)]
  exact ⟨stored_setReceiver stored _ _,
    .inr ⟨owner client, action, place, cells_step moved⟩⟩

theorem follows_serialMuxSend (stored : mux.Stored) {type : SerialType}
    {payload : List UInt8}
    (stepped : mux.step build config (.serialMuxSend type payload) =
      some later) :
    later.Stored ∧ later.registered = mux.registered ∧
      Follows build config owner mux (.serialMuxSend type payload) later := by
  rw [step, serialMuxSend] at stepped
  by_cases absent : mux.registered (serialMuxRouteForType config type) = false
  · simp only [absent, if_true] at stepped
    cases stepped
    exact ⟨stored, rfl, .inl ⟨by simp [located, absent], rfl⟩⟩
  · have present := Bool.not_eq_false _ ▸ absent
    have place : located config mux.registered owner
        (.serialMuxSend type payload) =
          some (serialMuxRouteForType config type, .send type payload) := by
      simp [located, present]
    simp only [absent] at stepped
    cases sent : (mux.receiver (serialMuxRouteForType config type)).send
        type payload with
    | ok receiver =>
        rw [sent] at stepped
        cases stepped
        refine ⟨stored_setReceiver stored _ _, rfl,
          .inr ⟨_, _, place, cells_step ?_⟩⟩
        rw [Receiver.lineStep, sent]
    | error code =>
        rw [sent] at stepped
        cases stepped
        refine ⟨stored, rfl, .inr ⟨_, _, place, ?_⟩⟩
        have unchanged : (mux.receiver (serialMuxRouteForType config
            type)).lineStep build (.send type payload) =
              some (mux.receiver (serialMuxRouteForType config type)) := by
          rw [Receiver.lineStep, sent]
        rw [cells_step unchanged, setReceiver_of_state stored rfl]
        rfl

theorem follows_of_step (stored : mux.Stored)
    (stepped : mux.step build config label = some later) :
    later.Stored ∧ later.registered = mux.registered ∧
      Follows build config owner mux label later := by
  cases label with
  | arrive iface bytes =>
      cases stepped
      exact ⟨stored_setReceiver stored iface _, rfl,
        .inr ⟨_, _, rfl, cells_step rfl⟩⟩
  | rxError iface failing =>
      cases stepped
      exact ⟨stored_setReceiver stored iface _, rfl,
        .inr ⟨_, _, rfl, cells_step rfl⟩⟩
  | receive iface action =>
      rw [step] at stepped
      split at stepped
      · obtain ⟨receiver, received, rfl⟩ := Option.map_eq_some_iff.mp stepped
        exact ⟨stored_setReceiver stored iface _, rfl,
          .inr ⟨_, _, rfl, cells_step received⟩⟩
      · cases stepped
  | serialMuxSend type payload => exact follows_serialMuxSend stored stepped
  | clearEvent client =>
      cases stepped
      have moved : (mux.receiver (owner client)).lineStep build
          (.clearEvent client) = some _ := rfl
      have place : located config mux.registered owner (.clearEvent client) =
          some (owner client, .clearEvent client) := rfl
      obtain ⟨kept, follows⟩ := follows_setClient stored place moved
      exact ⟨kept, rfl, follows⟩
  | resetLength client =>
      cases stepped
      have moved : (mux.receiver (owner client)).lineStep build
          (.resetLength client) = some _ := rfl
      have place : located config mux.registered owner (.resetLength client) =
          some (owner client, .resetLength client) := rfl
      obtain ⟨kept, follows⟩ := follows_setClient stored place moved
      exact ⟨kept, rfl, follows⟩

/-- A step that keeps to the clients of its interface is one that a receiver
keeps to them with. -/
theorem KeepsTo.keeps {iface : MuxIface} {action : LineAction}
    (keeps : mux.KeepsTo build owner label)
    (place : located config mux.registered owner label =
      some (iface, action)) :
    (mux.receiver iface).Keeps build owner iface action := by
  cases label with
  | arrive _ _ | rxError _ _ =>
      cases place
      trivial
  | receive _ action =>
      cases place
      cases action with
      | callback => trivial
      | begin => trivial
      | iterate =>
          intro client reads
          exact keeps (_, client) (Option.mem_map_of_mem _ reads)
  | serialMuxSend _ _ =>
      rw [located] at place
      split at place
      · cases place
        trivial
      · cases place
  | clearEvent _ | resetLength _ =>
      cases place
      rfl

/-- A run is one of the receivers over the clients, each of which keeps to
those of its interface. -/
theorem exec_cells {labels : List Label}
    (run : Run.GuardedRun (step build config) (KeepsTo build owner) mux labels
      later) (stored : mux.Stored) :
    Run.GuardedRun (Cells.step (Receiver.workerStep build))
      (Cells.Confined (Receiver.workerStep build) owner) mux.cells
      (labels.filterMap (located config mux.registered owner))
      later.cells := by
  induction run with
  | nil => exact .nil _
  | cons keeps stepped _ induction =>
      obtain ⟨kept, registered, follows⟩ := follows_of_step stored stepped
      have rest := induction kept
      rw [registered] at rest
      rcases follows with ⟨nowhere, same⟩ | ⟨iface, action, place, moved⟩
      · rw [List.filterMap_cons_none nowhere, ← same]
        exact rest
      · rw [List.filterMap_cons_some place]
        exact .cons (Receiver.confined (keeps.keeps place)) moved rest

/-- What happens at one interface. -/
def actionsAt (config : MuxConfig) (registered : MuxIface → Bool)
    (owner : Client → MuxIface) (iface : MuxIface) (labels : List Label) :
    List LineAction :=
  Cells.ofWorker iface
    (labels.filterMap (located config registered owner))

/-- As long as the payloads for a client come over its interface only, every
interface does what it does in a device without the other one: the same bytes
are answered in the same way, and its clients are in the same state. -/
theorem exec_separate (build : Build) (config : MuxConfig)
    (ready : MuxIface → Bool) (owner : Client → MuxIface)
    (labels : List Label) (final : Multiplexer)
    (run : Run.GuardedRun (step build config) (KeepsTo build owner)
      (boot config ready) labels final) (iface : MuxIface) :
    ∃ alone,
      Run.exec (Receiver.lineStep build) Receiver.boot
        (actionsAt config (boot config ready).registered owner iface
          labels) = some alone ∧
      alone.toWorker.state = final.cells.state iface ∧
      ∀ client, owner client = iface →
        alone.device.clients client = final.cells.store client := by
  have stored : (boot config ready).Stored := by
    intro other
    rw [receiver, boot_cells]
    rfl
  have cells := exec_cells run stored
  have alone := Cells.exec_alone cells iface Device.boot.clients
  have start : Cells.elsewhere owner iface Device.boot.clients
      ((boot config ready).cells.worker iface) = Receiver.boot.toWorker := by
    rw [boot_cells]
    unfold Cells.elsewhere Cells.worker reset
    rw [Cells.overlay_self]
    rfl
  rw [start, Receiver.exec_workerStep] at alone
  obtain ⟨last, executed, same⟩ := Option.map_eq_some_iff.mp alone
  refine ⟨last, executed, congrArg Worker.state same, ?_⟩
  intro client own
  have stored := congrFun (congrArg Worker.store same) client
  simp only [Cells.elsewhere, Cells.overlay, own, if_true] at stored
  exact stored

/-- The Wi-Fi management proxy at the USB interface, the others at the UART. -/
def mgmtAtUsb (client : Client) : MuxIface :=
  if client = .wifiMgmt then .usb else .uart

/-- A Bluetooth packet on the UART and a management request on the USB
interface, their bytes in turn. -/
def bothAtOnce : List Label :=
  [.arrive .uart [3, 0, 0, 2], .arrive .usb [0, 0, 0, 1],
    .receive .uart .callback, .receive .usb .callback,
    .receive .uart .begin, .receive .usb .begin,
    .arrive .usb [9], .arrive .uart [1, 2],
    .receive .uart .iterate, .receive .usb .iterate,
    .receive .uart .iterate, .receive .usb .iterate]

theorem bothAtOnce_separate :
    ∃ final alone,
      Run.exec (step Build.full mgmtOverUsb)
        (boot mgmtOverUsb fun _ => true) bothAtOnce = some final ∧
      Run.exec (Receiver.lineStep Build.full) Receiver.boot
        (actionsAt mgmtOverUsb (boot mgmtOverUsb fun _ => true).registered
          mgmtAtUsb .usb bothAtOnce) = some alone ∧
      alone.toWorker.state = final.cells.state .usb := by
  obtain ⟨final, executed⟩ := Option.isSome_iff_exists.mp
    (by decide : (Run.execGuarded (step Build.full mgmtOverUsb)
      (KeepsTo Build.full mgmtAtUsb) (boot mgmtOverUsb fun _ => true)
      bothAtOnce).isSome)
  have run := Run.guardedRun_of_execGuarded executed
  obtain ⟨alone, reached, same, -⟩ := exec_separate Build.full mgmtOverUsb
    (fun _ => true) mgmtAtUsb bothAtOnce final run .usb
  exact ⟨final, alone, run.exec_eq, reached, same⟩

end Multiplexer

end SerialLink
