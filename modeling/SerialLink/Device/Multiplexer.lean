import SerialLink.Library.Cells
import SerialLink.Device.Machine
import SerialLink.Device.Payload

/-!
# The multiplexer and its two interfaces

A device has a UART and a USB interface with a receiver each.  The receivers
have their own parser and sequence numbers, but deliver to the same clients.
What the clients send goes to the interface that Kconfig chooses for its
traffic type.

The steps of the interfaces and of the clients may come in any order.
-/

namespace SerialLink

/-- `enum serial_mux_iface_id` without its count. -/
inductive MuxIface where
  | uart
  | usb
  deriving DecidableEq, Repr

namespace MuxIface

def ofNat? : Nat → Option MuxIface
  | 0 => some uart
  | 1 => some usb
  | _ => none

def toNat : MuxIface → Nat
  | uart => 0
  | usb => 1

end MuxIface

/-- The multiplexer's part of Kconfig, where the choice of USB for a proxy
depends on the interface. -/
structure MuxConfig where
  /-- `CONFIG_SERIAL_MUX_IFACE_UART` -/
  uart : Bool
  /-- `CONFIG_SERIAL_MUX_IFACE_USB` -/
  usb : Bool
  /-- `CONFIG_SERIAL_MUX_*_IFACE_USB` of the six proxies -/
  ifaceUsb : Client → Bool
  ifaceUsb_usb : ∀ client, ifaceUsb client = true → usb = true

def serialMuxIfaceEnabled (config : MuxConfig) : MuxIface → Bool
  | .uart => config.uart
  | .usb => config.usb

/-- The interface chosen for a proxy. -/
def MuxConfig.iface (config : MuxConfig) (client : Client) : MuxIface :=
  if config.ifaceUsb client then .usb else .uart

def serialMuxRouteForType (config : MuxConfig) : SerialType → MuxIface
  | .wifiMgmt => config.iface .wifiMgmt
  | .wifiData => config.iface .wifiData
  | .netIfMgmt => config.iface .netIfMgmt
  | .hci => config.iface .bt
  | .thread => config.iface .ot
  | .vserial => config.iface .vserial
  | _ => .uart

/-- What happens at one interface and to the clients. -/
inductive LineAction where
  | arrive (bytes : List UInt8)
  /-- `uart_fifo_read` begins or ceases to fail. -/
  | rxError (failing : Bool)
  | receive (action : Receiver.Action)
  /-- `serial_send_frame` -/
  | send (type : SerialType) (payload : List UInt8)
  /-- `k_event_wait` of a client's thread clears the event. -/
  | clearEvent (client : Client)
  /-- A client's thread sets `message_length` to 0. -/
  | resetLength (client : Client)

namespace Receiver

/-- `serial_send_frame` as the multiplexer calls it. -/
def send (receiver : Receiver) (type : SerialType) (payload : List UInt8) :
    Except Errno Receiver :=
  (receiver.device.serialSendFrame type .noError false payload).map
    fun device => { receiver with device }

def updateClient (receiver : Receiver) (client : Client)
    (update : ClientState → ClientState) : Receiver :=
  { receiver with
    device := receiver.device.setClient client
      (update (receiver.device.clients client)) }

def lineStep (build : Build) (receiver : Receiver) :
    LineAction → Option Receiver
  | .arrive bytes =>
      some { receiver with device := receiver.device.arrive bytes }
  | .rxError failing =>
      some { receiver with
        device := { receiver.device with rxError := failing } }
  | .receive action => receiver.step build action
  | .send type payload =>
      match receiver.send type payload with
      | .ok later => some later
      | .error _ => some receiver
  | .clearEvent client =>
      some (receiver.updateClient client fun state =>
        { state with dataComplete := false })
  | .resetLength client =>
      some (receiver.updateClient client fun state =>
        { state with accumulated := 0 })

/-- The device with one interface. -/
def boot : Receiver where
  device := .boot
  handling := none

/-- The receiver that works on the clients in the store. -/
def ofWorker (worker : Worker Receiver Client ClientState) : Receiver :=
  { worker.state with
    device := { worker.state.device with clients := worker.store } }

/-- The clients put back into the store. -/
def toWorker (receiver : Receiver) : Worker Receiver Client ClientState where
  state := { receiver with
    device := { receiver.device with clients := Device.boot.clients } }
  store := receiver.device.clients

/-- A step of one of several receivers. -/
def workerStep (build : Build) (worker : Worker Receiver Client ClientState)
    (action : LineAction) : Option (Worker Receiver Client ClientState) :=
  ((ofWorker worker).lineStep build action).map toWorker

end Receiver

/-- `mux_ifaces`, the receivers and the clients. -/
structure Multiplexer where
  /-- An entry of `mux_ifaces` is set as a whole. -/
  registered : MuxIface → Bool
  /-- `initialize_uart` has set the callback. -/
  initialized : MuxIface → Bool
  cells : Cells MuxIface Receiver Client ClientState

namespace Multiplexer

/-- `serial_mux_register_interface`; `present` says that neither of the two
pointers is `NULL`. -/
def serialMuxRegisterInterface (config : MuxConfig) (mux : Multiplexer)
    (ifaceId : Nat) (present : Bool) : Except Errno Multiplexer :=
  match MuxIface.ofNat? ifaceId with
  | none => .error .einval
  | some iface =>
      if present = false then .error .einval
      else if serialMuxIfaceEnabled config iface = false then .error .enotsup
      else
        .ok { mux with
          registered := fun other => if other = iface then true
            else mux.registered other }

/-- The receiver of an interface with the clients. -/
def receiver (mux : Multiplexer) (iface : MuxIface) : Receiver :=
  .ofWorker (mux.cells.worker iface)

def setReceiver (mux : Multiplexer) (iface : MuxIface)
    (receiver : Receiver) : Multiplexer :=
  { mux with cells := mux.cells.replace iface receiver.toWorker }

/-- `initialize_uart` on the `serial_config` of an interface. -/
def initializeUart (mux : Multiplexer) (iface : MuxIface) : Multiplexer :=
  let receiver := mux.receiver iface
  { mux.setReceiver iface
      { receiver with device := receiver.device.initializeUart } with
    initialized := fun other => if other = iface then true
      else mux.initialized other }

/-- The common part of `init_uart` and `init_serial_usb`, which ignore whether
the registration succeeds. -/
def initInterface (config : MuxConfig) (iface : MuxIface) (ready : Bool)
    (mux : Multiplexer) : Except Errno Multiplexer :=
  if ready = false then .error .enodev
  else
    let mux := mux.initializeUart iface
    match serialMuxRegisterInterface config mux iface.toNat true with
    | .ok later => .ok later
    | .error _ => .ok mux

def initUart (config : MuxConfig) (ready : Bool) (mux : Multiplexer) :
    Except Errno Multiplexer :=
  initInterface config .uart ready mux

def initSerialUsb (config : MuxConfig) (ready : Bool) (mux : Multiplexer) :
    Except Errno Multiplexer :=
  initInterface config .usb ready mux

/-- Static memory before the interfaces are initialised. -/
def reset : Multiplexer where
  registered := fun _ => false
  initialized := fun _ => false
  cells :=
    { state := fun _ => Receiver.boot.toWorker.state
      store := Device.boot.clients }

/-- The two `SYS_INIT` functions; `ready` is `device_is_ready`. -/
def boot (config : MuxConfig) (ready : MuxIface → Bool) : Multiplexer :=
  let mux := ((initUart config (ready .uart) reset).toOption).getD reset
  ((initSerialUsb config (ready .usb) mux).toOption).getD mux

/-- `serial_mux_send` -/
def serialMuxSend (config : MuxConfig) (mux : Multiplexer)
    (type : SerialType) (payload : List UInt8) :
    Except Errno Multiplexer :=
  let iface := serialMuxRouteForType config type
  if mux.registered iface = false then .error .enodev
  else
    ((mux.receiver iface).send type payload).map (mux.setReceiver iface)

inductive Label where
  /-- Bytes arrive, reads fail, or the receiver goes on. -/
  | arrive (iface : MuxIface) (bytes : List UInt8)
  | rxError (iface : MuxIface) (failing : Bool)
  | receive (iface : MuxIface) (action : Receiver.Action)
  | serialMuxSend (type : SerialType) (payload : List UInt8)
  | clearEvent (client : Client)
  | resetLength (client : Client)

def setClient (mux : Multiplexer) (client : Client) (state : ClientState) :
    Multiplexer :=
  { mux with
    cells := { mux.cells with
      store := fun other => if other = client then state
        else mux.cells.store other } }

def step (build : Build) (config : MuxConfig) (mux : Multiplexer) :
    Label → Option Multiplexer
  | .arrive iface bytes =>
      let receiver := mux.receiver iface
      some (mux.setReceiver iface
        { receiver with device := receiver.device.arrive bytes })
  | .rxError iface failing =>
      let receiver := mux.receiver iface
      some (mux.setReceiver iface
        { receiver with device := { receiver.device with rxError := failing } })
  | .receive iface action =>
      if mux.initialized iface then
        ((mux.receiver iface).step build action).map (mux.setReceiver iface)
      else none
  | .serialMuxSend type payload =>
      match mux.serialMuxSend config type payload with
      | .ok later => some later
      | .error _ => some mux
  | .clearEvent client =>
      some (mux.setClient client
        { mux.cells.store client with dataComplete := false })
  | .resetLength client =>
      some (mux.setClient client
        { mux.cells.store client with accumulated := 0 })

end Multiplexer

/-- A receiver sends nothing but answers and protocol information. -/
def Event.OfReceiver : Event → Prop
  | .send header payload => payload = [] ∨ header.type = .protocolInfo
  | _ => True

namespace Device

variable {build : Build} {device : Device}

private theorem parseHeaderByte_ofReceiver (device : Device) (byte : UInt8) :
    Records Event.OfReceiver device (device.parseHeaderByte byte) := by
  unfold parseHeaderByte
  dsimp only
  split <;> try exact .of_trace rfl
  · exact .of_log rfl trivial
  · split
    · split <;> exact .of_trace rfl
    · split
      · exact .of_log rfl (.inl rfl)
      · exact .of_trace rfl

theorem uartIrqCallback_ofReceiver (device : Device) :
    Records Event.OfReceiver device device.uartIrqCallback := by
  have drained : Records Event.OfReceiver device
      (drainHeader device.rxFifo device) := by
    apply drainHeader_preserves (Records Event.OfReceiver device)
    · intro later byte recorded
      exact recorded.trans (parseHeaderByte_ofReceiver later byte)
    · intro later fifo recorded
      exact recorded
    · exact .of_trace rfl
  unfold uartIrqCallback
  dsimp only
  split
  · split <;> exact .of_trace rfl
  · split <;> exact drained

theorem answerProtocolInfo_ofReceiver (build : Build) (device : Device) :
    Records Event.OfReceiver device (device.answerProtocolInfo build) := by
  unfold answerProtocolInfo
  rw [handleProtocolInfo_eq]
  exact .of_log rfl (.inr rfl)

theorem completeFrame_ofReceiver (build : Build) (client : Client)
    (frameType : SerialType) (device : Device) :
    Records Event.OfReceiver device
      (device.completeFrame build client frameType) := by
  unfold completeFrame
  dsimp only
  split
  · exact .of_log rfl (.inl rfl)
  · have called : Records Event.OfReceiver device
        ((device.commitData client
          device.serialHeader.length.val).messageComplete
            build client device.serialHeader.length.val) :=
      .of_log rfl trivial
    split
    · exact called
    · exact called.trans (.of_log rfl (.inl rfl))

theorem workStep_ofReceiver (build : Build) (frameType : SerialType)
    (missing : device.payloadMissing = true) :
    Records Event.OfReceiver device
      (device.workStep build frameType).state := by
  unfold workStep
  split
  · by_cases failing : device.rxError = true
    · simp only [protocolInfoStep, uartFifoRead, failing, if_true]
      exact .of_trace rfl
    · simp only [protocolInfoStep, uartFifoRead, failing, Bool.false_eq_true,
        if_false]
      split
      · exact answerProtocolInfo_ofReceiver build _
      · exact .of_trace rfl
  · split
    · by_cases failing : device.rxError = true
      · simp only [discardStep, uartFifoRead, failing, if_true]
        exact .of_trace rfl
      · simp only [discardStep, uartFifoRead, failing, Bool.false_eq_true,
          if_false]
        split
        · exact .of_log rfl (.inl rfl)
        · exact .of_trace rfl
    · next client _ =>
        rcases device.clientStep_cases build client frameType missing with
          refused | same | ⟨base, -, completed | extended⟩
        · rw [refused]
          exact .of_log rfl (.inl rfl)
        · rw [same]
          exact .of_trace rfl
        · rw [completed]
          apply Records.resetParser
          apply Records.trans (.of_trace (device.loaded_trace build client base
            (device.rxFifo.take _) (device.rxFifo.drop _)))
          apply completeFrame_ofReceiver
        · rw [extended]
          exact .of_trace (device.loaded_trace build client base _ _)

end Device

theorem Receiver.step_ofReceiver {build : Build} {receiver later : Receiver}
    {action : Action} (stepped : receiver.step build action = some later) :
    Device.Records Event.OfReceiver receiver.device later.device := by
  cases action with
  | callback =>
      rw [step] at stepped
      split at stepped
      · cases stepped
        exact receiver.device.uartIrqCallback_ofReceiver
      · cases stepped
  | begin =>
      rw [step] at stepped
      split at stepped
      · split at stepped
        · cases stepped
          unfold begin
          split
          · exact receiver.device.takeWork.answerProtocolInfo_ofReceiver build
          · exact .of_trace rfl
        · cases stepped
      · cases stepped
  | iterate =>
      rw [step] at stepped
      split at stepped
      · cases stepped
      · rename_i frameType _
        cases stepped
        rcases iterate_cases build frameType receiver.device with
          ⟨-, left⟩ | ⟨missing, worked, -⟩
        · rw [left]
          exact .of_trace rfl
        · rw [worked]
          exact Device.workStep_ofReceiver build frameType missing

namespace Multiplexer

/-- What an interface has recorded. -/
def trace (mux : Multiplexer) (iface : MuxIface) : List Event :=
  (mux.cells.state iface).device.trace

/-- The payloads of a type that have been sent, answers apart. -/
def sentOf (type : SerialType) (trace : List Event) : List (List UInt8) :=
  trace.filterMap fun
    | .send header payload =>
        if header.type = type ∧ payload ≠ [] then some payload else none
    | _ => none

/-- The payloads of a type that fit a frame, among those that
`serial_mux_send` is called with. -/
def offeredOf (type : SerialType) (labels : List Label) :
    List (List UInt8) :=
  labels.filterMap fun
    | .serialMuxSend offered payload =>
        if offered = type ∧ payload ≠ [] ∧
            payload.length ≤ serialMaxPayloadLen then some payload
        else none
    | _ => none

theorem sentOf_append (type : SerialType) (first second : List Event) :
    sentOf type (first ++ second) = sentOf type first ++ sentOf type second :=
  List.filterMap_append

theorem sentOf_send (type : SerialType) (header : SerialHeader)
    (payload : List UInt8) :
    sentOf type [.send header payload] =
      if header.type = type ∧ payload ≠ [] then [payload] else [] := by
  rw [sentOf, List.filterMap_cons]
  dsimp only
  split <;> split <;> simp_all

theorem offeredOf_cons (type : SerialType) (label : Label)
    (labels : List Label) :
    offeredOf type (label :: labels) =
      offeredOf type [label] ++ offeredOf type labels :=
  List.filterMap_append (l := [label])

theorem offeredOf_serialMuxSend (type offered : SerialType)
    (payload : List UInt8) :
    offeredOf type [.serialMuxSend offered payload] =
      if offered = type ∧ payload ≠ [] ∧ payload.length ≤ serialMaxPayloadLen
      then [payload] else [] := by
  rw [offeredOf, List.filterMap_cons]
  dsimp only
  split <;> split <;> simp_all

variable {build : Build} {config : MuxConfig} {mux later : Multiplexer}

theorem trace_setReceiver (mux : Multiplexer) (iface other : MuxIface)
    (receiver : Receiver) :
    (mux.setReceiver iface receiver).trace other =
      if other = iface then receiver.device.trace else mux.trace other := by
  unfold trace setReceiver Cells.replace
  dsimp only
  split <;> rfl

theorem sentOf_setReceiver {iface : MuxIface} {receiver : Receiver}
    {type : SerialType} (ordinary : type ≠ .protocolInfo)
    (records : Device.Records Event.OfReceiver (mux.receiver iface).device
      receiver.device) (other : MuxIface) :
    sentOf type ((mux.setReceiver iface receiver).trace other) =
      sentOf type (mux.trace other) := by
  rw [trace_setReceiver]
  split
  · rename_i same
    subst same
    refine records.filterMap_eq ?_
    intro event allowed
    cases event with
    | send header payload =>
        rcases allowed with rfl | information
        · simp
        · simp [information, Ne.symm ordinary]
    | messageComplete _ _ _ | typeByte _ => rfl
  · rfl

/-- Whether what is offered of a type appears at an interface. -/
def Carries (config : MuxConfig) (mux : Multiplexer) (type : SerialType)
    (iface : MuxIface) : Prop :=
  serialMuxRouteForType config type = iface ∧ mux.registered iface = true

instance (type : SerialType) (iface : MuxIface) :
    Decidable (Carries config mux type iface) :=
  inferInstanceAs (Decidable (_ ∧ _))

/-- A send that is not refused. -/
theorem serialMuxSend_cases (config : MuxConfig) (mux : Multiplexer)
    (type : SerialType) (payload : List UInt8) :
    (mux.registered (serialMuxRouteForType config type) = false ∧
        mux.serialMuxSend config type payload = .error .enodev) ∨
    (mux.registered (serialMuxRouteForType config type) = true ∧
      serialMaxPayloadLen < payload.length ∧
        mux.serialMuxSend config type payload = .error .emsgsize) ∨
    (mux.registered (serialMuxRouteForType config type) = true ∧
      payload.length ≤ serialMaxPayloadLen ∧
      ∃ receiver header,
        mux.serialMuxSend config type payload =
          .ok (mux.setReceiver (serialMuxRouteForType config type)
            receiver) ∧
        header.type = type ∧
        receiver.device.trace =
          mux.trace (serialMuxRouteForType config type) ++
            [.send header payload]) := by
  unfold serialMuxSend
  by_cases registered :
      mux.registered (serialMuxRouteForType config type) = false
  · exact .inl ⟨registered, by rw [if_pos registered]⟩
  · right
    have present := Bool.not_eq_false _ ▸ registered
    rw [if_neg registered]
    by_cases long : serialMaxPayloadLen < payload.length
    · left
      refine ⟨present, long, ?_⟩
      simp [Receiver.send, Device.serialSendFrame, long, Except.map]
    · right
      refine ⟨present, Nat.not_lt.mp long, ?_⟩
      simp only [Receiver.send, Device.serialSendFrame, gt_iff_lt, long,
        if_false, Except.map]
      exact ⟨_, _, rfl, rfl, rfl⟩

theorem adds_nothing {label : Label} {type : SerialType} {iface : MuxIface}
    {before after : List Event} (same : sentOf type after = sentOf type before)
    (nothing : Carries config mux type iface → offeredOf type [label] = []) :
    sentOf type after = sentOf type before ++
      if Carries config mux type iface then offeredOf type [label]
      else [] := by
  split
  · rename_i carries
    rw [nothing carries, List.append_nil, same]
  · rw [List.append_nil, same]

/-- What a send adds to what an interface has sent. -/
theorem serialMuxSend_sentOf {offered type : SerialType}
    {payload : List UInt8}
    (stepped : mux.step build config (.serialMuxSend offered payload) =
      some later) (iface : MuxIface) :
    later.registered = mux.registered ∧
      sentOf type (later.trace iface) = sentOf type (mux.trace iface) ++
        if Carries config mux type iface then
          offeredOf type [.serialMuxSend offered payload]
        else [] := by
  rw [step] at stepped
  rcases serialMuxSend_cases config mux offered payload with
    ⟨absent, refused⟩ | ⟨-, long, refused⟩ |
    ⟨present, short, receiver, header, sent, named, recorded⟩
  · rw [refused] at stepped
    cases stepped
    refine ⟨rfl, adds_nothing rfl ?_⟩
    rintro ⟨rfl, registered⟩
    have other : offered ≠ type := by
      rintro rfl
      rw [registered] at absent
      cases absent
    simp [offeredOf_serialMuxSend, other]
  · rw [refused] at stepped
    cases stepped
    refine ⟨rfl, adds_nothing rfl fun _ => ?_⟩
    simp [offeredOf_serialMuxSend, Nat.not_le.mpr long]
  · rw [sent] at stepped
    cases stepped
    refine ⟨rfl, ?_⟩
    rw [trace_setReceiver]
    by_cases here : iface = serialMuxRouteForType config offered
    · rw [if_pos here, recorded, ← here, sentOf_append, sentOf_send,
        offeredOf_serialMuxSend, named]
      refine congrArg _ ?_
      by_cases same : offered = type
      · have carries : Carries config mux type iface :=
          ⟨by rw [here, same], by rw [here]; exact present⟩
        simp [same, carries, short]
      · simp [same]
    · rw [if_neg here]
      refine adds_nothing rfl ?_
      rintro ⟨rfl, -⟩
      have other : offered ≠ type := by
        rintro rfl
        exact here rfl
      simp [offeredOf_serialMuxSend, other]

/-- What one step adds to what an interface has sent. -/
theorem step_sentOf {label : Label} {type : SerialType}
    (ordinary : type ≠ .protocolInfo)
    (stepped : mux.step build config label = some later)
    (iface : MuxIface) :
    later.registered = mux.registered ∧
      sentOf type (later.trace iface) = sentOf type (mux.trace iface) ++
        if Carries config mux type iface then offeredOf type [label]
        else [] := by
  cases label with
  | arrive place bytes =>
      cases stepped
      refine ⟨rfl, adds_nothing (sentOf_setReceiver ordinary ?_ iface)
        fun _ => rfl⟩
      exact .of_trace rfl
  | rxError place failing =>
      cases stepped
      refine ⟨rfl, adds_nothing (sentOf_setReceiver ordinary ?_ iface)
        fun _ => rfl⟩
      exact .of_trace rfl
  | receive place action =>
      rw [step] at stepped
      split at stepped
      · obtain ⟨receiver, received, rfl⟩ := Option.map_eq_some_iff.mp stepped
        exact ⟨rfl, adds_nothing (sentOf_setReceiver ordinary
          (Receiver.step_ofReceiver received) _) fun _ => rfl⟩
      · cases stepped
  | serialMuxSend offered payload => exact serialMuxSend_sentOf stepped iface
  | clearEvent client =>
      cases stepped
      exact ⟨rfl, adds_nothing rfl fun _ => rfl⟩
  | resetLength client =>
      cases stepped
      exact ⟨rfl, adds_nothing rfl fun _ => rfl⟩

theorem exec_sentOf {labels : List Label} {type : SerialType}
    (ordinary : type ≠ .protocolInfo)
    (executed : Run.exec (step build config) mux labels = some later)
    (iface : MuxIface) :
    sentOf type (later.trace iface) = sentOf type (mux.trace iface) ++
      if Carries config mux type iface then offeredOf type labels
      else [] := by
  induction labels generalizing mux with
  | nil =>
      cases executed
      simp [offeredOf]
  | cons label labels induction =>
      rw [Run.exec] at executed
      split at executed
      · rename_i next stepped
        obtain ⟨registered, sent⟩ := step_sentOf ordinary stepped iface
        have same : Carries config next type iface ↔
            Carries config mux type iface := by
          rw [Carries, registered]
          rfl
        rw [induction executed, sent, List.append_assoc]
        refine congrArg _ ?_
        by_cases carries : Carries config mux type iface
        · rw [if_pos carries, if_pos (same.mpr carries), if_pos carries,
            offeredOf_cons type label labels]
        · rw [if_neg carries, if_neg (mt same.mp carries), if_neg carries,
            List.append_nil]
      · cases executed

theorem boot_registered (config : MuxConfig) (ready : MuxIface → Bool)
    (iface : MuxIface) :
    (boot config ready).registered iface =
      (ready iface && serialMuxIfaceEnabled config iface) := by
  cases one : ready .uart <;> cases other : ready .usb <;>
    cases first : config.uart <;> cases second : config.usb <;>
    cases iface <;>
    simp [boot, initUart, initSerialUsb, initInterface, one, other,
      serialMuxRegisterInterface, MuxIface.ofNat?, MuxIface.toNat,
      serialMuxIfaceEnabled, first, second, Except.toOption, reset,
      initializeUart, setReceiver]

/-- An interface comes up as its static memory is. -/
theorem initializeUart_cells (iface : MuxIface)
    (fresh : mux.cells = reset.cells) :
    (mux.initializeUart iface).cells = reset.cells := by
  have state : (fun other => if other = iface then
      Receiver.boot.toWorker.state else reset.cells.state other) =
        reset.cells.state := by
    funext other
    split <;> rfl
  unfold initializeUart setReceiver receiver Cells.replace
  rw [fresh]
  exact congrArg (fun state => { reset.cells with state }) state

theorem serialMuxRegisterInterface_cells {ifaceId : Nat} {present : Bool}
    (registered : serialMuxRegisterInterface config mux ifaceId present =
      .ok later) : later.cells = mux.cells := by
  unfold serialMuxRegisterInterface at registered
  split at registered
  · cases registered
  · split at registered
    · cases registered
    · split at registered
      · cases registered
      · cases registered
        rfl

theorem initInterface_cells (config : MuxConfig) (iface : MuxIface)
    (ready : Bool) (fresh : mux.cells = reset.cells) :
    ((initInterface config iface ready mux).toOption.getD mux).cells =
      reset.cells := by
  have initialized := initializeUart_cells iface fresh
  unfold initInterface
  cases ready with
  | false => exact fresh
  | true =>
      simp only [Bool.true_eq_false, if_false]
      cases registered : serialMuxRegisterInterface config
          (mux.initializeUart iface) iface.toNat true with
      | ok later =>
          exact (serialMuxRegisterInterface_cells registered).trans initialized
      | error code => exact initialized

theorem boot_cells (config : MuxConfig) (ready : MuxIface → Bool) :
    (boot config ready).cells = reset.cells :=
  initInterface_cells config .usb (ready .usb)
    (initInterface_cells config .uart (ready .uart) rfl)

theorem boot_trace (config : MuxConfig) (ready : MuxIface → Bool)
    (iface : MuxIface) : (boot config ready).trace iface = [] := by
  rw [trace, boot_cells]
  rfl

/-- Wi-Fi management over USB and the other proxies over the UART. -/
def mgmtOverUsb : MuxConfig where
  uart := true
  usb := true
  ifaceUsb := fun client => client = .wifiMgmt
  ifaceUsb_usb := fun _ _ => rfl

/-- An empty protocol information request arrives on the UART between two
sends. -/
def twoSends : List Label :=
  [.serialMuxSend .wifiMgmt [1], .arrive .uart [39, 0, 0, 0],
    .receive .uart .callback, .receive .uart .begin,
    .serialMuxSend .hci [4, 5], .serialMuxSend .wifiMgmt [2]]

end Multiplexer

end SerialLink
