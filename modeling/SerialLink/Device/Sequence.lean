import SerialLink.Device.Machine
import SerialLink.Device.Payload

/-!
# The two sequence numbers of the device

`rx_sequence_number` counts the frames delivered since the start or the last
rejection, `tx_sequence_number` the calls of `serial_send_frame` that
succeeded, both modulo 16.  The counts are kept beside the device: they are
read off what each step adds to the trace.  Bytes may arrive, the callback may
run, the proxies' own threads may change their state and frames may be sent
between any two iterations of the handler.
-/

namespace SerialLink

/-- What a step has added to the trace. -/
def newEvents (before after : Device) : List Event :=
  after.trace.drop before.trace.length

/-- An answer that is neither a delivery nor a rejection, or no answer. -/
def Event.Quiet : Event → Prop
  | .typeByte _ => True
  | .send header payload =>
      payload = [] ∧ header.error ≠ .incorrectSequenceNumber
  | .messageComplete _ _ _ => False

/-- The frames delivered since the last rejection, behind one more event of
the receiver. -/
def countDelivery (completed : Nat) : Event → Nat
  | .messageComplete _ _ _ => completed + 1
  | .send header _ =>
      if header.error = .incorrectSequenceNumber then 0 else completed
  | .typeByte _ => completed

/-- The calls of `serial_send_frame` in `handle_protocol_info`: the receiver's
other transmissions are acknowledgements and carry no payload. -/
def countCall (calls : Nat) : Event → Nat
  | .send _ payload => if payload = [] then calls else calls + 1
  | _ => calls

structure Numbering where
  receiver : Receiver
  completed : Nat
  calls : Nat

namespace Numbering

inductive Label where
  | arrive (bytes : List UInt8)
  /-- `uart_fifo_read` begins or ceases to fail. -/
  | uart (failing : Bool)
  /-- A proxy's own thread. -/
  | proxy (client : Client) (state : ClientState)
  | callback
  | begin
  | iterate
  | serialSendFrame (type : SerialType) (error : ErrorType) (noAck : Bool)
      (payload : List UInt8)

/-- The receiver's part of a step. -/
def received (numbering : Numbering) (receiver : Receiver) : Numbering where
  receiver := receiver
  completed := (newEvents numbering.receiver.device receiver.device).foldl
    countDelivery numbering.completed
  calls := (newEvents numbering.receiver.device receiver.device).foldl
    countCall numbering.calls

def withDevice (numbering : Numbering) (device : Device) : Numbering :=
  { numbering with receiver := { numbering.receiver with device } }

def step (build : Build) (numbering : Numbering) : Label → Option Numbering
  | .arrive bytes =>
      some (numbering.withDevice (numbering.receiver.device.arrive bytes))
  | .uart failing =>
      some (numbering.withDevice
        { numbering.receiver.device with rxError := failing })
  | .proxy client state =>
      some (numbering.withDevice
        (numbering.receiver.device.setClient client state))
  | .callback =>
      some (numbering.received
        { numbering.receiver with
          device := numbering.receiver.device.uartIrqCallback })
  | .begin =>
      (numbering.receiver.step build .begin).map numbering.received
  | .iterate =>
      (numbering.receiver.step build .iterate).map numbering.received
  | .serialSendFrame type error noAck payload =>
      match numbering.receiver.device.serialSendFrame type error noAck
          payload with
      | .ok device =>
          some { numbering.withDevice device with
            calls := numbering.calls + 1 }
      | .error _ => some numbering

/-- `initialize_uart` -/
def start : Numbering where
  receiver := { device := Device.boot, handling := none }
  completed := 0
  calls := 0

/-- The two numbers are the counts modulo 16. -/
structure Counted (numbering : Numbering) : Prop where
  bounded : numbering.receiver.device.rxSequenceNumber ≤ sequenceNumberMax
  rx : numbering.receiver.device.rxSequenceNumber = numbering.completed % 16
  tx : numbering.receiver.device.txSequenceNumber = numbering.calls % 16

/-- The steps that deal with no frame, or with a frame that is empty, too long,
`PROTOCOL_INFO`, of an unregistered type or refused by its client. -/
def PassesBy (build : Build) (receiver : Receiver) : Label → Prop
  | .iterate =>
      ∀ type, receiver.handling = some type →
        type = .protocolInfo ∨ serialMuxGetCallbacks build type = none ∨
          ∃ client, serialMuxGetCallbacks build type = some client ∧
            client.acquireBuffer build (receiver.device.clients client)
              (receiver.device.serialHeader.length.val -
                receiver.device.bytesRead) = .refused
  | _ => True

/-- What every step does to the two numbers. -/
structure Lawful (build : Build) (before : Numbering) (label : Label)
    (after : Numbering) : Prop where
  /-- A frame is delivered only if it carries the expected number. -/
  expected : ∀ client len state,
    .messageComplete client len state ∈
        newEvents before.receiver.device after.receiver.device →
      before.receiver.device.serialHeader.sequenceNumber.val =
        before.receiver.device.rxSequenceNumber
  passesBy : PassesBy build before.receiver label →
    after.receiver.device.rxSequenceNumber =
      before.receiver.device.rxSequenceNumber
  /-- Acknowledgements consume no number. -/
  acknowledged : before.calls = after.calls →
    after.receiver.device.txSequenceNumber =
      before.receiver.device.txSequenceNumber

end Numbering

namespace Device

/-- What one step of the receiver does to the two numbers. -/
inductive Numbered (device later : Device) : Prop where
  | quiet (records : Records Event.Quiet device later)
      (rx : later.rxSequenceNumber = device.rxSequenceNumber)
      (tx : later.txSequenceNumber = device.txSequenceNumber)
  | delivered {client : Client} {len : Nat} {state : ClientState}
      {answers : List Event}
      (expected : device.serialHeader.sequenceNumber.val =
        device.rxSequenceNumber)
      (trace : later.trace =
        device.trace ++ .messageComplete client len state :: answers)
      (quiet : ∀ event ∈ answers, event.Quiet)
      (rx : later.rxSequenceNumber = seqNext device.rxSequenceNumber)
      (tx : later.txSequenceNumber = device.txSequenceNumber)
  | rejected {type : SerialType} {number : Nat}
      (trace : later.trace = device.trace ++
        [.send (ackHeader type number .incorrectSequenceNumber) []])
      (rx : later.rxSequenceNumber = 0)
      (tx : later.txSequenceNumber = device.txSequenceNumber)
  | informed {header : SerialHeader} {payload : List UInt8}
      (sound : header.error = .noError) (nonempty : payload ≠ [])
      (trace : later.trace = device.trace ++ [.send header payload])
      (rx : later.rxSequenceNumber = device.rxSequenceNumber)
      (tx : later.txSequenceNumber = seqNext device.txSequenceNumber)

variable {build : Build} {client : Client} {frameType : SerialType}
  {device later : Device}

theorem Numbered.of_same (trace : later.trace = device.trace)
    (rx : later.rxSequenceNumber = device.rxSequenceNumber)
    (tx : later.txSequenceNumber = device.txSequenceNumber) :
    Numbered device later :=
  .quiet (.of_trace trace) rx tx

/-- A step is numbered like the same step from a state with the same numbers,
header and trace. -/
theorem Numbered.congr {middle : Device} (numbered : Numbered middle later)
    (header : middle.serialHeader = device.serialHeader)
    (trace : middle.trace = device.trace)
    (rx : middle.rxSequenceNumber = device.rxSequenceNumber)
    (tx : middle.txSequenceNumber = device.txSequenceNumber) :
    Numbered device later := by
  cases numbered with
  | quiet records rx' tx' =>
      obtain ⟨events, recorded, allowed⟩ := records
      exact .quiet ⟨events, trace ▸ recorded, allowed⟩ (rx'.trans rx)
        (tx'.trans tx)
  | delivered expected trace' quiet rx' tx' =>
      exact .delivered (header ▸ rx ▸ expected) (trace ▸ trace') quiet
        (rx ▸ rx') (tx'.trans tx)
  | rejected trace' rx' tx' =>
      exact .rejected (trace ▸ trace') rx' (tx'.trans tx)
  | informed sound nonempty trace' rx' tx' =>
      exact .informed sound nonempty (trace ▸ trace') (rx'.trans rx)
        (tx ▸ tx')

theorem Numbered.resetParser (numbered : Numbered device later) :
    Numbered device later.resetParser := by
  cases numbered with
  | quiet records rx tx => exact .quiet records rx tx
  | delivered expected trace quiet rx tx =>
      exact .delivered expected trace quiet rx tx
  | rejected trace rx tx => exact .rejected trace rx tx
  | informed sound nonempty trace rx tx =>
      exact .informed sound nonempty trace rx tx

private theorem parseHeaderByte_numbers (device : Device) (byte : UInt8) :
    Records Event.Quiet device (device.parseHeaderByte byte) ∧
      (device.parseHeaderByte byte).rxSequenceNumber =
        device.rxSequenceNumber ∧
      (device.parseHeaderByte byte).txSequenceNumber =
        device.txSequenceNumber := by
  unfold parseHeaderByte
  dsimp only
  split <;> try exact ⟨.of_trace rfl, rfl, rfl⟩
  · exact ⟨.of_log rfl trivial, rfl, rfl⟩
  · split
    · split <;> exact ⟨.of_trace rfl, rfl, rfl⟩
    · split
      · exact ⟨.of_log rfl ⟨rfl, nofun⟩, rfl, rfl⟩
      · exact ⟨.of_trace rfl, rfl, rfl⟩

/-- The callback answers over-long headers and changes no number. -/
theorem uartIrqCallback_quiet (device : Device) :
    Records Event.Quiet device device.uartIrqCallback ∧
      device.uartIrqCallback.rxSequenceNumber = device.rxSequenceNumber ∧
      device.uartIrqCallback.txSequenceNumber = device.txSequenceNumber := by
  have drained : Records Event.Quiet device
        (drainHeader device.rxFifo device) ∧
      (drainHeader device.rxFifo device).rxSequenceNumber =
        device.rxSequenceNumber ∧
      (drainHeader device.rxFifo device).txSequenceNumber =
        device.txSequenceNumber := by
    apply drainHeader_preserves (fun later =>
      Records Event.Quiet device later ∧
        later.rxSequenceNumber = device.rxSequenceNumber ∧
        later.txSequenceNumber = device.txSequenceNumber)
    · rintro later byte ⟨recorded, rx, tx⟩
      obtain ⟨parsed, rx', tx'⟩ := parseHeaderByte_numbers later byte
      exact ⟨recorded.trans parsed, rx'.trans rx, tx'.trans tx⟩
    · intro later fifo holds
      exact holds
    · exact ⟨.of_trace rfl, rfl, rfl⟩
  unfold uartIrqCallback
  dsimp only
  split
  · split <;> exact ⟨.of_trace rfl, rfl, rfl⟩
  · split <;> exact drained

theorem uartIrqCallback_numbered (device : Device) :
    Numbered device device.uartIrqCallback := by
  obtain ⟨records, rx, tx⟩ := uartIrqCallback_quiet device
  exact .quiet records rx tx

theorem answerProtocolInfo_numbered (build : Build) (device : Device) :
    Numbered device (device.answerProtocolInfo build) := by
  unfold answerProtocolInfo
  rw [handleProtocolInfo_eq]
  refine .informed ?_ ?_ rfl rfl rfl
  · rfl
  · exact List.cons_ne_nil _ _

theorem protocolInfoStep_numbered (build : Build) (device : Device) :
    Numbered device (device.protocolInfoStep build).state ∧
      (device.protocolInfoStep build).state.rxSequenceNumber =
        device.rxSequenceNumber := by
  by_cases failing : device.rxError = true
  · simp only [protocolInfoStep, uartFifoRead, failing, if_true]
    exact ⟨.of_same rfl rfl rfl, rfl⟩
  · simp only [protocolInfoStep, uartFifoRead, failing, Bool.false_eq_true,
      if_false]
    split
    · constructor
      · exact (answerProtocolInfo_numbered build _).congr rfl rfl rfl rfl
      · unfold answerProtocolInfo Loop.Outcome.state
        rw [handleProtocolInfo_eq]
        rfl
    · exact ⟨.of_same rfl rfl rfl, rfl⟩

theorem discardStep_numbered (frameType : SerialType) (device : Device) :
    Numbered device (device.discardStep frameType).state ∧
      (device.discardStep frameType).state.rxSequenceNumber =
        device.rxSequenceNumber := by
  by_cases failing : device.rxError = true
  · simp only [discardStep, uartFifoRead, failing, if_true]
    exact ⟨.of_same rfl rfl rfl, rfl⟩
  · simp only [discardStep, uartFifoRead, failing, Bool.false_eq_true,
      if_false]
    split
    · exact ⟨.quiet (.of_log rfl ⟨rfl, by simp [ackHeader]⟩) rfl rfl, rfl⟩
    · exact ⟨.of_same rfl rfl rfl, rfl⟩

theorem completeFrame_numbered (build : Build) (client : Client)
    (frameType : SerialType) (device : Device) :
    Numbered device (device.completeFrame build client frameType) := by
  unfold completeFrame
  dsimp only
  split
  · exact .rejected rfl rfl rfl
  · rename_i same
    have expected : device.serialHeader.sequenceNumber.val =
        device.rxSequenceNumber := (Classical.not_not.mp same).symm
    split
    · refine .delivered expected rfl ?_ rfl rfl
      exact fun _ member => absurd member List.not_mem_nil
    · have acknowledged : ∀ event ∈ [Event.send (ackHeader frameType
          device.serialHeader.sequenceNumber.val .noError) []],
          event.Quiet := by
        intro event member
        rw [List.mem_singleton.mp member]
        exact ⟨rfl, nofun⟩
      exact .delivered expected (List.append_assoc _ _ _) acknowledged rfl rfl

theorem clientStep_numbered (build : Build) (client : Client)
    (frameType : SerialType) (missing : device.payloadMissing = true) :
    Numbered device (device.clientStep build client frameType).state := by
  rcases device.clientStep_cases build client frameType missing with
    refused | same | ⟨base, -, completed | extended⟩
  · rw [refused]
    exact .quiet (.of_log rfl ⟨rfl, nofun⟩) rfl rfl
  · rw [same]
    exact .of_same rfl rfl rfl
  · rw [completed]
    have numbered := completeFrame_numbered build client frameType
      (device.loaded build client base
        (device.rxFifo.take
          (device.serialHeader.length.val - device.bytesRead))
        (device.rxFifo.drop
          (device.serialHeader.length.val - device.bytesRead)))
    apply Numbered.resetParser
    cases base with
    | none => exact numbered.congr rfl rfl rfl rfl
    | some offset => exact numbered.congr rfl rfl rfl rfl
  · rw [extended]
    cases base with
    | none => exact .of_same rfl rfl rfl
    | some offset => exact .of_same rfl rfl rfl

theorem workStep_numbered (build : Build) (frameType : SerialType)
    (missing : device.payloadMissing = true) :
    Numbered device (device.workStep build frameType).state := by
  unfold workStep
  split
  · exact (protocolInfoStep_numbered build device).1
  · split
    · exact (discardStep_numbered frameType device).1
    · exact clientStep_numbered build _ frameType missing

end Device

namespace Receiver

variable {build : Build} {receiver later : Receiver}

theorem begin_numbered
    (stepped : receiver.step build .begin = some later) :
    receiver.device.Numbered later.device ∧
      later.device.rxSequenceNumber = receiver.device.rxSequenceNumber := by
  simp only [step] at stepped
  split at stepped
  · split at stepped
    · cases stepped
      unfold begin
      split
      · constructor
        · exact (Device.answerProtocolInfo_numbered build _).congr rfl rfl rfl
            rfl
        · unfold Device.answerProtocolInfo
          rw [Device.handleProtocolInfo_eq]
          rfl
      · exact ⟨.of_same rfl rfl rfl, rfl⟩
    · cases stepped
  · cases stepped

/-- An iteration is the loop's body, or leaves the loop. -/
theorem iterate_device
    (stepped : receiver.step build .iterate = some later) :
    ∃ type, receiver.handling = some type ∧
      (later.device = receiver.device ∨
        receiver.device.payloadMissing = true ∧
          later.device = (receiver.device.workStep build type).state) := by
  simp only [step] at stepped
  split at stepped
  · cases stepped
  · rename_i type handling
    refine ⟨type, handling, ?_⟩
    cases stepped
    rcases iterate_cases build type receiver.device with
      ⟨-, left⟩ | ⟨missing, iterated, -⟩
    · exact .inl (by rw [left])
    · exact .inr ⟨missing, iterated⟩

theorem iterate_numbered
    (stepped : receiver.step build .iterate = some later) :
    receiver.device.Numbered later.device := by
  obtain ⟨type, -, same | ⟨missing, body⟩⟩ := iterate_device stepped
  · rw [same]
    exact .of_same rfl rfl rfl
  · rw [body]
    exact Device.workStep_numbered build type missing

end Receiver

namespace Numbering

variable {build : Build} {numbering later : Numbering} {label : Label}

theorem newEvents_eq {before after : Device} {events : List Event}
    (trace : after.trace = before.trace ++ events) :
    newEvents before after = events := by
  rw [newEvents, trace, List.drop_left]

theorem foldl_quiet {events : List Event}
    (quiet : ∀ event ∈ events, event.Quiet) (completed calls : Nat) :
    events.foldl countDelivery completed = completed ∧
      events.foldl countCall calls = calls := by
  induction events with
  | nil => exact ⟨rfl, rfl⟩
  | cons event events induction =>
      have rest := induction fun other member =>
        quiet other (List.mem_cons_of_mem event member)
      have first := quiet event List.mem_cons_self
      cases event with
      | typeByte position => exact rest
      | messageComplete client len state => exact first.elim
      | send header payload =>
          obtain ⟨empty, sound⟩ := first
          simp only [List.foldl_cons, countDelivery, countCall, if_pos empty,
            if_neg sound]
          exact rest

theorem seqNext_mod {number count : Nat} (same : number = count % 16) :
    seqNext number = (count + 1) % 16 := by
  unfold seqNext sequenceNumberMax
  split <;> omega

theorem counted_received (counted : Counted numbering) {receiver : Receiver}
    (numbered : numbering.receiver.device.Numbered receiver.device) :
    Counted (numbering.received receiver) := by
  obtain ⟨bounded, rxCount, txCount⟩ := counted
  cases numbered with
  | quiet records rx tx =>
      obtain ⟨events, trace, quiet⟩ := records
      obtain ⟨same, calls⟩ :=
        foldl_quiet quiet numbering.completed numbering.calls
      rw [received, newEvents_eq trace, same, calls]
      exact ⟨rx ▸ bounded, rx.trans rxCount, tx.trans txCount⟩
  | @delivered client len state answers expected trace quiet rx tx =>
      obtain ⟨same, calls⟩ :=
        foldl_quiet quiet (numbering.completed + 1) numbering.calls
      have completed : (newEvents numbering.receiver.device
          receiver.device).foldl countDelivery numbering.completed =
            numbering.completed + 1 := by
        rw [newEvents_eq trace]
        exact same
      have called : (newEvents numbering.receiver.device
          receiver.device).foldl countCall numbering.calls =
            numbering.calls := by
        rw [newEvents_eq trace]
        exact calls
      refine ⟨?_, ?_, ?_⟩
      · exact rx ▸ seqNext_le _
      · rw [received, completed]
        exact rx.trans (seqNext_mod rxCount)
      · rw [received, called]
        exact tx.trans txCount
  | rejected trace rx tx =>
      rw [received, newEvents_eq trace]
      exact ⟨rx ▸ Nat.zero_le _, rx, tx.trans txCount⟩
  | @informed header payload sound nonempty trace rx tx =>
      have kept : countDelivery numbering.completed (.send header payload) =
          numbering.completed := by
        rw [countDelivery, sound]
        exact if_neg nofun
      rw [received, newEvents_eq trace]
      refine ⟨rx ▸ bounded, ?_, ?_⟩
      · exact (rx.trans rxCount).trans (congrArg (· % 16) kept.symm)
      · have called : countCall numbering.calls (.send header payload) =
            numbering.calls + 1 := if_neg nonempty
        exact (tx.trans (seqNext_mod txCount)).trans
          (congrArg (· % 16) called.symm)

theorem counted_step (counted : Counted numbering)
    (stepped : numbering.step build label = some later) : Counted later := by
  cases label with
  | arrive bytes =>
      cases stepped
      exact ⟨counted.bounded, counted.rx, counted.tx⟩
  | uart failing =>
      cases stepped
      exact ⟨counted.bounded, counted.rx, counted.tx⟩
  | proxy client state =>
      cases stepped
      exact ⟨counted.bounded, counted.rx, counted.tx⟩
  | callback =>
      exact Option.some.inj stepped ▸ counted_received counted
        (Device.uartIrqCallback_numbered _)
  | begin =>
      obtain ⟨receiver, begun, rfl⟩ := Option.map_eq_some_iff.mp stepped
      exact counted_received counted (Receiver.begin_numbered begun).1
  | iterate =>
      obtain ⟨receiver, iterated, rfl⟩ := Option.map_eq_some_iff.mp stepped
      exact counted_received counted (Receiver.iterate_numbered iterated)
  | serialSendFrame type error noAck payload =>
      simp only [step, Device.serialSendFrame] at stepped
      split at stepped
      · rename_i sent
        split at sent
        · cases sent
        · cases sent
          cases stepped
          exact ⟨counted.bounded, counted.rx, seqNext_mod counted.tx⟩
      · cases stepped
        exact counted

/-- Only a frame with the expected number is delivered. -/
theorem expected_of_numbered {before after : Device}
    (numbered : before.Numbered after) {client : Client} {len : Nat}
    {state : ClientState}
    (delivered : .messageComplete client len state ∈ newEvents before after) :
    before.serialHeader.sequenceNumber.val = before.rxSequenceNumber := by
  cases numbered with
  | quiet records =>
      obtain ⟨events, trace, quiet⟩ := records
      rw [newEvents_eq trace] at delivered
      exact (quiet _ delivered).elim
  | delivered expected => exact expected
  | rejected trace =>
      rw [newEvents_eq trace] at delivered
      cases List.mem_singleton.mp delivered
  | informed _ _ trace =>
      rw [newEvents_eq trace] at delivered
      cases List.mem_singleton.mp delivered

/-- Only a call of `serial_send_frame` consumes a number. -/
theorem tx_of_numbered {receiver : Receiver}
    (numbered : numbering.receiver.device.Numbered receiver.device)
    (none : numbering.calls = (numbering.received receiver).calls) :
    receiver.device.txSequenceNumber =
      numbering.receiver.device.txSequenceNumber := by
  cases numbered with
  | quiet _ _ tx => exact tx
  | delivered _ _ _ _ tx => exact tx
  | rejected _ _ tx => exact tx
  | @informed header payload _ nonempty trace _ _ =>
      have called : countCall numbering.calls (.send header payload) =
          numbering.calls + 1 := if_neg nonempty
      rw [received, newEvents_eq trace] at none
      have more : numbering.calls = numbering.calls + 1 := none.trans called
      omega

theorem lawful_received {receiver : Receiver}
    (numbered : numbering.receiver.device.Numbered receiver.device)
    (passesBy : PassesBy build numbering.receiver label →
      receiver.device.rxSequenceNumber =
        numbering.receiver.device.rxSequenceNumber) :
    Lawful build numbering label (numbering.received receiver) where
  expected _ _ _ delivered := expected_of_numbered numbered delivered
  passesBy := passesBy
  acknowledged := tx_of_numbered numbered

/-- The environment leaves the numbers and the trace alone. -/
theorem lawful_withDevice {device : Device}
    (trace : device.trace = numbering.receiver.device.trace)
    (rx : device.rxSequenceNumber =
      numbering.receiver.device.rxSequenceNumber)
    (tx : device.txSequenceNumber =
      numbering.receiver.device.txSequenceNumber) :
    Lawful build numbering label (numbering.withDevice device) where
  expected _ _ _ delivered := by
    have none : newEvents numbering.receiver.device device = [] :=
      newEvents_eq (trace.trans (List.append_nil _).symm)
    rw [withDevice, none] at delivered
    exact absurd delivered List.not_mem_nil
  passesBy _ := rx
  acknowledged _ := tx

/-- An iteration that delivers nothing and rejects nothing. -/
theorem iterate_passesBy {receiver : Receiver}
    (stepped : numbering.receiver.step build .iterate = some receiver)
    (passesBy : PassesBy build numbering.receiver .iterate) :
    receiver.device.rxSequenceNumber =
      numbering.receiver.device.rxSequenceNumber := by
  obtain ⟨type, handling, same | ⟨-, body⟩⟩ :=
    Receiver.iterate_device stepped
  · rw [same]
  · rw [body, Device.workStep]
    split
    · exact (Device.protocolInfoStep_numbered build _).2
    · rename_i notInfo
      rcases passesBy type handling with info | unregistered |
        ⟨client, callbacks, refused⟩
      · exact absurd info notInfo
      · simp only [unregistered]
        exact (Device.discardStep_numbered type _).2
      · simp only [callbacks, Device.clientStep_of_refused refused]
        rfl

theorem lawful_step (stepped : numbering.step build label = some later) :
    Lawful build numbering label later := by
  cases label with
  | arrive bytes =>
      cases stepped
      exact lawful_withDevice rfl rfl rfl
  | uart failing =>
      cases stepped
      exact lawful_withDevice rfl rfl rfl
  | proxy client state =>
      cases stepped
      exact lawful_withDevice rfl rfl rfl
  | callback =>
      cases stepped
      refine lawful_received (Device.uartIrqCallback_numbered _) ?_
      intro
      exact (Device.uartIrqCallback_quiet _).2.1
  | begin =>
      obtain ⟨receiver, begun, rfl⟩ := Option.map_eq_some_iff.mp stepped
      obtain ⟨numbered, rx⟩ := Receiver.begin_numbered begun
      exact lawful_received numbered fun _ => rx
  | iterate =>
      obtain ⟨receiver, iterated, rfl⟩ := Option.map_eq_some_iff.mp stepped
      exact lawful_received (Receiver.iterate_numbered iterated)
        (iterate_passesBy iterated)
  | serialSendFrame type error noAck payload =>
      simp only [step, Device.serialSendFrame] at stepped
      split at stepped
      · rename_i sent
        split at sent
        · cases sent
        · cases sent
          cases stepped
          refine ⟨?_, fun _ => rfl, ?_⟩
          · intro client len state delivered
            simp [newEvents, withDevice, Device.log] at delivered
          · intro none
            have more : numbering.calls = numbering.calls + 1 := none
            omega
      · cases stepped
        exact @lawful_withDevice build numbering _ _ rfl rfl rfl

/-- In every state of every run from `initialize_uart`, the sequence numbers
are the counts modulo 16, and every step from there delivers only frames that
carry the expected number, moves that number on only for frames it delivers or
rejects, and gives no number to acknowledgements. -/
theorem sequence_numbers_counted (build : Build) (labels : List Label)
    (final : Numbering)
    (ran : Run.exec (step build) start labels = some final) :
    Counted final ∧
      ∀ label later, final.step build label = some later →
        Lawful build final label later := by
  constructor
  · exact Run.exec_preserves
      (fun _ _ _ counted stepped => counted_step counted stepped) ran
      ⟨Nat.zero_le _, rfl, rfl⟩
  · intro label later stepped
    exact lawful_step stepped

/-- A frame for the network interface proxy is delivered, then a `PROTOCOL_INFO`
query is answered and a notification sent. -/
def mixedLabels : List Label :=
  [.arrive (Frame.ofPayload .netIfMgmt 0 [1, 2] Frame.oneTwo_bounded).encode,
    .callback, .begin, .iterate, .iterate,
    .arrive (Frame.ofPayload .protocolInfo 9 [] Frame.nil_bounded).encode,
    .callback, .begin, .serialSendFrame .wifiMgmt .noError true [7]]

theorem sequence_numbers_mixedLabels :
    ∃ final, Run.exec (step Build.full) start mixedLabels = some final ∧
      Counted final ∧ final.completed = 1 ∧ final.calls = 2 ∧
      final.receiver.device.rxSequenceNumber = 1 ∧
      final.receiver.device.txSequenceNumber = 2 := by
  have outcome : (Run.exec (step Build.full) start mixedLabels).map
      (fun final => (final.completed, final.calls,
        final.receiver.device.rxSequenceNumber,
        final.receiver.device.txSequenceNumber)) = some (1, 2, 1, 2) := by
    decide +kernel
  obtain ⟨final, ran, counts⟩ := Option.map_eq_some_iff.mp outcome
  simp only [Prod.mk.injEq] at counts
  exact ⟨final, ran, (sequence_numbers_counted _ _ final ran).1, counts⟩

end Numbering

end SerialLink
