import Mathlib.Data.List.Basic
import SerialLink.Device.HciEvents
import SerialLink.Host.VirtualHci

/-!
# The events of the controller at the host

A packet that the controller delivers goes through the fifo of the device,
a frame, the UART in whatever pieces, the receiver of the host and its virtual
HCI driver, before the Bluetooth stack gets it.
-/

namespace SerialLink

namespace Egress

variable {τ : Type}

/-- What `bus_validate_rx` looks at. -/
def Formed (frame : Frame) : Prop :=
  frame.header.reserved = 0 ∧ frame.payload.length ≤ serialMaxPayloadLen

/-- The frames that have been started, and those that will be. -/
structure WellFormed (egress : Egress τ) : Prop where
  acks : ∀ transmission ∈ egress.started, transmission.ack = true →
    transmission.frame.payload = []
  started : ∀ transmission ∈ egress.started, Formed transmission.frame
  built : ∀ thread frame, egress.sender thread = .headerBuilt frame →
    Formed frame

theorem initial_wellFormed : WellFormed (initial : Egress τ) where
  acks := by
    intro transmission member
    cases member
  started := by
    intro transmission member
    cases member
  built := by
    intro thread frame built
    cases built

theorem WellFormed.start {egress : Egress τ} (formed : WellFormed egress)
    {transmission : Transmission}
    (empty : transmission.ack = true → transmission.frame.payload = [])
    (shape : Formed transmission.frame) :
    (∀ other ∈ egress.started ++ [transmission], other.ack = true →
        other.frame.payload = []) ∧
      ∀ other ∈ egress.started ++ [transmission], Formed other.frame := by
  constructor
  · intro other member
    rcases List.mem_append.mp member with before | new
    · exact formed.acks other before
    · rwa [List.mem_singleton.mp new]
  · intro other member
    rcases List.mem_append.mp member with before | new
    · exact formed.started other before
    · rwa [List.mem_singleton.mp new]

variable [DecidableEq τ] {egress later : Egress τ}

/-- Only a call of `serial_send_frame` builds a header. -/
theorem WellFormed.move (formed : WellFormed egress) {thread : τ}
    {sender : Sender} {started : List Transmission}
    (none : ∀ frame, sender ≠ .headerBuilt frame)
    (acks : ∀ transmission ∈ started, transmission.ack = true →
      transmission.frame.payload = [])
    (frames : ∀ transmission ∈ started, Formed transmission.frame)
    (senders : later.sender = (egress.setSender thread sender).sender)
    (same : later.started = started) : WellFormed later := by
  subst same
  refine ⟨acks, frames, ?_⟩
  intro other frame built
  rw [senders] at built
  simp only [setSender] at built
  split at built
  · exact absurd built (none frame)
  · exact formed.built other frame built

theorem WellFormed.step {label : Label τ} (formed : WellFormed egress)
    (stepped : egress.step label = some later) : WellFormed later := by
  cases label with
  | call thread request =>
      rw [Egress.step] at stepped
      split at stepped
      · split at stepped
        · rename_i bounded
          cases stepped
          refine ⟨formed.acks, formed.started, ?_⟩
          intro other frame built
          simp only [setSender] at built
          split at built
          · cases built
            exact ⟨rfl, bounded⟩
          · exact formed.built other frame built
        · cases stepped
          exact formed
      · cases stepped
  | writeHeader thread =>
      rw [Egress.step] at stepped
      split at stepped
      · rename_i frame built
        cases stepped
        have none : ∀ other : Frame, (if frame.payload = [] then
            Sender.payloadWritten else .headerWritten frame) ≠
              .headerBuilt other := by
          intro other
          split <;> simp
        let data : Transmission := { ack := false, frame }
        have isData : ¬data.ack = true := Bool.false_ne_true
        obtain ⟨acks, frames⟩ := formed.start
          (fun acked => absurd acked isData) (formed.built thread frame built)
        exact formed.move none acks frames rfl rfl
      · cases stepped
  | writePayload thread =>
      rw [Egress.step] at stepped
      split at stepped
      · cases stepped
        exact formed.move (by simp) formed.acks formed.started rfl rfl
      · cases stepped
  | storeSequence thread =>
      rw [Egress.step] at stepped
      split at stepped
      · cases stepped
        exact formed.move (by simp) formed.acks formed.started rfl rfl
      · cases stepped
  | sendAck type sequenceNumber error =>
      cases stepped
      let ack : Transmission :=
        { ack := true, frame := ackFrame type sequenceNumber error }
      have shape : Formed ack.frame := ⟨rfl, Nat.zero_le _⟩
      obtain ⟨acks, frames⟩ := formed.start (fun _ => rfl) shape
      exact ⟨acks, frames, formed.built⟩

end Egress

namespace HciBridge

open Egress HciEvents

variable {τ : Type}

/-- The packets among frames of the wire. -/
def packetsOf (frames : List (SerialHeader × List UInt8)) :
    List (List UInt8) :=
  (frames.filter fun frame =>
    frame.1.length.val != 0 && frame.1.type == .hci).map (·.2)

theorem packetsOf_append (first second : List (SerialHeader × List UInt8)) :
    packetsOf (first ++ second) = packetsOf first ++ packetsOf second := by
  simp [packetsOf]

theorem packetsOf_accepted (accepted : List Bus.Accepted) :
    packetsOf (accepted.map Bus.Accepted.frame) =
      (accepted.filter HciHost.isHci).map (·.payload) := by
  rw [packetsOf, List.filter_map, List.map_map]
  rfl

/-- What the driver is called with are packets. -/
theorem handed_sublist (accepted : List Bus.Accepted) :
    ((accepted.filter HciHost.handed).map (·.payload)).Sublist
      (packetsOf (accepted.map Bus.Accepted.frame)) := by
  rw [packetsOf_accepted]
  refine List.Sublist.map _ (List.monotone_filter_right accepted ?_)
  intro frame handed
  simp only [HciHost.handed, Bus.Accepted.lookedUp, Bool.and_eq_true] at handed
  simp only [HciHost.isHci, Bool.and_eq_true]
  exact ⟨handed.1.1.1, handed.2⟩

/-- The host lets every HCI frame of the device pass. -/
theorem validates_hci {frame : Frame} (formed : Formed frame)
    (typed : frame.header.type = .hci) :
    (busValidateRx frame.header).isOk = true := by
  have short : ¬frame.header.length.val > serialMaxPayloadLen := by
    rw [frame.length_eq]
    exact Nat.not_lt.mpr formed.2
  simp [busValidateRx, formed.1, typed, SerialType.known, short, Except.isOk,
    Except.toBool]

/-- An answer of the HCI type is no packet, and every frame of a packet is. -/
theorem packetsOf_single {transmission : Transmission}
    (formed : Formed transmission.frame)
    (acks : transmission.ack = true → transmission.frame.payload = [])
    (packet : transmission.ack = false →
      transmission.frame.header.type = .hci →
        transmission.frame.payload ≠ []) :
    packetsOf (Reassembly.validFrames [transmission.frame]) =
      hciPayloads [transmission] := by
  obtain ⟨ack, frame⟩ := transmission
  have filled := frame.length_eq
  by_cases typed : frame.header.type = .hci
  · have valid := validates_hci formed typed
    cases ack with
    | true =>
        have empty : frame.header.length.val = 0 := by
          rw [filled, acks rfl]
          rfl
        simp [packetsOf, Reassembly.validFrames, valid, empty, hciPayloads,
          dataFrames]
    | false =>
        have nonempty : frame.header.length.val ≠ 0 := by
          rw [filled]
          exact mt List.length_eq_zero_iff.mp (packet rfl typed)
        simp [packetsOf, Reassembly.validFrames, valid, nonempty, typed,
          hciPayloads, dataFrames]
  · cases ack <;>
      simp [packetsOf, Reassembly.validFrames, typed, hciPayloads,
        dataFrames]

theorem hciPayloads_append (first second : List Transmission) :
    hciPayloads (first ++ second) =
      hciPayloads first ++ hciPayloads second := by
  simp only [hciPayloads, dataFrames, List.filter_append, List.map_append]

theorem validFrames_append (first second : List Frame) :
    Reassembly.validFrames (first ++ second) =
      Reassembly.validFrames first ++ Reassembly.validFrames second := by
  simp only [Reassembly.validFrames, List.filter_append, List.map_append]

/-- The packets that the host finds on the wire are those that the device has
sent. -/
theorem packetsOf_started {started : List Transmission}
    (formed : ∀ transmission ∈ started, Formed transmission.frame)
    (acks : ∀ transmission ∈ started, transmission.ack = true →
      transmission.frame.payload = [])
    (packets : ∀ packet ∈ hciPayloads started, packet ≠ []) :
    packetsOf (Reassembly.validFrames (started.map (·.frame))) =
      hciPayloads started := by
  induction started with
  | nil => rfl
  | cons first rest induction =>
      have parts : hciPayloads (first :: rest) =
          hciPayloads [first] ++ hciPayloads rest :=
        hciPayloads_append [first] rest
      rw [parts] at packets ⊢
      rw [List.map_cons, ← List.singleton_append, validFrames_append,
        packetsOf_append, packetsOf_single
        (formed first List.mem_cons_self) (acks first List.mem_cons_self),
        induction]
      · intro transmission member
        exact formed transmission (List.mem_cons_of_mem first member)
      · intro transmission member
        exact acks transmission (List.mem_cons_of_mem first member)
      · intro packet member
        exact packets packet (List.mem_append_right _ member)
      · intro data typed
        refine packets _ (List.mem_append_left _ ?_)
        simp [hciPayloads, dataFrames, data, typed]

variable [DecidableEq τ] {hci : τ}

/-- A step of the device that meets no other sender on its way. -/
def Uncontended (events : HciEvents τ) : HciEvents.Label τ → Prop
  | .serialMuxSend => ∀ thread, events.egress.sender thread = .outside
  | .egress label => Egress.Uncontended events.egress label
  | _ => True

/-- What holds of the device. -/
structure Sound (hci : τ) (events : HciEvents τ) : Prop where
  inOrder : InOrder hci events
  orderly : Orderly events.egress
  wellFormed : WellFormed events.egress

theorem initial_sound : Sound hci (HciEvents.initial : HciEvents τ) :=
  ⟨initial_inOrder, initial_orderly, initial_wellFormed⟩

theorem Sound.step {events later : HciEvents τ} {label : HciEvents.Label τ}
    (sound : Sound hci events) (uncontended : Uncontended events label)
    (stepped : events.step hci label = some later) : Sound hci later := by
  have inOrder := sound.inOrder.step stepped
  cases label with
  | queue packet =>
      cases stepped
      exact ⟨inOrder, sound.orderly, sound.wellFormed⟩
  | kFifoGet =>
      rw [HciEvents.step] at stepped
      split at stepped
      · cases stepped
        exact ⟨inOrder, sound.orderly, sound.wellFormed⟩
      · cases stepped
  | serialMuxSend =>
      rw [HciEvents.step] at stepped
      split at stepped
      · rename_i packet _
        obtain ⟨egress, called, rfl⟩ := Option.map_eq_some_iff.mp stepped
        have alone : Egress.Uncontended events.egress
            (.call hci (request packet)) := uncontended
        exact ⟨inOrder, step_orderly sound.orderly alone called,
          sound.wellFormed.step called⟩
      · cases stepped
  | netBufUnref =>
      rw [HciEvents.step] at stepped
      split at stepped
      · cases stepped
        exact ⟨inOrder, sound.orderly, sound.wellFormed⟩
      · cases stepped
  | egress label =>
      rw [HciEvents.step] at stepped
      split at stepped
      · obtain ⟨egress, moved, rfl⟩ := Option.map_eq_some_iff.mp stepped
        exact ⟨inOrder, step_orderly sound.orderly uncontended moved,
          sound.wellFormed.step moved⟩
      · cases stepped

/-- With no payload outstanding, the wire carries whole frames. -/
theorem whole_of_orderly {egress : Egress τ} (orderly : Orderly egress)
    (complete : ∀ thread frame, egress.sender thread ≠ .headerWritten frame) :
    Whole egress := by
  rcases orderly.frameAtomic.stream with whole |
    ⟨_, frame, thread, -, held, -⟩
  · exact whole
  · exact absurd held (complete thread frame)

/-- A host that has not read anything of the wire yet. -/
structure Fresh (host : HciHost) (wire : List UInt8) : Prop where
  boundary : host.reassembly.bus.state = .type
  fifo : host.reassembly.bus.rxFifo = []
  idle : host.reassembly.bus.rxWorkPending = false
  line : host.reassembly.line = wire
  accepted : host.reassembly.accepted = []
  received : host.driver.received = []

section Received

variable {events : HciEvents τ} {host final : HciHost}
  {labels : List HciHost.Label}

theorem Fresh.ready (fresh : Fresh host events.egress.wire)
    (sound : Sound hci events) (whole : Whole events.egress) :
    Reassembly.Ready host.reassembly
      (events.egress.started.map (·.frame)) where
  boundary := fresh.boundary
  fifo := fresh.fifo
  idle := fresh.idle
  line := fresh.line.trans whole
  bounded := by
    intro frame member
    obtain ⟨transmission, among, rfl⟩ := List.mem_map.mp member
    exact (sound.wellFormed.started transmission among).2
  fresh := fresh.accepted

/-- The packets that the host has accepted and those to come are the ones that
the device has sent. -/
theorem packets_of_progress (sound : Sound hci events)
    (packets : ∀ packet ∈ events.delivered, packet ≠ [])
    {start reassembly : Reassembly}
    (progress : Reassembly.Progress start
      (events.egress.started.map (·.frame)) reassembly) :
    ∃ left, Reassembly.Parsing reassembly.bus reassembly.line left ∧
      packetsOf (reassembly.accepted.map Bus.Accepted.frame) ++
        packetsOf (Reassembly.validFrames left) =
          hciPayloads events.egress.started := by
  obtain ⟨left, parsing, -, rest⟩ := progress.rest
  refine ⟨left, parsing, ?_⟩
  rw [← packetsOf_append, rest]
  refine packetsOf_started sound.wellFormed.started sound.wellFormed.acks ?_
  intro packet member
  exact packets packet (List.mem_of_mem_filter
    (sound.inOrder.forwarded.ordered.subset member))

end Received

/-- The driver is open, and nobody waits for a response. -/
structure Listening (host : HciHost) : Prop where
  btRecv : host.driver.btRecv = true
  handler : host.reassembly.bus.handler .hci = true
  idle : host.reassembly.bus.requestPending = false

/-- An answer, and then an event. -/
def oneEvent : List (HciEvents.Label Bool) :=
  [.egress (.sendAck .hci 0 .noError), .queue [4, 14, 1, 0], .kFifoGet,
    .serialMuxSend, .egress (.writeHeader true), .egress (.writePayload true),
    .egress (.storeSequence true), .netBufUnref]

/-- An open driver before the bytes of `wire`. -/
def beforeWire (wire : List UInt8) : HciHost where
  reassembly :=
    { bus := Bus.inUse
      line := wire
      accepted := [] }
  driver :=
    { btRecv := true
      received := []
      overrun := false }

/-- `bt_buf_get_rx` puts the type of the packet in the buffer. -/
def typedBuffer (h4Type : UInt8) : Option RxBuffer :=
  some { contents := [h4Type], tailroom := 255 }

/-- The event arrives in two pieces. -/
def inPieces : List HciHost.Label :=
  [.receive (.arrive 6) typedBuffer, .receive .busRxIsr typedBuffer,
    .receive .busRxWork typedBuffer, .receive .busRxIsr typedBuffer,
    .receive (.arrive 20) typedBuffer, .receive .busRxIsr typedBuffer,
    .receive .busRxWork typedBuffer]

theorem oneEvent_run :
    ∃ events : HciEvents Bool,
      Run.GuardedRun (HciEvents.step true) Uncontended HciEvents.initial
        oneEvent events ∧
      (∀ thread, events.egress.sender thread = .outside) ∧
      events.delivered = [[4, 14, 1, 0]] ∧ events.thread = .waiting ∧
      events.hciRawRxFifo = [] ∧
      events.egress.wire = [35, 0, 0, 0, 35, 0, 0, 4, 4, 14, 1, 0] := by
  refine ⟨_, .cons ?_ rfl (.cons trivial rfl (.cons trivial rfl (.cons ?_ rfl
    (.cons trivial rfl (.cons trivial rfl (.cons trivial rfl (.cons trivial
      rfl (.nil _)))))))), ?_, rfl, rfl, rfl, rfl⟩
  · intro thread frame outside
    cases outside
  · intro thread
    rfl
  · intro thread
    cases thread <;> rfl

end HciBridge

end SerialLink
