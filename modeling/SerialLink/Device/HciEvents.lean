import SerialLink.Device.Egress

/-!
# The events of the controller

The raw HCI channel queues the packets of the controller in `hci_raw_rx_fifo`.
`hci_event_tx_thread` takes them out one at a time, sends each with
`serial_mux_send` and releases its buffer.  The other threads send frames of
other types at the same time; see `Device.Egress`.

Whatever they do, the packets get to the wire in the order in which they were
queued, except for those that do not fit a frame.
-/

namespace SerialLink

/-- Where `hci_event_tx_thread` stands with the buffer it has. -/
inductive HciEventThread where
  /-- At `k_fifo_get`. -/
  | waiting
  | holding (packet : List UInt8)
  /-- `serial_mux_send` has been called, and the buffer is not released. -/
  | sending (packet : List UInt8)

namespace HciEventThread

/-- The buffer that the thread has. -/
def held : HciEventThread → List (List UInt8)
  | waiting => []
  | holding packet => [packet]
  | sending packet => [packet]

/-- The buffer that it has called `serial_mux_send` with. -/
def offered : HciEventThread → List (List UInt8)
  | sending packet => [packet]
  | _ => []

end HciEventThread

/-- The fifo, the thread and the transmission.  `delivered` and `released` list
the packets that have been queued and the buffers that have been released. -/
structure HciEvents (τ : Type) where
  hciRawRxFifo : List (List UInt8)
  thread : HciEventThread
  egress : Egress τ
  delivered : List (List UInt8)
  released : List (List UInt8)

namespace HciEvents

open Egress

variable {τ : Type}

inductive Label (τ : Type) where
  /-- The channel queues a packet. -/
  | queue (packet : List UInt8)
  | kFifoGet
  | serialMuxSend
  | netBufUnref
  /-- The transmission goes on, or another thread sends. -/
  | egress (label : Egress.Label τ)

/-- What `serial_mux_send` makes of a packet. -/
def request (packet : List UInt8) : Request where
  type := .hci
  error := .noError
  noAck := false
  payload := packet

/-- Nobody but the thread sends frames of the HCI type. -/
def Elsewhere (hci : τ) : Egress.Label τ → Prop
  | .call thread request => thread ≠ hci ∧ request.type ≠ .hci
  | _ => True

instance [DecidableEq τ] (hci : τ) (label : Egress.Label τ) :
    Decidable (Elsewhere hci label) :=
  match label with
  | .call thread request =>
      inferInstanceAs (Decidable (thread ≠ hci ∧ request.type ≠ .hci))
  | .writeHeader _ | .writePayload _ | .storeSequence _ | .sendAck _ _ _ =>
      isTrue trivial

variable [DecidableEq τ]

/-- `hci` is the thread. -/
def step (hci : τ) (events : HciEvents τ) : Label τ → Option (HciEvents τ)
  | .queue packet =>
      some { events with
        hciRawRxFifo := events.hciRawRxFifo ++ [packet]
        delivered := events.delivered ++ [packet] }
  | .kFifoGet =>
      match events.thread, events.hciRawRxFifo with
      | .waiting, packet :: rest =>
          some { events with
            hciRawRxFifo := rest
            thread := .holding packet }
      | _, _ => none
  | .serialMuxSend =>
      match events.thread with
      | .holding packet =>
          (events.egress.step (.call hci (request packet))).map fun egress =>
            { events with egress, thread := .sending packet }
      | _ => none
  | .netBufUnref =>
      match events.thread, events.egress.sender hci with
      | .sending packet, .outside =>
          some { events with
            thread := .waiting
            released := events.released ++ [packet] }
      | _, _ => none
  | .egress label =>
      if Elsewhere hci label then
        (events.egress.step label).map fun egress => { events with egress }
      else none

def initial : HciEvents τ where
  hciRawRxFifo := []
  thread := .waiting
  egress := .initial
  delivered := []
  released := []

/-- The packets that fit a frame. -/
def fits (packet : List UInt8) : Bool :=
  packet.length ≤ serialMaxPayloadLen

/-- The payloads of the HCI frames whose header has been written. -/
def hciPayloads (started : List Transmission) : List (List UInt8) :=
  ((dataFrames started).filter fun frame => frame.header.type = .hci).map
    (·.payload)

/-- The payload of a frame whose header is still to be written. -/
def unstarted : Sender → List (List UInt8)
  | .headerBuilt frame => [frame.payload]
  | _ => []

omit [DecidableEq τ] in
theorem hciPayloads_data (started : List Transmission) (frame : Frame) :
    hciPayloads (started ++ [{ ack := false, frame }]) =
      hciPayloads started ++
        if frame.header.type = .hci then [frame.payload] else [] := by
  unfold hciPayloads
  rw [dataFrames_data, List.filter_append, List.map_append]
  refine congrArg _ ?_
  by_cases hci : frame.header.type = .hci <;> simp [hci]

/-- The thread and the transmission fit each other, and the packets are in
their order. -/
structure InOrder (hci : τ) (events : HciEvents τ) : Prop where
  queued : events.delivered =
    events.released ++ events.thread.held ++ events.hciRawRxFifo
  sent : hciPayloads events.egress.started ++
      unstarted (events.egress.sender hci) =
    (events.released ++ events.thread.offered).filter fits
  outside : events.thread.offered = [] → events.egress.sender hci = .outside
  own : ∀ frame, events.egress.sender hci = .headerBuilt frame →
    frame.header.type = .hci
  others : ∀ thread frame, thread ≠ hci →
    events.egress.sender thread = .headerBuilt frame →
      frame.header.type ≠ .hci

variable {hci : τ} {events later : HciEvents τ}

omit [DecidableEq τ] in
theorem initial_inOrder : InOrder hci (initial : HciEvents τ) where
  queued := rfl
  sent := rfl
  outside := fun _ => rfl
  own := by
    intro frame built
    cases built
  others := by
    intro thread frame _ built
    cases built

theorem setSender_self (egress : Egress τ) (thread : τ) (sender : Sender) :
    (egress.setSender thread sender).sender thread = sender := by
  simp [setSender]

theorem setSender_other (egress : Egress τ) {thread other : τ}
    (sender : Sender) (different : other ≠ thread) :
    (egress.setSender thread sender).sender other = egress.sender other := by
  simp [setSender, different]

/-- Another thread moves, and no HCI frame is started. -/
theorem InOrder.other {egress : Egress τ} {thread : τ} {sender : Sender}
    (inOrder : InOrder hci events) (different : thread ≠ hci)
    (senders : egress.sender = (events.egress.setSender thread sender).sender)
    (started : hciPayloads egress.started =
      hciPayloads events.egress.started)
    (typed : ∀ frame, sender = .headerBuilt frame →
      frame.header.type ≠ .hci) :
    InOrder hci { events with egress } := by
  have own : egress.sender hci = events.egress.sender hci := by
    rw [senders, setSender_other _ _ (Ne.symm different)]
  refine ⟨inOrder.queued, ?_, ?_, ?_, ?_⟩
  · rw [started, own]
    exact inOrder.sent
  · rw [own]
    exact inOrder.outside
  · rw [own]
    exact inOrder.own
  · intro other frame notHci built
    by_cases same : other = thread
    · subst same
      rw [senders, setSender_self] at built
      exact typed frame built
    · rw [senders, setSender_other _ _ same] at built
      exact inOrder.others other frame notHci built

/-- The thread itself moves on in `serial_send_frame`. -/
theorem InOrder.moved {egress : Egress τ} {sender : Sender}
    (inOrder : InOrder hci events)
    (inside : events.egress.sender hci ≠ .outside)
    (senders : egress.sender = (events.egress.setSender hci sender).sender)
    (sent : hciPayloads egress.started =
      hciPayloads events.egress.started ++
        unstarted (events.egress.sender hci))
    (started : ∀ frame, sender ≠ .headerBuilt frame) :
    InOrder hci { events with egress } := by
  have own : egress.sender hci = sender := by
    rw [senders, setSender_self]
  have nothing : unstarted sender = [] := by
    cases sender with
    | headerBuilt frame => exact absurd rfl (started frame)
    | outside | headerWritten _ | payloadWritten => rfl
  refine ⟨inOrder.queued, ?_, ?_, ?_, ?_⟩
  · rw [own, nothing, List.append_nil, sent]
    exact inOrder.sent
  · intro none
    exact absurd (inOrder.outside none) inside
  · intro frame built
    rw [own] at built
    exact absurd built (started frame)
  · intro other frame notHci built
    rw [senders, setSender_other _ _ notHci] at built
    exact inOrder.others other frame notHci built

theorem InOrder.writeHeader {thread : τ} {egress : Egress τ}
    (inOrder : InOrder hci events)
    (stepped : events.egress.step (.writeHeader thread) = some egress) :
    InOrder hci { events with egress } := by
  cases built : events.egress.sender thread with
  | headerBuilt frame =>
      simp only [Egress.step, built, Option.some.injEq] at stepped
      subst stepped
      have started : ∀ other : Frame, (if frame.payload = [] then
          Sender.payloadWritten else .headerWritten frame) ≠
            .headerBuilt other := by
        intro other
        split <;> simp
      by_cases same : thread = hci
      · subst same
        refine inOrder.moved (by simp [built]) rfl ?_ started
        have typed := inOrder.own frame built
        rw [built]
        show hciPayloads (events.egress.started ++ [_]) = _
        rw [hciPayloads_data, if_pos typed]
        rfl
      · refine inOrder.other same rfl ?_ fun other built =>
          absurd built (started other)
        have typed := inOrder.others thread frame same built
        show hciPayloads (events.egress.started ++ [_]) = _
        rw [hciPayloads_data, if_neg typed, List.append_nil]
  | outside | headerWritten _ | payloadWritten =>
      simp [Egress.step, built] at stepped

theorem InOrder.writePayload {thread : τ} {egress : Egress τ}
    (inOrder : InOrder hci events)
    (stepped : events.egress.step (.writePayload thread) = some egress) :
    InOrder hci { events with egress } := by
  cases written : events.egress.sender thread with
  | headerWritten frame =>
      simp only [Egress.step, written, Option.some.injEq] at stepped
      subst stepped
      by_cases same : thread = hci
      · subst same
        refine inOrder.moved (by simp [written]) rfl ?_ (by simp)
        rw [written]
        exact (List.append_nil _).symm
      · exact inOrder.other same rfl rfl (by simp)
  | outside | headerBuilt _ | payloadWritten =>
      simp [Egress.step, written] at stepped

theorem InOrder.storeSequence {thread : τ} {egress : Egress τ}
    (inOrder : InOrder hci events)
    (stepped : events.egress.step (.storeSequence thread) = some egress) :
    InOrder hci { events with egress } := by
  cases written : events.egress.sender thread with
  | payloadWritten =>
      simp only [Egress.step, written, Option.some.injEq] at stepped
      subst stepped
      by_cases same : thread = hci
      · subst same
        refine inOrder.moved (by simp [written]) rfl ?_ (by simp)
        rw [written]
        exact (List.append_nil _).symm
      · exact inOrder.other same rfl rfl (by simp)
  | outside | headerBuilt _ | headerWritten _ =>
      simp [Egress.step, written] at stepped

/-- `serial_send_frame` is called, and refuses the payload or builds a
header. -/
theorem call_cases {egress called : Egress τ} {thread : τ}
    {request : Request}
    (stepped : egress.step (.call thread request) = some called) :
    egress.sender thread = .outside ∧
      (¬fits request.payload ∧ called = egress ∨
        fits request.payload ∧ ∃ frame : Frame,
          frame.header.type = request.type ∧
          frame.payload = request.payload ∧
          called = egress.setSender thread (.headerBuilt frame)) := by
  rw [Egress.step] at stepped
  split at stepped
  · rename_i outside
    refine ⟨outside, ?_⟩
    split at stepped
    · rename_i bounded
      cases stepped
      exact .inr ⟨by simpa [fits] using bounded, _, rfl, rfl, rfl⟩
    · rename_i long
      cases stepped
      exact .inl ⟨by simpa [fits] using long, rfl⟩
  · cases stepped

theorem InOrder.egress {label : Egress.Label τ} {egress : Egress τ}
    (inOrder : InOrder hci events) (elsewhere : Elsewhere hci label)
    (stepped : events.egress.step label = some egress) :
    InOrder hci { events with egress } := by
  cases label with
  | call thread request =>
      obtain ⟨different, typed⟩ := elsewhere
      obtain ⟨-, ⟨-, rfl⟩ | ⟨-, frame, named, -, rfl⟩⟩ := call_cases stepped
      · exact inOrder
      · refine inOrder.other different rfl rfl ?_
        intro built same
        cases same
        rw [named]
        exact typed
  | writeHeader thread => exact inOrder.writeHeader stepped
  | writePayload thread => exact inOrder.writePayload stepped
  | storeSequence thread => exact inOrder.storeSequence stepped
  | sendAck type sequenceNumber error =>
      cases stepped
      refine ⟨inOrder.queued, ?_, inOrder.outside, inOrder.own,
        inOrder.others⟩
      have same : hciPayloads (events.egress.started ++
          [{ ack := true, frame := ackFrame type sequenceNumber error }]) =
            hciPayloads events.egress.started := by
        rw [hciPayloads, dataFrames_ack]
        rfl
      refine (congrArg (· ++ _) same).trans inOrder.sent

/-- The thread calls `serial_mux_send` with the packet that it has. -/
theorem InOrder.serialMuxSend {packet : List UInt8} {egress : Egress τ}
    (inOrder : InOrder hci events) (holding : events.thread = .holding packet)
    (stepped : events.egress.step (.call hci (request packet)) =
      some egress) :
    InOrder hci { events with egress, thread := .sending packet } := by
  have queued := inOrder.queued
  have sent := inOrder.sent
  rw [holding] at queued sent
  obtain ⟨outside, refused | built⟩ := call_cases stepped
  · obtain ⟨long, rfl⟩ := refused
    refine ⟨queued, ?_, ?_, inOrder.own, inOrder.others⟩
    · have dropped : [packet].filter fits = [] := by
        simpa [request] using long
      show _ = (events.released ++ [packet]).filter fits
      rw [List.filter_append, dropped]
      simpa [HciEventThread.offered] using sent
    · intro none
      cases none
  · obtain ⟨short, frame, named, carried, rfl⟩ := built
    refine ⟨queued, ?_, ?_, ?_, ?_⟩
    · have kept : [packet].filter fits = [packet] := by
        simpa [request] using short
      show hciPayloads events.egress.started ++ unstarted
        ((events.egress.setSender hci (.headerBuilt frame)).sender hci) =
          (events.released ++ [packet]).filter fits
      rw [setSender_self, List.filter_append, kept, unstarted, carried]
      simpa [HciEventThread.offered, outside, unstarted, request] using sent
    · intro none
      cases none
    · intro other same
      simp only [setSender_self, Sender.headerBuilt.injEq] at same
      rw [← same, named]
      rfl
    · intro thread other different same
      simp only [setSender_other _ _ different] at same
      exact inOrder.others thread other different same

omit [DecidableEq τ] in
theorem InOrder.netBufUnref {packet : List UInt8}
    (inOrder : InOrder hci events) (sending : events.thread = .sending packet)
    (outside : events.egress.sender hci = .outside) :
    InOrder hci { events with
      thread := .waiting
      released := events.released ++ [packet] } := by
  have queued := inOrder.queued
  have sent := inOrder.sent
  rw [sending] at queued sent
  refine ⟨?_, ?_, fun _ => outside, inOrder.own, inOrder.others⟩
  · simpa [HciEventThread.held] using queued
  · simpa [HciEventThread.offered] using sent

theorem InOrder.step {label : Label τ} (inOrder : InOrder hci events)
    (stepped : events.step hci label = some later) : InOrder hci later := by
  cases label with
  | queue packet =>
      cases stepped
      refine ⟨?_, inOrder.sent, inOrder.outside, inOrder.own, inOrder.others⟩
      simp [inOrder.queued]
  | kFifoGet =>
      rw [HciEvents.step] at stepped
      split at stepped
      · rename_i packet rest waiting fifo
        cases stepped
        have queued := inOrder.queued
        have sent := inOrder.sent
        rw [waiting] at queued sent
        rw [fifo] at queued
        refine ⟨?_, sent, ?_, inOrder.own, inOrder.others⟩
        · simpa [HciEventThread.held] using queued
        · intro _
          exact inOrder.outside (by rw [waiting]; rfl)
      · cases stepped
  | serialMuxSend =>
      rw [HciEvents.step] at stepped
      split at stepped
      · rename_i packet holding
        obtain ⟨egress, called, rfl⟩ := Option.map_eq_some_iff.mp stepped
        exact inOrder.serialMuxSend holding called
      · cases stepped
  | netBufUnref =>
      rw [HciEvents.step] at stepped
      split at stepped
      · rename_i packet sending outside
        cases stepped
        exact inOrder.netBufUnref sending outside
      · cases stepped
  | egress label =>
      rw [HciEvents.step] at stepped
      split at stepped
      · rename_i elsewhere
        obtain ⟨egress, moved, rfl⟩ := Option.map_eq_some_iff.mp stepped
        exact inOrder.egress elsewhere moved
      · cases stepped

/-- What has become of the packets of the controller. -/
structure Forwarded (events : HciEvents τ) : Prop where
  /-- Those that fit are on the wire, from the first on. -/
  ordered : hciPayloads events.egress.started <+:
    events.delivered.filter fits
  /-- When the thread waits for another packet, all of them are. -/
  complete : events.thread = .waiting → events.hciRawRxFifo = [] →
    hciPayloads events.egress.started = events.delivered.filter fits
  /-- A buffer is released once, and those of packets that do not fit too. -/
  released : events.delivered =
    events.released ++ events.thread.held ++ events.hciRawRxFifo

omit [DecidableEq τ] in
theorem InOrder.forwarded (inOrder : InOrder hci events) :
    Forwarded events := by
  refine ⟨?_, ?_, inOrder.queued⟩
  · have offered : events.released ++ events.thread.offered <+:
        events.delivered := by
      rw [inOrder.queued, List.append_assoc, List.prefix_append_right_inj]
      cases events.thread with
      | waiting | holding _ => exact List.nil_prefix
      | sending packet => exact List.prefix_append [packet] _
    refine List.IsPrefix.trans ?_ (offered.filter fits)
    rw [← inOrder.sent]
    exact List.prefix_append _ _
  · intro waiting empty
    have sent := inOrder.sent
    have queued := inOrder.queued
    rw [inOrder.outside (by rw [waiting]; rfl)] at sent
    rw [waiting] at sent queued
    rw [empty] at queued
    simp only [unstarted, HciEventThread.offered, HciEventThread.held,
      List.append_nil] at sent queued
    rw [sent, queued]

/-- Whatever the other threads send in the meantime, no packet of the
controller that fits a frame is lost, doubled or overtaken, and no buffer is
kept. -/
theorem forwarded_of_exec (hci : τ) (labels : List (Label τ))
    (final : HciEvents τ)
    (executed : Run.exec (step hci) initial labels = some final) :
    Forwarded final :=
  InOrder.forwarded (Run.exec_preserves
    (fun _ _ _ inOrder stepped => InOrder.step inOrder stepped) executed
    initial_inOrder)

/-- Two events, the header of the first written while another thread is about
to write one. -/
def twoEvents : List (Label Bool) :=
  [.queue [4, 14, 1, 0], .kFifoGet,
    .egress (.call false shortNotification), .serialMuxSend,
    .egress (.writeHeader true), .egress (.writeHeader false),
    .queue [4, 5], .egress (.writePayload true),
    .egress (.storeSequence true), .netBufUnref, .kFifoGet, .serialMuxSend,
    .egress (.writeHeader true), .egress (.writePayload false)]

theorem twoEvents_forwarded :
    ∃ final, Run.exec (step true) initial twoEvents = some final ∧
      hciPayloads final.egress.started = [[4, 14, 1, 0], [4, 5]] ∧
      Forwarded final :=
  ⟨_, rfl, rfl, forwarded_of_exec true twoEvents _ rfl⟩

end HciEvents

end SerialLink
