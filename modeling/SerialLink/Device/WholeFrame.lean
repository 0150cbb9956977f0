import SerialLink.Device.Payload

/-!
# A frame that is whole in the FIFO

The first iteration of the handler's loop takes the whole payload of such a
frame.  The header keeps its length, so the loop is then entered again with
whatever stands behind the frame.
-/

namespace SerialLink

namespace Device

variable {build : Build} {client : Client} {frameType : SerialType}
  {frame : Frame} {rest : List UInt8} {device later : Device}

/-- What no step of a client's loop takes back. -/
structure Advances (device later : Device) : Prop where
  fifo : later.rxFifo.length ≤ device.rxFifo.length
  stray : device.stray = true → later.stray = true

namespace Advances

theorem refl (device : Device) : Advances device device :=
  ⟨Nat.le_refl _, id⟩

theorem trans {first second third : Device} (left : Advances first second)
    (right : Advances second third) : Advances first third :=
  ⟨Nat.le_trans right.fifo left.fifo, fun stray => right.stray (left.stray stray)⟩

end Advances

theorem loaded_advances (build : Build) (client : Client)
    (base : Option Nat) (count : Nat) (device : Device) :
    Advances device
      (device.loaded build client base (device.rxFifo.take count)
        (device.rxFifo.drop count)) := by
  constructor
  case fifo => simp
  case stray =>
    intro stray
    cases base <;> simp [loaded, storePayload, stray]

theorem clientStep_advances (missing : device.payloadMissing = true) :
    Advances device (device.clientStep build client frameType).state := by
  have taken := fun base => loaded_advances build client base
    (device.serialHeader.length.val - device.bytesRead) device
  rcases device.clientStep_cases build client frameType missing with
    refused | same | ⟨base, -, completed | extended⟩
  · rw [refused]
    exact ⟨Nat.le_refl _, id⟩
  · rw [same]
    exact .refl device
  · rw [completed]
    exact (taken base).trans
      ⟨by simp [Loop.Outcome.state], by simp [Loop.Outcome.state]⟩
  · rw [extended]
    exact (taken base).trans ⟨Nat.le_refl _, id⟩

/-- What a client's loop has consumed or damaged stays so to its end. -/
theorem returns_advances
    (returns : Loop.Returns payloadMissing
      (clientStep build client frameType) device later) :
    Advances device later := by
  obtain ⟨fuel, result⟩ := returns
  refine Loop.iterate_preserves (Advances device) ?_ (.refl device) result
  intro middle before missing
  exact before.trans (clientStep_advances missing)

/-- The device when the handler of a frame starts, with `rest` behind it. -/
def handling (frame : Frame) (rest : List UInt8) (device : Device) : Device :=
  (device.payloadExpected frame.header (frame.payload ++ rest)).takeWork

section Handling

variable (frame : Frame) (rest : List UInt8) (device : Device)

@[simp] theorem handling_rxFifo :
    (device.handling frame rest).rxFifo = frame.payload ++ rest := rfl

@[simp] theorem handling_rxError :
    (device.handling frame rest).rxError = device.rxError := rfl

@[simp] theorem handling_serialHeader :
    (device.handling frame rest).serialHeader = frame.header := rfl

@[simp] theorem handling_bytesRead :
    (device.handling frame rest).bytesRead = 0 := rfl

@[simp] theorem handling_rxSequenceNumber :
    (device.handling frame rest).rxSequenceNumber =
      device.rxSequenceNumber := rfl

@[simp] theorem handling_workPending :
    (device.handling frame rest).workPending = false := rfl

@[simp] theorem handling_clients :
    (device.handling frame rest).clients = device.clients := rfl

@[simp] theorem handling_stray :
    (device.handling frame rest).stray = device.stray := rfl

@[simp] theorem handling_trace :
    (device.handling frame rest).trace =
      device.trace ++ [.typeByte device.consumed] := rfl

end Handling

/-- A frame whole at the head of the FIFO: the receive event is the loop of
its client. -/
theorem serves_iff_of_frame (atType : device.parsingState = .type)
    (healthy : device.rxError = false)
    (fifo : device.rxFifo = frame.encode ++ rest)
    (positive : 0 < frame.payload.length)
    (bounded : frame.payload.length ≤ serialMaxPayloadLen)
    (callbacks : serialMuxGetCallbacks build frame.header.type = some client) :
    Serves build device later ↔
      Loop.Returns payloadMissing (clientStep build client frame.header.type)
        (device.handling frame rest) later := by
  rw [← frame.length_eq] at positive bounded
  have arranged : device.rxFifo =
      frame.header.encode ++ (frame.payload ++ rest) := by
    rw [fifo, Frame.encode, List.append_assoc]
  have queued := uartIrqCallback_of_header device frame.header
    (frame.payload ++ rest) atType healthy arranged positive bounded
  exact serves_iff_of_queued queued callbacks

theorem handling_missing (positive : 0 < frame.payload.length) :
    (device.handling frame rest).payloadMissing = true := by
  rw [← frame.length_eq] at positive
  exact decide_eq_true positive

/-- The device after the iteration that reads a whole payload into the buffer
at `base`. -/
def completed (build : Build) (client : Client) (base : Option Nat)
    (frame : Frame) (rest : List UInt8) (device : Device) : Device :=
  (((device.handling frame rest).loaded build client base frame.payload
    rest).completeFrame build client frame.header.type).resetParser

theorem clientStep_of_whole {base : Option Nat}
    (healthy : device.rxError = false)
    (positive : 0 < frame.payload.length)
    (granted : client.acquireBuffer build (device.clients client)
      frame.payload.length = .granted base) :
    (device.handling frame rest).clientStep build client frame.header.type =
      .next (device.completed build client base frame rest) := by
  have count : (device.handling frame rest).serialHeader.length.val -
      (device.handling frame rest).bytesRead = frame.payload.length := by
    rw [← frame.length_eq]
    rfl
  have stepped := (device.handling frame rest).clientStep_of_granted
    frame.header.type base frame.payload rest healthy (by rw [count]; exact granted)
    (by rw [count]; exact List.take_left)
    (by rw [count]; exact List.drop_left)
    (List.length_pos_iff.mp positive)
  rw [stepped, if_pos]
  · rfl
  · rw [← frame.length_eq]
    simp

/-- A frame with a payload, whole at the head of the FIFO. -/
structure FrameAtHead (build : Build) (client : Client) (frame : Frame)
    (rest : List UInt8) (device : Device) : Prop where
  atType : device.parsingState = .type
  healthy : device.rxError = false
  fifo : device.rxFifo = frame.encode ++ rest
  callbacks : serialMuxGetCallbacks build frame.header.type = some client
  positive : 0 < frame.payload.length
  bounded : frame.payload.length ≤ serialMaxPayloadLen

namespace FrameAtHead

variable (head : FrameAtHead build client frame rest device)

include head

theorem serves_iff :
    Serves build device later ↔
      Loop.Returns payloadMissing (clientStep build client frame.header.type)
        (device.handling frame rest) later :=
  serves_iff_of_frame head.atType head.healthy head.fifo head.positive
    head.bounded head.callbacks

theorem refused_iff
    (refused : client.acquireBuffer build (device.clients client)
      frame.payload.length = .refused) :
    Serves build device later ↔
      later = (device.handling frame rest).refuseFrame frame.header.type := by
  rw [head.serves_iff]
  apply Loop.returns_stop_iff (handling_missing head.positive)
  apply clientStep_of_refused
  rw [← frame.length_eq] at refused
  exact refused

theorem granted_iff {base : Option Nat}
    (granted : client.acquireBuffer build (device.clients client)
      frame.payload.length = .granted base) :
    Serves build device later ↔
      Loop.Returns payloadMissing (clientStep build client frame.header.type)
        (device.completed build client base frame rest) later := by
  rw [head.serves_iff]
  exact Loop.returns_next_iff (handling_missing head.positive)
    (clientStep_of_whole head.healthy head.positive granted)

end FrameAtHead

/-- The client's state when `message_complete` is called for a frame stored at
`offset`. -/
def deliveredState (client : Client) (offset : Nat) (frame : Frame)
    (device : Device) : ClientState :=
  client.commitData
    { device.clients client with
      buffer := Region.store (device.clients client).buffer offset
        frame.payload }
    frame.payload.length

section Completed

variable (build client) (base : Option Nat) (offset : Nat) (frame : Frame)
  (rest : List UInt8) (device)

@[simp] theorem completed_rxFifo :
    (device.completed build client base frame rest).rxFifo = rest := by
  simp [completed]

@[simp] theorem completed_rxError :
    (device.completed build client base frame rest).rxError =
      device.rxError := by
  simp [completed]

@[simp] theorem completed_serialHeader :
    (device.completed build client base frame rest).serialHeader =
      frame.header := by
  simp [completed]

@[simp] theorem completed_bytesRead :
    (device.completed build client base frame rest).bytesRead = 0 := rfl

@[simp] theorem completed_parsingState :
    (device.completed build client base frame rest).parsingState = .type := rfl

/-- A client that leaves the pointer unset has the payload stored nowhere. -/
theorem completed_stray_of_none :
    (device.completed build client none frame rest).stray = true := by
  simp [completed, loaded, storePayload]

theorem completed_stray :
    (device.completed build client (some offset) frame rest).stray =
      (device.stray ||
        decide (client.capacity build < offset + frame.payload.length)) := by
  rw [completed, resetParser_stray, completeFrame_stray, loaded_stray]
  rfl

theorem completed_clients_other {other : Client} (different : other ≠ client) :
    (device.completed build client base frame rest).clients other =
      device.clients other := by
  simp only [completed, resetParser_clients]
  rw [completeFrame_clients_other build client _ _ different]
  cases base with
  | none => rfl
  | some offset =>
      simp [loaded, storePayload, setClient, different]

/-- The loop is entered again, with the header of the frame just completed. -/
theorem completed_missing (positive : 0 < frame.payload.length) :
    (device.completed build client base frame rest).payloadMissing = true := by
  rw [← frame.length_eq] at positive
  simpa [payloadMissing] using positive

variable {frame device}

section Unexpected

variable
  (unexpected : ¬frame.header.sequenceNumber.val = device.rxSequenceNumber)

include unexpected

theorem completed_completions_of_unexpected :
    completions (device.completed build client base frame rest).trace =
      completions device.trace := by
  have called := completeFrame_completions_of_unexpected build client
    frame.header.type
    ((device.handling frame rest).loaded build client base frame.payload rest)
    (by simpa [eq_comm] using unexpected)
  rw [completed, resetParser_trace, called]
  simp

/-- The payload stays in the buffer, but is not counted. -/
theorem completed_clients_of_unexpected :
    (device.completed build client (some offset) frame rest).clients client =
      { device.clients client with
        buffer := Region.store (device.clients client).buffer offset
          frame.payload } := by
  have told := completeFrame_clients_of_unexpected build client
    frame.header.type
    ((device.handling frame rest).loaded build client (some offset)
      frame.payload rest)
    (by simpa [eq_comm] using unexpected)
  rw [completed, resetParser_clients, told]
  simp

end Unexpected

variable
  (expected : frame.header.sequenceNumber.val = device.rxSequenceNumber)

include expected

theorem completed_completions :
    completions
        (device.completed build client (some offset) frame rest).trace =
      completions device.trace ++
        [(client, frame.payload.length,
          deliveredState client offset frame device)] := by
  have called := completeFrame_completions build client frame.header.type
    ((device.handling frame rest).loaded build client (some offset)
      frame.payload rest) expected.symm
  rw [completed, resetParser_trace, called]
  simp [frame.length_eq, deliveredState]

theorem completed_clients :
    (device.completed build client (some offset) frame rest).clients client =
      client.messageComplete build
        (deliveredState client offset frame device) := by
  have told := completeFrame_clients build client frame.header.type
    ((device.handling frame rest).loaded build client (some offset)
      frame.payload rest) expected.symm
  rw [completed, resetParser_clients, told]
  simp [frame.length_eq, deliveredState]

theorem completed_rxSequenceNumber :
    (device.completed build client (some offset) frame
      rest).rxSequenceNumber = seqNext device.rxSequenceNumber :=
  completeFrame_rxSequenceNumber build client frame.header.type
    ((device.handling frame rest).loaded build client (some offset)
      frame.payload rest) expected.symm

end Completed

end Device

end SerialLink
