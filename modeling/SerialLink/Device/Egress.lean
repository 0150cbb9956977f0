import SerialLink.Library.Run
import SerialLink.Device.Receiver

/-!
# Concurrent transmission

`serial_send_frame` writes the header and the payload of a frame in two calls
of `serial_data_tx`, each of which takes `serial_tx_mutex`, and reads and
stores the sequence number outside of it.  The management threads, the event
notifications and the HCI thread may be inside it at the same time, and the
receiver writes its answers with one call of `serial_data_tx`.

The threads are the elements of an arbitrary type.  A write is one step, the
FIFO accepting all its bytes.
-/

namespace SerialLink

/-- The arguments of `serial_send_frame`. -/
structure Request where
  type : SerialType
  error : ErrorType
  noAck : Bool
  payload : List UInt8

/-- The frame a request becomes with the sequence number read for it. -/
def Request.frame (request : Request) (sequenceNumber : Nat)
    (bounded : request.payload.length ≤ serialMaxPayloadLen) : Frame where
  header := Device.frameHeader request.type request.error request.noAck
    sequenceNumber request.payload.length
  payload := request.payload
  length_eq := by
    unfold serialMaxPayloadLen at bounded
    exact Nat.mod_eq_of_lt (by omega)

/-- The frame written by `send_ack`. -/
def ackFrame (type : SerialType) (sequenceNumber : Nat)
    (error : ErrorType) : Frame where
  header := Device.ackHeader type sequenceNumber error
  payload := []
  length_eq := rfl

/-- Where a thread stands in `serial_send_frame`. -/
inductive Sender where
  | outside
  /-- The header has been built with the sequence number read. -/
  | headerBuilt (frame : Frame)
  | headerWritten (frame : Frame)
  | payloadWritten

/-- A frame whose header has been written, by a sender or by `send_ack`. -/
structure Transmission where
  ack : Bool
  frame : Frame

/-- The wire, the shared counter and the threads.  `started` lists the frames
in the order of their headers and is read by no step. -/
structure Egress (τ : Type) where
  wire : List UInt8
  txSequenceNumber : Nat
  sender : τ → Sender
  started : List Transmission

namespace Egress

variable {τ : Type} [DecidableEq τ]

inductive Label (τ : Type) where
  /-- `serial_send_frame` is called and reads `tx_sequence_number`. -/
  | call (thread : τ) (request : Request)
  | writeHeader (thread : τ)
  | writePayload (thread : τ)
  | storeSequence (thread : τ)
  /-- `send_ack` -/
  | sendAck (type : SerialType) (sequenceNumber : Nat) (error : ErrorType)

def setSender (egress : Egress τ) (thread : τ) (sender : Sender) : Egress τ :=
  { egress with
    sender := fun other => if other = thread then sender
      else egress.sender other }

def write (egress : Egress τ) (bytes : List UInt8) : Egress τ :=
  { egress with wire := egress.wire ++ bytes }

def start (egress : Egress τ) (transmission : Transmission) : Egress τ :=
  { egress with started := egress.started ++ [transmission] }

def step (egress : Egress τ) : Label τ → Option (Egress τ)
  | .call thread request =>
      match egress.sender thread with
      | .outside =>
          if bounded : request.payload.length ≤ serialMaxPayloadLen then
            some (egress.setSender thread
              (.headerBuilt (request.frame egress.txSequenceNumber bounded)))
          else some egress
      | _ => none
  | .writeHeader thread =>
      match egress.sender thread with
      | .headerBuilt frame =>
          let egress := (egress.write frame.header.encode).start
            { ack := false, frame }
          some (egress.setSender thread
            (if frame.payload = [] then .payloadWritten
              else .headerWritten frame))
      | _ => none
  | .writePayload thread =>
      match egress.sender thread with
      | .headerWritten frame =>
          some ((egress.write frame.payload).setSender thread .payloadWritten)
      | _ => none
  | .storeSequence thread =>
      match egress.sender thread with
      | .payloadWritten =>
          some
            { egress.setSender thread .outside with
              txSequenceNumber := seqNext egress.txSequenceNumber }
      | _ => none
  | .sendAck type sequenceNumber error =>
      let frame := ackFrame type sequenceNumber error
      some ((egress.write frame.header.encode).start { ack := true, frame })

/-- After `initialize_uart`, no thread inside `serial_send_frame`. -/
def initial : Egress τ where
  wire := []
  txSequenceNumber := 0
  sender := fun _ => .outside
  started := []

/-- The frames sent by `serial_send_frame`. -/
def dataFrames (started : List Transmission) : List Frame :=
  (started.filter (!·.ack)).map (·.frame)

@[simp] theorem dataFrames_data (started : List Transmission)
    (frame : Frame) :
    dataFrames (started ++ [{ ack := false, frame }]) =
      dataFrames started ++ [frame] := by
  simp [dataFrames]

@[simp] theorem dataFrames_ack (started : List Transmission)
    (frame : Frame) :
    dataFrames (started ++ [{ ack := true, frame }]) =
      dataFrames started := by
  simp [dataFrames]

/-- The wire carries whole frames, but for the payload of the last one if a
thread is about to write it, and the sequence numbers of the frames that are
not answers are consecutive. -/
structure FrameAtomic (egress : Egress τ) : Prop where
  stream :
    egress.wire = Frame.encodeAll (egress.started.map (·.frame)) ∨
      ∃ complete frame thread,
        egress.started = complete ++ [{ ack := false, frame }] ∧
        egress.sender thread = .headerWritten frame ∧
        egress.wire = Frame.encodeAll (complete.map (·.frame)) ++
          frame.header.encode
  consecutive : Consecutive 0 (dataFrames egress.started)

/-- A step that meets no other sender on its way: the sequence number is read
while no thread is inside `serial_send_frame`, and an answer is not written
between a header and its payload. -/
def Uncontended (egress : Egress τ) : Label τ → Prop
  | .call _ _ => ∀ thread, egress.sender thread = .outside
  | .sendAck _ _ _ => ∀ thread frame,
      egress.sender thread ≠ .headerWritten frame
  | _ => True

/-- The bytes of the frames started so far are all on the wire. -/
def Whole (egress : Egress τ) : Prop :=
  egress.wire = Frame.encodeAll (egress.started.map (·.frame))

/-- Every thread but one is outside `serial_send_frame`. -/
def Only (thread : τ) (sender : Sender) (egress : Egress τ) : Prop :=
  egress.sender = fun other => if other = thread then sender else .outside

/-- The number the next frame would have to carry. -/
def expected (egress : Egress τ) : Nat :=
  expectedAfter 0 (dataFrames egress.started)

/-- The phases of a run without contention. -/
inductive Phase (egress : Egress τ) : Prop where
  | quiet (outside : egress.sender = fun _ => .outside)
      (whole : Whole egress)
      (counted : egress.expected = egress.txSequenceNumber)
  | built (thread : τ) (frame : Frame)
      (only : Only thread (.headerBuilt frame) egress)
      (whole : Whole egress)
      (counted : egress.expected = egress.txSequenceNumber)
      (numbered : frame.header.sequenceNumber.val = egress.txSequenceNumber)
  | halfWritten (thread : τ) (frame : Frame) (complete : List Transmission)
      (only : Only thread (.headerWritten frame) egress)
      (started : egress.started = complete ++ [{ ack := false, frame }])
      (wire : egress.wire = Frame.encodeAll (complete.map (·.frame)) ++
        frame.header.encode)
      (counted : egress.expected = seqNext egress.txSequenceNumber)
  | written (thread : τ)
      (only : Only thread .payloadWritten egress)
      (whole : Whole egress)
      (counted : egress.expected = seqNext egress.txSequenceNumber)

structure Orderly (egress : Egress τ) : Prop where
  consecutive : Consecutive 0 (dataFrames egress.started)
  bounded : egress.txSequenceNumber ≤ sequenceNumberMax
  phase : Phase egress

theorem initial_orderly : Orderly (initial : Egress τ) where
  consecutive := trivial
  bounded := Nat.zero_le _
  phase := .quiet rfl rfl rfl

theorem Orderly.frameAtomic {egress : Egress τ} (orderly : Orderly egress) :
    FrameAtomic egress := by
  refine ⟨?_, orderly.consecutive⟩
  cases orderly.phase with
  | quiet _ whole _ => exact Or.inl whole
  | built _ _ _ whole _ _ => exact Or.inl whole
  | halfWritten thread frame complete only started wire _ =>
      refine Or.inr ⟨complete, frame, thread, started, ?_, wire⟩
      rw [only]
      simp
  | written _ _ whole _ => exact Or.inl whole

variable {egress later : Egress τ} {thread other : τ} {sender : Sender}

/-- A thread inside `serial_send_frame` is the only one. -/
theorem Only.inside {state : Sender} (only : Only thread sender egress)
    (held : egress.sender other = state) (inside : state ≠ .outside) :
    other = thread ∧ state = sender := by
  rw [only] at held
  by_cases same : other = thread
  · exact ⟨same, by simpa [same] using held.symm⟩
  · simp only [same, if_false] at held
    exact absurd held.symm inside

theorem Only.self (only : Only thread sender egress) :
    egress.sender thread = sender := by
  rw [only]
  simp

theorem setSender_only (only : egress.sender = fun _ => .outside) :
    Only thread sender (egress.setSender thread sender) := by
  simp [Only, setSender, only]

theorem Only.setSender {next : Sender} (only : Only thread sender egress) :
    Only thread next (egress.setSender thread next) := by
  unfold Only Egress.setSender at *
  rw [only]
  funext other
  by_cases same : other = thread <;> simp [same]

theorem Only.setOutside (only : Only thread sender egress) :
    (egress.setSender thread .outside).sender = fun _ => .outside := by
  unfold Only Egress.setSender at *
  rw [only]
  funext other
  by_cases same : other = thread <;> simp [same]

/-- The phase is told by any thread that is inside. -/
theorem Phase.of_headerBuilt {frame : Frame} (phase : Phase egress)
    (held : egress.sender thread = .headerBuilt frame) :
    Only thread (.headerBuilt frame) egress ∧ Whole egress ∧
      egress.expected = egress.txSequenceNumber ∧
      frame.header.sequenceNumber.val = egress.txSequenceNumber := by
  cases phase with
  | quiet outside _ _ => simp [outside] at held
  | built owner built only whole counted numbered =>
      obtain ⟨rfl, same⟩ := only.inside held (by simp)
      cases same
      exact ⟨only, whole, counted, numbered⟩
  | halfWritten _ _ _ only _ _ _ => cases (only.inside held (by simp)).2
  | written _ only _ _ => cases (only.inside held (by simp)).2

theorem Phase.of_headerWritten {frame : Frame} (phase : Phase egress)
    (held : egress.sender thread = .headerWritten frame) :
    ∃ complete, Only thread (.headerWritten frame) egress ∧
      egress.started = complete ++ [{ ack := false, frame }] ∧
      egress.wire = Frame.encodeAll (complete.map (·.frame)) ++
        frame.header.encode ∧
      egress.expected = seqNext egress.txSequenceNumber := by
  cases phase with
  | quiet outside _ _ => simp [outside] at held
  | built _ _ only _ _ _ => cases (only.inside held (by simp)).2
  | halfWritten owner written complete only started wire counted =>
      obtain ⟨rfl, same⟩ := only.inside held (by simp)
      cases same
      exact ⟨complete, only, started, wire, counted⟩
  | written _ only _ _ => cases (only.inside held (by simp)).2

theorem Phase.of_payloadWritten (phase : Phase egress)
    (held : egress.sender thread = .payloadWritten) :
    Only thread .payloadWritten egress ∧ Whole egress ∧
      egress.expected = seqNext egress.txSequenceNumber := by
  cases phase with
  | quiet outside _ _ => simp [outside] at held
  | built _ _ only _ _ _ => cases (only.inside held (by simp)).2
  | halfWritten _ _ _ only _ _ _ => cases (only.inside held (by simp)).2
  | written owner only whole counted =>
      obtain ⟨rfl, -⟩ := only.inside held (by simp)
      exact ⟨only, whole, counted⟩

theorem Phase.of_outside (phase : Phase egress)
    (outside : ∀ thread, egress.sender thread = .outside) :
    Whole egress ∧ egress.expected = egress.txSequenceNumber := by
  cases phase with
  | quiet _ whole counted => exact ⟨whole, counted⟩
  | built owner _ only _ _ _ => cases (outside owner).symm.trans only.self
  | halfWritten owner _ _ only _ _ _ =>
      cases (outside owner).symm.trans only.self
  | written owner only _ _ => cases (outside owner).symm.trans only.self

/-- Reading the sequence number with no thread inside. -/
theorem Orderly.call {request : Request} (orderly : Orderly egress)
    (outside : ∀ thread, egress.sender thread = .outside)
    (stepped : egress.step (.call thread request) = some later) :
    Orderly later := by
  obtain ⟨whole, counted⟩ := orderly.phase.of_outside outside
  simp only [step, outside thread] at stepped
  split at stepped
  · next bounded =>
      simp only [Option.some.injEq] at stepped
      subst stepped
      have small := orderly.bounded
      unfold sequenceNumberMax at small
      have numbered : (request.frame egress.txSequenceNumber
          bounded).header.sequenceNumber.val = egress.txSequenceNumber :=
        Nat.mod_eq_of_lt (by omega)
      exact
        { consecutive := orderly.consecutive
          bounded := orderly.bounded
          phase := .built thread _ (setSender_only (funext outside)) whole
            counted numbered }
  · simp only [Option.some.injEq] at stepped
    exact stepped ▸ orderly

theorem Orderly.writeHeader (orderly : Orderly egress)
    (stepped : egress.step (.writeHeader thread) = some later) :
    Orderly later := by
  cases held : egress.sender thread with
  | headerBuilt frame =>
      obtain ⟨only, whole, counted, numbered⟩ :=
        orderly.phase.of_headerBuilt held
      simp only [step, held, Option.some.injEq] at stepped
      subst stepped
      have follows : frame.header.sequenceNumber.val =
          expectedAfter 0 (dataFrames egress.started) :=
        numbered.trans counted.symm
      have counts : expectedAfter 0
          (dataFrames (egress.started ++ [{ ack := false, frame }])) =
            seqNext egress.txSequenceNumber := by
        rw [dataFrames_data, expectedAfter_concat]
        exact congrArg seqNext counted
      refine
        { consecutive := ?_
          bounded := orderly.bounded
          phase := ?_ }
      · have chain := consecutive_concat orderly.consecutive follows
        rw [← dataFrames_data] at chain
        exact chain
      · split
        · next empty =>
            refine .written thread only.setSender ?_ counts
            simp only [Whole] at whole
            simp [Whole, write, start, setSender, whole, Frame.encode, empty]
        · refine .halfWritten thread frame egress.started only.setSender rfl
            ?_ counts
          exact congrArg (· ++ frame.header.encode) whole
  | outside | headerWritten _ | payloadWritten => simp [step, held] at stepped

theorem Orderly.writePayload (orderly : Orderly egress)
    (stepped : egress.step (.writePayload thread) = some later) :
    Orderly later := by
  cases held : egress.sender thread with
  | headerWritten frame =>
      obtain ⟨complete, only, started, wire, counted⟩ :=
        orderly.phase.of_headerWritten held
      simp only [step, held, Option.some.injEq] at stepped
      subst stepped
      have whole : Whole ((egress.write frame.payload).setSender thread
          .payloadWritten) := by
        simp [Whole, write, setSender, wire, started, Frame.encode]
      exact
        { consecutive := orderly.consecutive
          bounded := orderly.bounded
          phase := .written thread only.setSender whole counted }
  | outside | headerBuilt _ | payloadWritten => simp [step, held] at stepped

theorem Orderly.storeSequence (orderly : Orderly egress)
    (stepped : egress.step (.storeSequence thread) = some later) :
    Orderly later := by
  cases held : egress.sender thread with
  | payloadWritten =>
      obtain ⟨only, whole, counted⟩ := orderly.phase.of_payloadWritten held
      simp only [step, held, Option.some.injEq] at stepped
      subst stepped
      exact
        { consecutive := orderly.consecutive
          bounded := seqNext_le _
          phase := .quiet only.setOutside whole counted }
  | outside | headerBuilt _ | headerWritten _ => simp [step, held] at stepped

/-- An answer written while no payload is outstanding. -/
theorem Orderly.sendAck {type : SerialType} {sequenceNumber : Nat}
    {error : ErrorType} (orderly : Orderly egress)
    (undivided : ∀ thread frame, egress.sender thread ≠ .headerWritten frame)
    (stepped : egress.step (.sendAck type sequenceNumber error) =
      some later) :
    Orderly later := by
  simp only [step, Option.some.injEq] at stepped
  subst stepped
  have appended : Whole egress → Whole
      ((egress.write (ackFrame type sequenceNumber error).header.encode).start
        { ack := true, frame := ackFrame type sequenceNumber error }) := by
    intro whole
    simp only [Whole] at whole
    simp [Whole, write, start, whole, Frame.encode, ackFrame]
  have counts : ((egress.write
      (ackFrame type sequenceNumber error).header.encode).start
        { ack := true
          frame := ackFrame type sequenceNumber error }).expected =
            egress.expected :=
    congrArg (expectedAfter 0) (dataFrames_ack egress.started _)
  refine
    { consecutive := ?_
      bounded := orderly.bounded
      phase := ?_ }
  · have chain := orderly.consecutive
    rw [← dataFrames_ack _ (ackFrame type sequenceNumber error)] at chain
    exact chain
  · cases orderly.phase with
    | quiet outside whole counted =>
        exact .quiet outside (appended whole) (counts.trans counted)
    | built thread frame only whole counted numbered =>
        exact .built thread frame only (appended whole)
          (counts.trans counted) numbered
    | halfWritten thread frame _ only _ _ _ =>
        exact absurd only.self (undivided thread frame)
    | written thread only whole counted =>
        exact .written thread only (appended whole) (counts.trans counted)

theorem step_orderly {label : Label τ} (orderly : Orderly egress)
    (uncontended : Uncontended egress label)
    (stepped : egress.step label = some later) : Orderly later := by
  cases label with
  | call thread request => exact orderly.call uncontended stepped
  | writeHeader thread => exact orderly.writeHeader stepped
  | writePayload thread => exact orderly.writePayload stepped
  | storeSequence thread => exact orderly.storeSequence stepped
  | sendAck type sequenceNumber error =>
      exact orderly.sendAck uncontended stepped

/-- The bytes of the frames that the receiver's model records as sent. -/
def sentBytes (trace : List Event) : List UInt8 :=
  trace.flatMap fun
    | .send header payload => header.encode ++ payload
    | _ => []

/-- A thread that runs through `serial_send_frame` with nothing in between does
what the receiver's model takes for one step. -/
theorem exec_serialSendFrame {device later : Device} {request : Request}
    (agrees : egress.wire = sentBytes device.trace)
    (counts : egress.txSequenceNumber = device.txSequenceNumber)
    (outside : egress.sender thread = .outside)
    (nonempty : request.payload ≠ [])
    (sent : device.serialSendFrame request.type request.error request.noAck
      request.payload = .ok later) :
    ∃ final, Run.exec step egress
        [.call thread request, .writeHeader thread, .writePayload thread,
          .storeSequence thread] = some final ∧
      final.wire = sentBytes later.trace ∧
      final.txSequenceNumber = later.txSequenceNumber := by
  unfold Device.serialSendFrame at sent
  split at sent
  · cases sent
  · next short =>
      have bounded : request.payload.length ≤ serialMaxPayloadLen := by omega
      simp only [Except.ok.injEq] at sent
      subst sent
      simp [Run.exec, step, setSender, outside, bounded, nonempty, write,
        start, agrees, sentBytes, Device.log, Request.frame, counts]

/-- Without contention the wire carries whole, consecutively numbered frames
after every run. -/
theorem frameAtomic_of_uncontended (labels : List (Label τ))
    (final : Egress τ)
    (run : Run.GuardedRun step Uncontended initial labels final) :
    FrameAtomic final := by
  have orderly := run.preserves
    (fun _ _ _ orderly uncontended stepped =>
      step_orderly orderly uncontended stepped) initial_orderly
  exact orderly.frameAtomic

/-- A notification with one byte of payload. -/
def shortNotification : Request :=
  { type := .wifiMgmt, error := .noError, noAck := false, payload := [1] }

theorem frameAtomic_shortNotification :
    ∃ final : Egress Bool,
      Run.exec step initial
        [.sendAck .hci 0 .noError, .call true shortNotification,
          .writeHeader true, .writePayload true, .storeSequence true] =
        some final ∧ FrameAtomic final := by
  refine ⟨_, rfl, frameAtomic_of_uncontended
    [.sendAck .hci 0 .noError, .call true shortNotification,
      .writeHeader true, .writePayload true, .storeSequence true] _ ?_⟩
  refine .cons ?_ rfl (.cons ?_ rfl (.cons trivial rfl (.cons trivial rfl
    (.cons trivial rfl (.nil _)))))
  · intro thread frame
    simp [initial]
  · intro thread
    rfl

/-- An answer written between a header and its payload divides the frame. -/
theorem answer_divides_frame :
    ∃ final : Egress Bool,
      Run.exec step initial
        [.call true shortNotification, .writeHeader true,
          .sendAck .hci 0 .noError, .writePayload true,
          .storeSequence true] = some final ∧ ¬FrameAtomic final := by
  refine ⟨_, rfl, ?_⟩
  rintro ⟨whole | ⟨complete, frame, thread, -, held, -⟩, -⟩
  · exact absurd whole (by decide)
  · cases thread <;> cases held

end Egress

end SerialLink
