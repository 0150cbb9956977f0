import SerialLink.Host.Mailbox
import SerialLink.Link.Codec
import SerialLink.Session.Recovery

/-!
# `bus_request` against `Session::request`

The receive loop of `bus.c` is said to mirror the one of `protocol.rs`.  Both
are run here on the same frames, which come one at a time after the request
has been sent and are followed by silence.  The bus drops what
`bus_validate_rx` rejects and looks at no error but
`INCORRECT_SEQUENCE_NUMBER` in a frame without a payload; the session ends at
the first frame that does not parse or carries an error.
-/

namespace SerialLink

/-- How a request ends. -/
inductive RequestOutcome where
  | response (payload : List UInt8)
  | deviceError (error : ErrorType)
  | timeout
  deriving DecidableEq, Repr

namespace Bus

/-- The thread runs until it waits or has returned. -/
def settle : Nat → Bus → Bus
  | 0, bus => bus
  | steps + 1, bus =>
      match bus.advance with
      | some later => settle steps later
      | none => bus

/-- A frame comes and the thread deals with it. -/
def hear (bus : Bus) (frame : Frame) : Bus :=
  settle 4 (bus.receive frame)

/-- Nothing more comes: the wait for `rx_sem` times out. -/
def silence (bus : Bus) : Bus :=
  match bus.expire with
  | some later => settle 1 later
  | none => bus

def outcomeOf : Result → RequestOutcome
  | .success response => .response (response.getD [])
  | .failure _ => .timeout

/-- The outcome of the request that waits in `bus`. -/
def requestOutcome (bus : Bus) (frames : List Frame) :
    Option RequestOutcome :=
  ((frames.foldl hear bus).silence.results.drop bus.results.length).head?.map
    fun (_, result) => outcomeOf result

end Bus

namespace Protocol

/-- The predicate that accepts any frame of a type. -/
def anyOf (call : SerialLink.Call) : Command where
  rtype := call.type
  payload := call.request
  matching := fun frame => frame.rtype = call.type

def outcomeOf : Except SessionError Frame → RequestOutcome
  | .ok frame => .response frame.payload
  | .error .timeout => .timeout
  | .error (.deviceError error) => .deviceError error

/-- The state of the loop of `request` once the frame has been sent. -/
def World.waiting (world : World) : Waiting where
  world := world
  retried := false
  result := none

/-- The outcome of a request that has been sent, with at most `count` frames
to come. -/
def World.requestOutcome (world : World) (call : SerialLink.Call)
    (count : Nat) :
    Option RequestOutcome := do
  let final ← Loop.iterate (fun _ => true) (Waiting.step (anyOf call))
    (count + 1) world.waiting
  let result ← final.result
  pure (outcomeOf result)

end Protocol

namespace Frame

/-- `bus_validate_rx` accepts the frame. -/
def valid (frame : Frame) : Bool :=
  frame.header.type.known && frame.header.reserved == 0 &&
    decide (frame.payload.length ≤ serialMaxPayloadLen)

/-- A valid data frame of a type. -/
def responds (type : SerialType) (frame : Frame) : Bool :=
  frame.valid && !frame.payload.isEmpty && decide (frame.header.type = type)

/-- A frame that is not passed over by both hosts. -/
def stops (type : SerialType) (frame : Frame) : Bool :=
  !frame.valid || decide (frame.header.error ≠ .noError) ||
    frame.responds type

theorem valid_iff (frame : Frame) :
    frame.valid = true ↔ busValidateRx frame.header = .ok () := by
  have limits : Protocol.maxPayloadLen = serialMaxPayloadLen := rfl
  rw [Protocol.Frame.busValidateRx_ok_iff, frame.length_eq, limits]
  simp [valid, and_assoc]

end Frame

/-- Among the frames, the first one that is rejected, carries an error or is a
data frame of the type is none, or a sound response, or a rejected frame
without any response among the frames. -/
def Agreeable (type : SerialType) (frames : List Frame) : Prop :=
  ∀ frame, frames.find? (Frame.stops type) = some frame →
    (frame.valid = true ∧ frame.header.error = .noError) ∨
      (frame.valid = false ∧
        ∀ other ∈ frames, other.responds type = false)

/-- What the bus makes of the frames. -/
def busExpects (type : SerialType) (frames : List Frame) : RequestOutcome :=
  match frames.find? (Frame.responds type) with
  | some frame => .response frame.payload
  | none => .timeout

/-- What the session makes of them. -/
def sessionExpects (type : SerialType) (frames : List Frame) :
    RequestOutcome :=
  match frames.find? (Frame.stops type) with
  | some frame =>
      if frame.valid then
        if frame.header.error ≠ .noError then
          .deviceError frame.header.error
        else .response frame.payload
      else .timeout
  | none => .timeout

section Expectations

variable {type : SerialType} {frames : List Frame} {frame : Frame}

/-- A sound frame at which the session stops is the bus's response too. -/
theorem find?_responds_of_sound
    (found : frames.find? (Frame.stops type) = some frame)
    (valid : frame.valid = true) (sound : frame.header.error = .noError) :
    frames.find? (Frame.responds type) = some frame := by
  induction frames with
  | nil => cases found
  | cons head tail induction =>
      by_cases stops : head.stops type = true
      · rw [List.find?_cons_of_pos stops] at found
        cases found
        apply List.find?_cons_of_pos
        simpa [Frame.stops, valid, sound] using stops
      · rw [List.find?_cons_of_neg stops] at found
        have passed : ¬head.responds type = true := by
          intro responds
          exact stops (by simp [Frame.stops, responds])
        rw [List.find?_cons_of_neg passed]
        exact induction found

theorem find?_responds_of_none
    (passed : frames.find? (Frame.stops type) = none) :
    frames.find? (Frame.responds type) = none := by
  rw [List.find?_eq_none] at passed ⊢
  intro other member responds
  exact passed other member (by simp [Frame.stops, responds])

theorem busExpects_eq_timeout_iff :
    busExpects type frames = .timeout ↔
      ∀ other ∈ frames, other.responds type = false := by
  unfold busExpects
  cases found : frames.find? (Frame.responds type) with
  | none =>
      rw [List.find?_eq_none] at found
      simpa using found
  | some frame =>
      have responds := List.find?_some found
      simp only [reduceCtorEq, false_iff]
      intro all
      rw [all frame (List.mem_of_find?_eq_some found)] at responds
      cases responds

/-- The two expectations are the same exactly for agreeable frames. -/
theorem expects_eq_iff :
    busExpects type frames = sessionExpects type frames ↔
      Agreeable type frames := by
  unfold sessionExpects Agreeable
  cases found : frames.find? (Frame.stops type) with
  | none => simp [busExpects, find?_responds_of_none found]
  | some frame =>
      simp only [Option.some.injEq, forall_eq']
      cases valid : frame.valid with
      | true =>
          by_cases sound : frame.header.error = .noError
          · simp [busExpects, find?_responds_of_sound found valid sound, sound]
          · simp only [if_true, ne_eq, sound, not_false_eq_true, and_false,
              reduceCtorEq, false_and, or_self, iff_false, busExpects]
            cases frames.find? (Frame.responds type) <;> simp
      | false =>
          simp only [Bool.false_eq_true, if_false, false_and, true_and,
            false_or]
          exact busExpects_eq_timeout_iff

end Expectations

namespace Bus

variable {bus later : Bus} {call : Call} {frame : Frame}
  {before : List (Call × Result)} {steps : Nat}

theorem settle_of_advance (advanced : bus.advance = some later) :
    settle (steps + 1) bus = settle steps later := by
  rw [settle, advanced]

theorem settle_of_stuck (stuck : bus.advance = none) :
    settle steps bus = bus := by
  cases steps with
  | zero => rfl
  | succ steps => rw [settle, stuck]

/-- A request waits for its response. -/
structure Waits (call : Call) (before : List (Call × Result)) (bus : Bus) :
    Prop where
  position : ∃ attempt retried, bus.thread = .requestTake call attempt retried
  empty : bus.rxSem = false
  pending : bus.requestPending = true
  results : bus.results = before

theorem Waits.stuck (waits : Waits call before bus) : bus.advance = none := by
  obtain ⟨attempt, retried, position⟩ := waits.position
  simp [advance, position, waits.empty]

theorem Waits.stays (waits : Waits call before bus) (steps : Nat) :
    Waits call before (settle steps bus) := by
  rw [settle_of_stuck waits.stuck]
  exact waits

theorem waits_of_callHandler {type : SerialType} {payload : List UInt8}
    {attempt : Nat} {retried : Bool} (empty : bus.rxSem = false)
    (pending : bus.requestPending = true) (results : bus.results = before) :
    Waits call before ((bus.callHandler type payload).moveTo
      (.requestTake call attempt retried)) :=
  ⟨⟨attempt, retried, rfl⟩, empty, pending, results⟩

/-- A frame the bus drops. -/
theorem Waits.hear_invalid (waits : Waits call before bus)
    (invalid : frame.valid = false) : Waits call before (bus.hear frame) := by
  have same := receive_sameThread bus frame
  have dropped : Waits call before (bus.receive frame) := by
    refine ⟨same.thread ▸ waits.position, ?_,
      same.requestPending.trans waits.pending,
      same.results.trans waits.results⟩
    cases receives bus frame with
    | ignored _ sem => exact sem.trans waits.empty
    | woken valid =>
        rw [← Frame.valid_iff, invalid] at valid
        cases valid
    | passedOn _ idle =>
        rw [waits.pending] at idle
        cases idle
  exact dropped.stays 4

section Valid

variable (waits : Waits call before bus) (valid : frame.valid = true)

include waits valid

/-- A frame that wakes the thread: it takes the token and reads
`last_hdr`. -/
theorem Waits.settle_woken :
    ∃ attempt retried,
      bus.hear frame = settle 2 ((bus.receive frame).takeToken.moveTo
        ((bus.receive frame).inspectAnswer call attempt retried)) ∧
      (bus.receive frame).lastHdr = frame.header := by
  obtain ⟨attempt, retried, position⟩ := waits.position
  have same := receive_sameThread bus frame
  obtain ⟨given, last⟩ :=
    receive_wakes ((Frame.valid_iff frame).mp valid) waits.pending
  refine ⟨attempt, retried, ?_, last⟩
  have took : (bus.receive frame).advance =
      some ((bus.receive frame).takeToken.moveTo
        (.requestInspect call attempt retried)) := by
    simp [advance, same.thread, position, given]
  rw [hear, settle_of_advance took]
  exact settle_of_advance rfl

theorem Waits.hear_empty (sound : frame.header.error ≠ .incorrectSequenceNumber)
    (empty : frame.payload = []) : Waits call before (bus.hear frame) := by
  obtain ⟨attempt, retried, settled, last⟩ := waits.settle_woken valid
  have same := receive_sameThread bus frame
  have zero : frame.header.length.val = 0 := by
    rw [frame.length_eq, empty]
    rfl
  have inspected : (bus.receive frame).inspectAnswer call attempt retried =
      .requestTake call attempt retried := by
    simp only [inspectAnswer, last, zero, if_true, sound, false_and, if_false]
  rw [settled, inspected]
  apply Waits.stays
  exact ⟨⟨attempt, retried, rfl⟩, rfl,
    same.requestPending.trans waits.pending, same.results.trans waits.results⟩

theorem Waits.hear_data (nonempty : frame.payload ≠ []) :
    ∃ attempt retried,
      bus.hear frame = settle 1 (((bus.receive frame).takeToken.moveTo
        (.requestFrame call attempt retried frame.header)).readFrame call
          attempt retried frame.header) := by
  obtain ⟨attempt, retried, settled, last⟩ := waits.settle_woken valid
  have positive : frame.header.length.val ≠ 0 := by
    rw [frame.length_eq]
    simpa using nonempty
  have inspected : (bus.receive frame).inspectAnswer call attempt retried =
      .requestFrame call attempt retried frame.header := by
    simp only [inspectAnswer, last, positive, if_false]
  refine ⟨attempt, retried, ?_⟩
  rw [settled, inspected]
  exact settle_of_advance rfl

/-- A data frame of another type. -/
theorem Waits.hear_other (nonempty : frame.payload ≠ [])
    (other : frame.header.type ≠ call.type) :
    Waits call before (bus.hear frame) := by
  obtain ⟨attempt, retried, settled⟩ := waits.hear_data valid nonempty
  have same := receive_sameThread bus frame
  rw [settled, readFrame, if_neg other]
  apply Waits.stays
  apply waits_of_callHandler rfl
  · exact same.requestPending.trans waits.pending
  · exact same.results.trans waits.results

/-- The response. -/
theorem Waits.hear_response (buffered : call.resp = true)
    (nonempty : frame.payload ≠ []) (same : frame.header.type = call.type) :
    (bus.hear frame).thread = .outside ∧
      (bus.hear frame).results =
        before ++ [(call, .success (some frame.payload))] := by
  obtain ⟨attempt, retried, settled⟩ := waits.hear_data valid nonempty
  have kept := receive_sameThread bus frame
  have bounded : frame.header.length.val ≤ busRxBufSize :=
    length_of_valid ((Frame.valid_iff frame).mp valid)
  have payload : (bus.receive frame).rxPayload
      (min frame.header.length.val busRxBufSize) = frame.payload := by
    rw [Nat.min_eq_left bounded, rxPayload, receive_rxBuf]
    exact rxPayload_holding bus frame
  rw [readFrame, if_pos same, settle, advance] at settled
  dsimp only [moveTo] at settled
  rw [settled, settle]
  refine ⟨rfl, ?_⟩
  show (bus.receive frame).results ++ [(call, Bus.copyResponse _ call _)] = _
  rw [kept.results, waits.results, copyResponse, if_pos buffered]
  exact congrArg (fun bytes => before ++ [(call, .success (some bytes))])
    payload

end Valid

theorem hear_outside (returned : bus.thread = .outside) :
    (bus.hear frame).thread = .outside ∧
      (bus.hear frame).results = bus.results := by
  have same := receive_sameThread bus frame
  have outside : (bus.receive frame).thread = .outside :=
    same.thread.trans returned
  have stuck : (bus.receive frame).advance = none := by
    simp [advance, outside]
  rw [hear, settle_of_stuck stuck]
  exact ⟨outside, same.results⟩

theorem foldl_hear_outside (returned : bus.thread = .outside)
    (frames : List Frame) :
    (frames.foldl hear bus).thread = .outside ∧
      (frames.foldl hear bus).results = bus.results := by
  induction frames generalizing bus with
  | nil => exact ⟨returned, rfl⟩
  | cons frame frames induction =>
      obtain ⟨outside, results⟩ := @hear_outside bus frame returned
      rw [List.foldl_cons]
      exact ⟨(induction outside).1, (induction outside).2.trans results⟩

theorem silence_outside (returned : bus.thread = .outside) :
    bus.silence = bus := by
  have expired : bus.expire = none := by simp [expire, returned]
  rw [silence, expired]

theorem Waits.silence_results (waits : Waits call before bus) :
    bus.silence.results = before ++ [(call, .failure .etimedout)] := by
  obtain ⟨attempt, retried, position⟩ := waits.position
  have expired : bus.expire =
      some (bus.moveTo (.requestReturn call (.failure .etimedout))) := by
    simp [expire, position, waits.empty]
  rw [silence, expired, ← waits.results]
  rfl

/-- The bus does what is expected of it. -/
theorem Waits.foldl_hear (waits : Waits call before bus)
    (buffered : call.resp = true) (frames : List Frame)
    (accepted : ∀ frame ∈ frames,
      frame.header.error ≠ .incorrectSequenceNumber) :
    ∃ result, (frames.foldl hear bus).silence.results =
        before ++ [(call, result)] ∧
      outcomeOf result = busExpects call.type frames := by
  induction frames generalizing bus with
  | nil => exact ⟨_, waits.silence_results, rfl⟩
  | cons frame frames induction =>
      have rest : ∀ other ∈ frames,
          other.header.error ≠ .incorrectSequenceNumber :=
        fun other member => accepted other (List.mem_cons_of_mem frame member)
      have sound := accepted frame List.mem_cons_self
      by_cases responds : frame.responds call.type = true
      · have parts := responds
        simp only [Frame.responds, Bool.and_eq_true, Bool.not_eq_true',
          decide_eq_true_eq] at parts
        obtain ⟨⟨valid, nonempty⟩, same⟩ := parts
        obtain ⟨outside, results⟩ := waits.hear_response valid buffered
          (by simpa using nonempty) same
        obtain ⟨still, kept⟩ := foldl_hear_outside outside frames
        refine ⟨.success (some frame.payload), ?_, ?_⟩
        · rw [List.foldl_cons, silence_outside still, kept, results]
        · rw [busExpects, List.find?_cons_of_pos responds]
          rfl
      · have passed : Waits call before (bus.hear frame) := by
          cases valid : frame.valid with
          | false => exact waits.hear_invalid valid
          | true =>
              by_cases empty : frame.payload = []
              · exact waits.hear_empty valid sound empty
              · apply waits.hear_other valid empty
                intro same
                exact responds (by simp [Frame.responds, valid, empty, same])
        obtain ⟨result, results, expected⟩ := induction passed rest
        refine ⟨result, results, ?_⟩
        rw [expected, busExpects, busExpects,
          List.find?_cons_of_neg responds]

theorem Waits.requestOutcome_eq (waits : Waits call before bus)
    (buffered : call.resp = true) (frames : List Frame)
    (accepted : ∀ frame ∈ frames,
      frame.header.error ≠ .incorrectSequenceNumber) :
    bus.requestOutcome frames = some (busExpects call.type frames) := by
  obtain ⟨result, results, expected⟩ :=
    waits.foldl_hear buffered frames accepted
  rw [requestOutcome, results, waits.results, List.drop_left]
  exact congrArg some expected

end Bus

namespace Protocol

namespace World

variable {world later : World} {call : SerialLink.Call}
  {frame : SerialLink.Frame} {rest : List UInt8} {count : Nat}

theorem requestOutcome_of_stop {result : Except SessionError Frame}
    (stopped : world.waiting.step (anyOf call) =
      world.waiting.finish later result) :
    world.requestOutcome call count = some (outcomeOf result) := by
  simp only [requestOutcome, Loop.iterate, if_true, stopped, Waiting.finish]
  rfl

theorem requestOutcome_of_next
    (passed : world.waiting.step (anyOf call) = .next later.waiting) :
    world.requestOutcome call (count + 1) =
      later.requestOutcome call count := by
  rw [requestOutcome, Loop.iterate]
  simp only [if_true, passed, requestOutcome]

theorem legible_of_valid (valid : frame.valid = true) : Legible frame := by
  simp only [SerialLink.Frame.valid, Bool.and_eq_true, beq_iff_eq,
    decide_eq_true_eq] at valid
  exact ⟨valid.1.1, valid.1.2, valid.2⟩

/-- A frame that `bus_validate_rx` rejects does not parse. -/
theorem parsed_of_invalid (invalid : frame.valid = false) :
    parsed frame.encode = .error .timeout := by
  unfold parsed
  cases accepted : Frame.parse frame.encode with
  | none => rfl
  | some read =>
      obtain ⟨in0, in1, in2, in3, payload, bytes, -, ok, -⟩ :=
        (Frame.parse_eq_some_iff _ _).mp accepted
      have header : busHeaderDecode in0 in1 in2 in3 = frame.header := by
        rw [SerialLink.Frame.encode, SerialHeader.encode] at bytes
        simp only [List.cons_append, List.cons.injEq] at bytes
        obtain ⟨rfl, rfl, rfl, rfl, -⟩ := bytes
        rw [busHeaderDecode_eq]
        exact SerialHeader.decode_encode frame.header
      rw [header, ← SerialLink.Frame.valid_iff, invalid] at ok
      cases ok

section Read

variable (patient : world.patience = none)
  (inbound : world.inbound = frame.encode ++ rest)

include patient inbound

theorem step_invalid (bounded : frame.payload.length ≤ maxPayloadLen)
    (invalid : frame.valid = false) :
    world.waiting.step (anyOf call) =
      world.waiting.finish { world with inbound := rest }
        (.error .timeout) := by
  have unread : world.waiting.world.readFrame =
      (.error .timeout, { world with inbound := rest }) := by
    rw [← parsed_of_invalid invalid]
    exact readFrame_parsed bounded inbound patient
  simp only [Waiting.step, unread]

section Valid

variable (valid : frame.valid = true)

include valid

theorem step_error (accepted : frame.header.error ≠ .incorrectSequenceNumber)
    (error : frame.header.error ≠ .noError) :
    world.waiting.step (anyOf call) =
      world.waiting.finish { world with inbound := rest }
        (.error (.deviceError frame.header.error)) := by
  have read : world.waiting.world.readFrame =
      (.ok (legible_of_valid valid).read, { world with inbound := rest }) :=
    readFrame_unlimited (legible_of_valid valid) inbound patient
  have carried : (legible_of_valid valid).read.error = frame.header.error :=
    rfl
  simp only [Waiting.step, read, carried, ne_eq, error, not_false_eq_true,
    if_true, accepted, false_and, if_false]

theorem step_response (sound : frame.header.error = .noError)
    (nonempty : frame.payload ≠ [])
    (same : frame.header.type = call.type) :
    world.waiting.step (anyOf call) =
      world.waiting.finish { world with inbound := rest }
        (.ok (legible_of_valid valid).read) := by
  have answers : Answers (anyOf call).matching frame :=
    ⟨legible_of_valid valid, sound, nonempty, decide_eq_true same⟩
  exact @Waiting.step_answers _ world.waiting _ _ answers inbound patient

theorem step_passed (sound : frame.header.error = .noError)
    (passed : frame.payload = [] ∨ frame.header.type ≠ call.type) :
    world.waiting.step (anyOf call) =
      .next ({ world with inbound := rest } : World).waiting := by
  have passes : Passes (anyOf call).matching frame := by
    refine ⟨legible_of_valid valid, sound, ?_⟩
    rcases passed with empty | other
    · exact .inl empty
    · exact .inr (decide_eq_false other)
  exact @Waiting.step_passes _ world.waiting _ _ passes inbound patient

end Valid

end Read

theorem step_silence (drained : world.inbound = []) :
    ∃ later, world.waiting.step (anyOf call) =
      world.waiting.finish later (.error .timeout) := by
  have unread : world.waiting.world.readFrame =
      (.error .timeout, world.readFrame.2) :=
    Prod.ext (readFrame_empty drained) rfl
  exact ⟨world.readFrame.2, by simp only [Waiting.step, unread]⟩

/-- The session does what is expected of it. -/
theorem requestOutcome_eq (frames : List SerialLink.Frame)
    (patient : world.patience = none)
    (inbound : world.inbound = SerialLink.Frame.encodeAll frames)
    (bounded : ∀ frame ∈ frames, frame.payload.length ≤ maxPayloadLen)
    (accepted : ∀ frame ∈ frames,
      frame.header.error ≠ .incorrectSequenceNumber) :
    world.requestOutcome call frames.length =
      some (sessionExpects call.type frames) := by
  induction frames generalizing world with
  | nil =>
      obtain ⟨later, stopped⟩ := @step_silence world call inbound
      exact requestOutcome_of_stop stopped
  | cons frame frames induction =>
      have short := bounded frame List.mem_cons_self
      have notRejected := accepted frame List.mem_cons_self
      rw [SerialLink.Frame.encodeAll_cons] at inbound
      by_cases stops : frame.stops call.type = true
      · rw [sessionExpects, List.find?_cons_of_pos stops]
        cases valid : frame.valid with
        | false =>
            rw [requestOutcome_of_stop
              (step_invalid patient inbound short valid)]
            simp only [valid, Bool.false_eq_true, if_false]
            rfl
        | true =>
            by_cases sound : frame.header.error = .noError
            · have responds : frame.responds call.type = true := by
                simpa [SerialLink.Frame.stops, valid, sound] using stops
              simp only [SerialLink.Frame.responds, Bool.and_eq_true,
                Bool.not_eq_true', decide_eq_true_eq] at responds
              rw [requestOutcome_of_stop (step_response patient inbound
                valid sound (by simpa using responds.1.2) responds.2)]
              simp only [valid, if_true, sound, ne_eq, not_true_eq_false,
                if_false]
              rfl
            · rw [requestOutcome_of_stop (step_error patient inbound
                valid notRejected sound)]
              simp only [valid, if_true, ne_eq, sound, not_false_eq_true]
              rfl
      · have parts := stops
        simp only [SerialLink.Frame.stops, Bool.or_eq_true,
          Bool.not_eq_true', decide_eq_true_eq, not_or, ne_eq,
          Decidable.not_not, Bool.not_eq_false] at parts
        obtain ⟨⟨valid, sound⟩, responds⟩ := parts
        have passed : frame.payload = [] ∨ frame.header.type ≠ call.type := by
          by_cases empty : frame.payload = []
          · exact .inl empty
          · right
            intro same
            exact responds
              (by simp [SerialLink.Frame.responds, valid, empty, same])
        have rest := @induction
          { world with inbound := SerialLink.Frame.encodeAll frames } patient
          rfl (fun other member =>
            bounded other (List.mem_cons_of_mem frame member))
          (fun other member =>
            accepted other (List.mem_cons_of_mem frame member))
        rw [List.length_cons, requestOutcome_of_next
          (step_passed patient inbound valid sound passed), rest]
        rw [sessionExpects, sessionExpects, List.find?_cons_of_neg stops]

end World

end Protocol

/-- The two hosts give the same outcome for the same frames, in whatever
reachable state the bus waits for the response, if and only if the frames are
agreeable. -/
theorem hosts_agree_iff (handler : SerialType → Bool)
    (labels : List Bus.Label) (bus : Bus)
    (reached : Run.exec Bus.step (Bus.boot handler) labels = some bus)
    (call : Call) (attempt : Nat) (retried : Bool)
    (position : bus.thread = .requestTake call attempt retried)
    (empty : bus.rxSem = false) (buffered : call.resp = true)
    (frames : List Frame)
    (bounded : ∀ frame ∈ frames,
      frame.payload.length ≤ serialMaxPayloadLen)
    (accepted : ∀ frame ∈ frames,
      frame.header.error ≠ .incorrectSequenceNumber)
    (world : Protocol.World) (patient : world.patience = none)
    (inbound : world.inbound = Frame.encodeAll frames) :
    bus.requestOutcome frames = world.requestOutcome call frames.length ↔
      Agreeable call.type frames := by
  have pending : bus.requestPending = true :=
    (Bus.followsThread_reached reached).flag position rfl
  have waits : Bus.Waits call bus.results bus :=
    ⟨⟨attempt, retried, position⟩, empty, pending, rfl⟩
  rw [waits.requestOutcome_eq buffered frames accepted,
    Protocol.World.requestOutcome_eq frames patient inbound bounded accepted,
    Option.some.injEq]
  exact expects_eq_iff

/-- The bus is open and a request of one byte waits for its response. -/
def awaitLabels : List Bus.Label :=
  Bus.openLabels ++ [.busRequest Bus.shortCall, .advance, .advance]

private theorem awaitLabels_wait :
    ∃ bus, Run.exec Bus.step (Bus.boot fun _ => true) awaitLabels = some bus ∧
      bus.thread = .requestTake Bus.shortCall 0 false ∧
      bus.rxSem = false := by
  have ran : (Run.exec Bus.step (Bus.boot fun _ => true) awaitLabels).map
      (fun bus => (bus.thread, bus.rxSem)) =
        some (.requestTake Bus.shortCall 0 false, false) := by
    decide
  obtain ⟨bus, executed, stands⟩ := Option.map_eq_some_iff.mp ran
  simp only [Prod.mk.injEq] at stands
  exact ⟨bus, executed, stands⟩

/-- A session that has sent its request and finds the given frames. -/
def listening (frames : List Frame) : Protocol.World where
  txSeq := 1
  peer := { rx := 1, tx := 0, supportedTypesMask := 0 }
  inbound := Frame.encodeAll frames
  arrivals := []
  patience := none
  reply :=
    { payload := [9], nonempty := by decide, bounded := by decide
      ackFirst := true, notices := [] }
  heard := [.accepted]

/-- An acknowledgement, and then the response. -/
theorem hosts_agree_acknowledged :
    ∃ bus, Run.exec Bus.step (Bus.boot fun _ => true) awaitLabels = some bus ∧
      bus.requestOutcome [Bus.acknowledgement, Bus.mgmtFrame 9] =
        (listening [Bus.acknowledgement, Bus.mgmtFrame 9]).requestOutcome
          Bus.shortCall 2 := by
  obtain ⟨bus, executed, position, empty⟩ := awaitLabels_wait
  refine ⟨bus, executed, ?_⟩
  apply (hosts_agree_iff _ awaitLabels bus executed Bus.shortCall 0 false
    position empty rfl [Bus.acknowledgement, Bus.mgmtFrame 9] (by decide)
    (by decide) (listening _) rfl rfl).mpr
  intro frame found
  cases found
  exact .inl ⟨rfl, rfl⟩

/-- The answer to a request the device has no buffer for. -/
def outOfBuffers : Frame where
  header :=
    { type := .wifiMgmt, noAck := false, host := true, error := .outOfBuffers
      reserved := 0, sequenceNumber := 3, length := 0 }
  payload := []
  length_eq := rfl

/-- The session reports the device's error, the bus a timeout. -/
theorem hosts_disagree_outOfBuffers :
    ∃ bus, Run.exec Bus.step (Bus.boot fun _ => true) awaitLabels = some bus ∧
      bus.thread = .requestTake Bus.shortCall 0 false ∧
      bus.requestOutcome [outOfBuffers] = some .timeout ∧
      (listening [outOfBuffers]).requestOutcome Bus.shortCall 1 =
        some (.deviceError .outOfBuffers) := by
  obtain ⟨bus, executed, position, empty⟩ := awaitLabels_wait
  have pending : bus.requestPending = true :=
    (Bus.followsThread_reached executed).flag position rfl
  have waits : Bus.Waits Bus.shortCall bus.results bus :=
    ⟨⟨0, false, position⟩, empty, pending, rfl⟩
  refine ⟨bus, executed, position, ?_, ?_⟩
  · rw [waits.requestOutcome_eq rfl [outOfBuffers] (by decide)]
    rfl
  · exact Protocol.World.requestOutcome_eq [outOfBuffers] rfl rfl (by decide)
      (by decide)

end SerialLink
