import SerialLink.Host.Mailbox

/-!
# The caller's response buffer

`bus_request` copies the response to `resp` and its length to `*resp_len`,
which held the size of the buffer before the call.  A `Caller` is the bus with
the memory behind these two pointers; `written` counts the bytes stored from
`resp` on.  The copy is bounded by the size of the bus's own buffer, so that
it keeps to the caller's exactly if the frame is no longer than that.
-/

namespace SerialLink

structure Caller where
  bus : Bus
  resp : Nat → UInt8
  /-- `*resp_len` -/
  respLen : Nat
  written : Nat

namespace Caller

/-- The bytes that the next step of the thread copies to `resp`. -/
def copied (bus : Bus) : Option (List UInt8) :=
  match bus.thread with
  | .requestFrame call _ _ last =>
      if last.type = call.type ∧ call.resp = true then
        some (bus.rxPayload (min last.length.val busRxBufSize))
      else none
  | _ => none

/-- `memcpy(resp, bus.rx_buf, n)` and `*resp_len = n`. -/
def store (caller : Caller) (bytes : List UInt8) : Caller :=
  { caller with
    resp := Region.store caller.resp 0 bytes
    respLen := bytes.length
    written := max caller.written bytes.length }

/-- The steps of the bus, with the copy. -/
def step (caller : Caller) (label : Bus.Label) : Option Caller :=
  match caller.bus.step label with
  | none => none
  | some later =>
      match label, copied caller.bus with
      | .advance, some bytes => some { caller.store bytes with bus := later }
      | _, _ => some { caller with bus := later }

/-- A call for a response, before the frame. -/
def calling (bus : Bus) (resp : Nat → UInt8) (capacity : Nat) : Caller where
  bus := bus
  resp := resp
  respLen := capacity
  written := 0

def Within (caller : Caller) (capacity : Nat) : Prop :=
  caller.written ≤ capacity ∧ caller.respLen ≤ capacity

end Caller

/-- The request whose response the thread waits for: `last_hdr` has not been
read since `request_pending` was set. -/
def Thread.awaits : Thread → Option Call
  | .requestSend call _ _ _ => some call
  | .requestTake call _ _ => some call
  | .requestInspect call _ _ => some call
  | _ => none

/-- How many steps a waiting thread is from reading `last_hdr`. -/
def Thread.distance : Thread → Nat
  | .requestSend _ _ _ _ => 2
  | .requestTake _ _ _ => 1
  | _ => 0

def Thread.answered : Thread → Bool
  | .requestReturn _ (.success _) => true
  | .outside => true
  | _ => false

namespace Caller

/-- A request on its way from the arrival of `frame` to its return. -/
inductive Answering (frame : Frame) (call : Call) (capacity : Nat)
    (caller : Caller) : Prop where
  | waiting (position : caller.bus.thread.awaits = some call)
      (last : caller.bus.lastHdr = frame.header)
      (woken : caller.bus.thread.inspecting = true ∨ caller.bus.rxSem = true)
      (written : caller.written = 0) (respLen : caller.respLen = capacity)
  | reading {attempt : Nat} {retried : Bool}
      (position : caller.bus.thread =
        .requestFrame call attempt retried frame.header)
      (written : caller.written = 0) (respLen : caller.respLen = capacity)
  | copied (position : caller.bus.thread.answered = true)
      (written : caller.written = frame.payload.length)
      (respLen : caller.respLen = frame.payload.length)

variable {frame : Frame} {call : Call} {capacity : Nat} {caller later : Caller}

theorem step_advance {bus : Bus} (advanced : caller.bus.advance = some bus)
    (none : copied caller.bus = none) :
    caller.step .advance = some { caller with bus := bus } := by
  simp only [step, Bus.step, advanced, none]

section Frame

variable (same : frame.header.type = call.type) (buffered : call.resp = true)
  (nonempty : 0 < frame.payload.length)
  (bounded : frame.payload.length ≤ serialMaxPayloadLen)

include nonempty in
theorem header_length_ne_zero : frame.header.length.val ≠ 0 := by
  rw [frame.length_eq]
  exact Nat.ne_of_gt nonempty

include same buffered bounded in
theorem step_reading {attempt : Nat} {retried : Bool}
    (position : caller.bus.thread =
      .requestFrame call attempt retried frame.header)
    (written : caller.written = 0) :
    ∃ later, caller.step .advance = some later ∧
      later.bus.thread.answered = true ∧
      later.written = frame.payload.length ∧
      later.respLen = frame.payload.length := by
  have advanced : caller.bus.advance =
      some (caller.bus.readFrame call attempt retried frame.header) := by
    simp only [Bus.advance, position]
  have bytes : copied caller.bus =
      some (caller.bus.rxPayload (min frame.header.length.val busRxBufSize)) := by
    simp only [copied, position, same, buffered, and_self, if_true]
  have whole : min frame.header.length.val busRxBufSize =
      frame.payload.length := by
    rw [frame.length_eq]
    exact Nat.min_eq_left bounded
  rw [whole] at bytes
  have length : (caller.bus.rxPayload frame.payload.length).length =
      frame.payload.length := Region.length_slice _ _ _
  refine ⟨{ caller.store (caller.bus.rxPayload frame.payload.length) with
    bus := caller.bus.readFrame call attempt retried frame.header },
    ?_, ?_, ?_, length⟩
  · simp only [step, Bus.step, advanced, bytes]
  · rw [Bus.readFrame, if_pos same]
    rfl
  · show max caller.written _ = _
    rw [written, length]
    exact Nat.max_eq_right (Nat.zero_le _)

include nonempty in
theorem step_waiting (position : caller.bus.thread.awaits = some call)
    (last : caller.bus.lastHdr = frame.header)
    (woken : caller.bus.thread.inspecting = true ∨ caller.bus.rxSem = true) :
    ∃ bus, caller.step .advance = some { caller with bus := bus } ∧
      ((bus.thread.awaits = some call ∧ bus.lastHdr = frame.header ∧
          (bus.thread.inspecting = true ∨ bus.rxSem = true) ∧
          bus.thread.distance < caller.bus.thread.distance) ∨
        ∃ attempt retried,
          bus.thread = .requestFrame call attempt retried frame.header) := by
  cases stands : caller.bus.thread with
  | requestSend sent attempt retried header =>
      rw [stands] at position woken
      cases position
      have given : caller.bus.rxSem = true := by
        rcases woken with impossible | given
        · cases impossible
        · exact given
      have advanced : caller.bus.advance =
          some ((caller.bus.busSendRaw .request header call.request).moveTo
            (.requestTake call attempt retried)) := by
        simp only [Bus.advance, stands]
      have none : copied caller.bus = none := by simp only [copied, stands]
      refine ⟨_, step_advance advanced none,
        .inl ⟨rfl, last, .inr given, ?_⟩⟩
      exact Nat.lt_succ_self 1
  | requestTake sent attempt retried =>
      rw [stands] at position woken
      cases position
      have given : caller.bus.rxSem = true := by
        rcases woken with impossible | given
        · cases impossible
        · exact given
      have advanced : caller.bus.advance =
          some (caller.bus.takeToken.moveTo
            (.requestInspect call attempt retried)) := by
        simp only [Bus.advance, stands, given, if_true]
      have none : copied caller.bus = none := by simp only [copied, stands]
      refine ⟨_, step_advance advanced none, .inl ⟨rfl, last, .inl rfl, ?_⟩⟩
      exact Nat.lt_succ_self 0
  | requestInspect sent attempt retried =>
      rw [stands] at position
      cases position
      have advanced : caller.bus.advance =
          some (caller.bus.moveTo
            (caller.bus.inspectAnswer call attempt retried)) := by
        simp only [Bus.advance, stands]
      have none : copied caller.bus = none := by simp only [copied, stands]
      refine ⟨_, step_advance advanced none, .inr ⟨attempt, retried, ?_⟩⟩
      show caller.bus.inspectAnswer call attempt retried = _
      rw [Bus.inspectAnswer, last, if_neg (header_length_ne_zero nonempty)]
  | _ =>
      rw [stands] at position
      cases position

include same buffered nonempty bounded in
theorem answering_step (answering : Answering frame call capacity caller)
    (stepped : caller.step .advance = some later) :
    Answering frame call capacity later := by
  cases answering with
  | waiting position last woken written respLen =>
      obtain ⟨bus, moved, next⟩ := step_waiting nonempty position last woken
      rw [moved] at stepped
      cases stepped
      rcases next with ⟨still, kept, again, -⟩ | ⟨attempt, retried, frameRead⟩
      · exact .waiting still kept again written respLen
      · exact .reading frameRead written respLen
  | reading position written respLen =>
      obtain ⟨after, moved, done, all, length⟩ :=
        step_reading same buffered bounded position written
      rw [moved] at stepped
      cases stepped
      exact .copied done all length
  | copied position written respLen =>
      cases stands : caller.bus.thread with
      | outside => simp [step, Bus.step, Bus.advance, stands] at stepped
      | requestReturn returned result =>
          have advanced : caller.bus.advance =
              some (caller.bus.clearPending.returnRequest returned result) := by
            simp only [Bus.advance, stands]
          rw [step_advance advanced (by simp only [Caller.copied, stands])]
            at stepped
          cases stepped
          exact .copied rfl written respLen
      | _ =>
          rw [stands] at position
          cases position

/-- The thread takes its next `count` steps. -/
def advances (count : Nat) (caller : Caller) : Option Caller :=
  Run.exec step caller (List.replicate count .advance)

include same buffered nonempty bounded in
theorem answering_advances (count : Nat)
    (answering : Answering frame call capacity caller)
    (ran : advances count caller = some later) :
    Answering frame call capacity later := by
  induction count generalizing caller with
  | zero =>
      cases ran
      exact answering
  | succ count induction =>
      rw [advances, List.replicate_succ, Run.exec] at ran
      split at ran
      · rename_i next stepped
        exact induction
          (answering_step same buffered nonempty bounded answering stepped) ran
      · cases ran

theorem advances_succ {next : Caller} {count : Nat}
    (stepped : caller.step .advance = some next)
    (ran : advances count next = some later) :
    advances (count + 1) caller = some later := by
  rw [advances, List.replicate_succ, Run.exec, stepped]
  exact ran

include same buffered bounded in
theorem reading_copies {attempt : Nat} {retried : Bool}
    (position : caller.bus.thread =
      .requestFrame call attempt retried frame.header)
    (written : caller.written = 0) :
    ∃ count later, advances count caller = some later ∧
      later.written = frame.payload.length := by
  obtain ⟨after, moved, -, all, -⟩ :=
    step_reading same buffered bounded position written
  exact ⟨1, after, advances_succ moved rfl, all⟩

include same buffered nonempty bounded in
/-- The response reaches the caller's buffer as a whole. -/
theorem waiting_copies {steps : Nat}
    (near : caller.bus.thread.distance ≤ steps)
    (position : caller.bus.thread.awaits = some call)
    (last : caller.bus.lastHdr = frame.header)
    (woken : caller.bus.thread.inspecting = true ∨ caller.bus.rxSem = true)
    (written : caller.written = 0) :
    ∃ count later, advances count caller = some later ∧
      later.written = frame.payload.length := by
  induction steps generalizing caller with
  | zero =>
      obtain ⟨bus, moved, next⟩ := step_waiting nonempty position last woken
      rcases next with ⟨-, -, -, closer⟩ | ⟨attempt, retried, frameRead⟩
      · omega
      · obtain ⟨count, later, ran, all⟩ :=
          @reading_copies frame call { caller with bus } same buffered bounded
            attempt retried frameRead written
        exact ⟨count + 1, later, advances_succ moved ran, all⟩
  | succ steps induction =>
      obtain ⟨bus, moved, next⟩ := step_waiting nonempty position last woken
      rcases next with ⟨still, kept, again, closer⟩ |
        ⟨attempt, retried, frameRead⟩
      · have nearer : bus.thread.distance ≤ steps := by omega
        obtain ⟨count, later, ran, all⟩ :=
          @induction { caller with bus } nearer still kept again written
        exact ⟨count + 1, later, advances_succ moved ran, all⟩
      · obtain ⟨count, later, ran, all⟩ :=
          @reading_copies frame call { caller with bus } same buffered bounded
            attempt retried frameRead written
        exact ⟨count + 1, later, advances_succ moved ran, all⟩

end Frame

/-- A frame comes while the thread waits for it. -/
theorem answering_receive {bus : Bus} (follows : bus.FollowsThread)
    (position : bus.thread.awaits = some call)
    (valid : busValidateRx frame.header = .ok ()) :
    (bus.receive frame).thread.awaits = some call ∧
      (bus.receive frame).lastHdr = frame.header ∧
      (bus.receive frame).rxSem = true := by
  have pending : bus.requestPending = true := by
    apply follows
    cases stands : bus.thread with
    | requestSend | requestTake | requestInspect => rfl
    | _ =>
        rw [stands] at position
        cases position
  obtain ⟨given, last⟩ := Bus.receive_wakes valid pending
  refine ⟨?_, last, given⟩
  rw [(Bus.receive_sameThread bus frame).thread]
  exact position

theorem step_receive {bus : Bus} {resp : Nat → UInt8}
    (bounded : frame.payload.length ≤ serialMaxPayloadLen) :
    (calling bus resp capacity).step (.receive frame) =
      some (calling (bus.receive frame) resp capacity) := by
  simp only [step, calling, Bus.step, if_pos bounded]

/-- What `bus_request` does with a frame of the requested type keeps to the
caller's buffer, whenever the frame comes. -/
def Respects (bus : Bus) (frame : Frame) (resp : Nat → UInt8)
    (capacity : Nat) : Prop :=
  ∀ count later,
    Run.exec step (calling bus resp capacity)
      (.receive frame :: List.replicate count .advance) = some later →
    later.Within capacity

section Respects

variable {bus : Bus} {resp : Nat → UInt8} (follows : bus.FollowsThread)
  (position : bus.thread.awaits = some call) (buffered : call.resp = true)
  (valid : busValidateRx frame.header = .ok ())
  (same : frame.header.type = call.type)
  (nonempty : 0 < frame.payload.length)

include follows position buffered valid same nonempty in
theorem respects_iff :
    Respects bus frame resp capacity ↔ frame.payload.length ≤ capacity := by
  have bounded : frame.payload.length ≤ serialMaxPayloadLen := by
    rw [← frame.length_eq]
    exact Bus.length_of_valid valid
  obtain ⟨still, last, given⟩ := answering_receive follows position valid
  constructor
  · intro respects
    obtain ⟨count, later, ran, all⟩ :=
      @waiting_copies frame call (calling (bus.receive frame) resp capacity)
        same buffered nonempty bounded _ (Nat.le_refl _) still last
        (.inr given) rfl
    have within := respects count later
      (by rw [Run.exec, step_receive bounded]; exact ran)
    rw [← all]
    exact within.1
  · intro fits count later ran
    rw [Run.exec, step_receive bounded] at ran
    have answering : Answering frame call capacity
        (calling (bus.receive frame) resp capacity) :=
      .waiting still last (.inr given) rfl rfl
    cases answering_advances same buffered nonempty bounded count answering
      ran with
    | waiting _ _ _ written respLen =>
        exact ⟨written ▸ Nat.zero_le _, respLen ▸ Nat.le_refl _⟩
    | reading _ written respLen =>
        exact ⟨written ▸ Nat.zero_le _, respLen ▸ Nat.le_refl _⟩
    | copied _ written respLen =>
        exact ⟨written ▸ fits, respLen ▸ fits⟩

end Respects

end Caller

namespace Bus

/-- For every request that waits for a response in a reachable state, and
every data frame of its type: `bus_request` keeps to the caller's buffer if
and only if the frame fits it. -/
theorem response_respected_iff (handler : SerialType → Bool)
    (labels : List Label) (bus : Bus)
    (reached : Run.exec step (boot handler) labels = some bus) (call : Call)
    (position : bus.thread.awaits = some call) (buffered : call.resp = true)
    (frame : Frame) (valid : busValidateRx frame.header = .ok ())
    (same : frame.header.type = call.type)
    (nonempty : 0 < frame.payload.length) (resp : Nat → UInt8)
    (capacity : Nat) :
    Caller.Respects bus frame resp capacity ↔
      frame.payload.length ≤ capacity := by
  exact Caller.respects_iff (followsThread_reached reached) position buffered
    valid same nonempty

/-- The bus is open and a request of one byte has been sent. -/
def waitingLabels : List Label :=
  openLabels ++ [.busRequest shortCall, .advance, .advance]

theorem waitingLabels_await :
    ∃ bus, Run.exec step (boot fun _ => true) waitingLabels = some bus ∧
      bus.thread.awaits = some shortCall := by
  have ran : (Run.exec step (boot fun _ => true) waitingLabels).map
      (fun bus => bus.thread.awaits) = some (some shortCall) := by
    decide
  obtain ⟨bus, executed, awaits⟩ := Option.map_eq_some_iff.mp ran
  exact ⟨bus, executed, awaits⟩

def zeroFrame (count : Nat) (small : count < 65536) : Frame where
  header :=
    { type := .wifiMgmt, noAck := false, host := true, error := .noError
      reserved := 0, sequenceNumber := 1, length := ⟨count, small⟩ }
  payload := List.replicate count 0
  length_eq := (List.length_replicate).symm

/-- A response of nine bytes in a buffer of sixteen. -/
theorem response_respected_nine :
    ∃ bus, Run.exec step (boot fun _ => true) waitingLabels = some bus ∧
      Caller.Respects bus (zeroFrame 9 (by decide)) (fun _ => 0) 16 := by
  obtain ⟨bus, executed, awaits⟩ := waitingLabels_await
  refine ⟨bus, executed, ?_⟩
  exact (response_respected_iff _ _ bus executed shortCall awaits rfl
    (zeroFrame 9 (by decide)) rfl rfl (by decide) _ 16).mpr (by decide)

/-- The longest frame overruns a buffer of 2048 bytes. -/
theorem response_overruns :
    ∃ bus, Run.exec step (boot fun _ => true) waitingLabels = some bus ∧
      bus.thread.awaits = some shortCall ∧
      ¬Caller.Respects bus (zeroFrame 4096 (by decide)) (fun _ => 0) 2048 := by
  obtain ⟨bus, executed, awaits⟩ := waitingLabels_await
  refine ⟨bus, executed, awaits, ?_⟩
  have positive : 0 < (zeroFrame 4096 (by decide)).payload.length := by
    show 0 < (List.replicate 4096 (0 : UInt8)).length
    rw [List.length_replicate]
    decide
  rw [Caller.respects_iff (followsThread_reached executed) awaits rfl rfl rfl
    positive]
  show ¬(List.replicate 4096 (0 : UInt8)).length ≤ 2048
  rw [List.length_replicate]
  decide

end Bus

end SerialLink
