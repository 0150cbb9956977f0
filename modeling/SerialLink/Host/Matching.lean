import SerialLink.Host.Mailbox
import SerialLink.Host.Retry

/-!
# Which frame answers a request

`bus_request` takes the first data frame of its type for the response.  Here
every arriving frame carries its origin, which the code cannot see, and each
result is recorded together with the origin of the bytes it was copied from.
The payload of a frame may be read in several parts.
-/

namespace SerialLink

/-- What the device sent a frame for. -/
inductive Origin where
  /-- A frame without a payload. -/
  | ack
  /-- The `WifiMgmtResponse` to the request frame with this position among
  the request frames on the wire. -/
  | response (request : Nat)
  /-- A `WifiMgmtNotification`. -/
  | notification
  /-- A data frame of another type. -/
  | other
  deriving DecidableEq, Repr

/-- The frames of an origin. -/
def Origin.fits (origin : Origin) (frame : Frame) : Bool :=
  (busValidateRx frame.header).isOk &&
    match origin with
    | .ack => frame.header.length.val = 0
    | .response _ =>
        frame.header.length.val ≠ 0 ∧ frame.header.type = .wifiMgmt
    | .notification =>
        frame.header.length.val ≠ 0 ∧ frame.header.type = .wifiMgmt
    | .other => frame.header.length.val ≠ 0 ∧ frame.header.type ≠ .wifiMgmt

/-- A `bus_request` that succeeds: the position of its request frame, and the
origin and contents of `rx_buf` when the response is copied. -/
structure Answer where
  request : Nat
  call : Call
  origin : Origin
  payload : List UInt8

/-- What the caller gets. -/
def Answer.result (answer : Answer) : Call × Result :=
  (answer.call,
    .success (if answer.call.resp then some answer.payload else none))

/-- The answer is the response to its own request. -/
def Answer.IsOwn (answer : Answer) (responses : List (Nat × List UInt8)) :
    Prop :=
  answer.origin = .response answer.request ∧
    (answer.request, answer.payload) ∈ responses

/-- The bus with the origin of the bytes last stored in `rx_buf`, the
responses that have arrived, and the answers of the calls that succeed. -/
structure Tracked where
  bus : Bus
  content : Origin
  /-- The frame part of whose payload `bus_rx_work` has read. -/
  partly : Option (Origin × Frame)
  responses : List (Nat × List UInt8)
  answers : List Answer

/-- The thread waits for the answer to its request. -/
def Thread.awaiting : Thread → Bool
  | .requestSend _ _ _ _ => true
  | .requestTake _ _ _ => true
  | .requestInspect _ _ _ => true
  | .requestFrame _ _ _ _ => true
  | _ => false

/-- The thread of `bus_request` is about to read `last_hdr`. -/
def Thread.choosing : Thread → Bool
  | .requestInspect _ _ _ => true
  | _ => false

/-- The thread has read `last_hdr` and is about to read `rx_buf`. -/
def Thread.copying : Thread → Bool
  | .requestFrame _ _ _ _ => true
  | _ => false

namespace Tracked

inductive Label where
  | advance
  | expire
  /-- `bus_rx_work` completes a frame of the given origin. -/
  | arrive (origin : Origin) (frame : Frame)
  /-- It has read part of the payload of such a frame. -/
  | readPart (origin : Origin) (frame : Frame) (count : Nat)
  /-- `bus_request` is called for `WIFI_MGMT`. -/
  | busRequest (request : List UInt8) (resp : Bool)
  | busOpen

/-- The position of the request frame of the present call. -/
def current (bus : Bus) : Nat :=
  match bus.thread with
  | .requestSend _ _ _ _ => bus.requestHeaders.length
  | _ => bus.requestHeaders.length - 1

/-- The answer that the next step of the thread copies, if it does. -/
def copied (tracked : Tracked) : List Answer :=
  match tracked.bus.thread with
  | .requestFrame call _ _ last =>
      if last.type = call.type then
        [{ request := current tracked.bus
           call
           origin := tracked.content
           payload := tracked.bus.rxPayload last.length.val }]
      else []
  | _ => []

/-- A response can arrive once its request is on the wire. -/
def produced (tracked : Tracked) : Origin → Bool
  | .response request => request < tracked.bus.requestHeaders.length
  | _ => true

/-- A frame that has been read in part comes before any other. -/
def continues (tracked : Tracked) (origin : Origin) (frame : Frame) : Bool :=
  match tracked.partly with
  | none => true
  | some (begun, part) =>
      begun = origin ∧ part.header = frame.header ∧
        part.payload = frame.payload

/-- A frame of the given origin can come next. -/
def admits (tracked : Tracked) (origin : Origin) (frame : Frame) : Bool :=
  origin.fits frame && tracked.produced origin &&
    tracked.continues origin frame

def arrive (tracked : Tracked) (origin : Origin) (frame : Frame) : Tracked where
  bus := tracked.bus.receive frame
  content := if origin = .ack then tracked.content else origin
  partly := none
  responses :=
    match origin with
    | .response request => tracked.responses ++ [(request, frame.payload)]
    | _ => tracked.responses
  answers := tracked.answers

def step (tracked : Tracked) : Label → Option Tracked
  | .advance =>
      tracked.bus.advance.map fun bus =>
        { tracked with
          bus
          answers := tracked.answers ++ tracked.copied }
  | .expire => tracked.bus.expire.map fun bus => { tracked with bus }
  | .arrive origin frame =>
      if tracked.admits origin frame then some (tracked.arrive origin frame)
      else none
  | .readPart origin frame count =>
      if tracked.admits origin frame then
        (tracked.bus.step (.readPart frame count)).map fun bus =>
          { tracked with
            bus
            content := origin
            partly := some (origin, frame) }
      else none
  | .busRequest request resp =>
      (tracked.bus.step (.busRequest { type := .wifiMgmt, request, resp })).map
        fun bus => { tracked with bus }
  | .busOpen =>
      (tracked.bus.step .busOpen).map fun bus => { tracked with bus }

/-- The host before its first call. -/
def boot (handler : SerialType → Bool) : Tracked where
  bus := Bus.boot handler
  content := .other
  partly := none
  responses := []
  answers := []

/-- Every call that succeeds returns the response to its own request. -/
structure Matched (tracked : Tracked) : Prop where
  results : tracked.answers.map Answer.result =
    Bus.successes tracked.bus.results ++ Bus.returning tracked.bus.thread
  own : ∀ answer ∈ tracked.answers, answer.IsOwn tracked.responses

/-- A call finds no token in `rx_sem`.  While the thread waits no notification
and no response to another request arrives.  When it finds a `WIFI_MGMT` frame
in `last_hdr` no other frame has been read in part, and between its reading of
`last_hdr` and of `rx_buf` no byte of a payload is read. -/
def Orderly (tracked : Tracked) : Label → Prop
  | .busRequest _ _ => tracked.bus.rxSem = false
  | .arrive origin _ =>
      (tracked.bus.thread.awaiting = true →
        origin = .ack ∨ origin = .other ∨
          origin = .response (current tracked.bus)) ∧
        (tracked.bus.thread.copying = true → origin = .ack)
  | .readPart _ _ _ => tracked.bus.thread.copying = false
  | .advance =>
      tracked.bus.thread.choosing = true →
        tracked.bus.lastHdr.length.val ≠ 0 →
          tracked.bus.lastHdr.type = .wifiMgmt → tracked.partly.isNone = true
  | _ => True

instance (tracked : Tracked) : (label : Label) →
    Decidable (Orderly tracked label)
  | .busRequest _ _ => inferInstanceAs (Decidable (_ = _))
  | .arrive _ _ => inferInstanceAs (Decidable ((_ → _) ∧ (_ → _)))
  | .readPart _ _ _ => inferInstanceAs (Decidable (_ = _))
  | .advance => inferInstanceAs (Decidable (_ → _ → _ → _))
  | .expire | .busOpen => inferInstanceAs (Decidable True)

variable {tracked later : Tracked} {label : Label}

/-- The bytes in `rx_buf` are those of the response to a request, if the
header is one of `WIFI_MGMT`. -/
def Own (tracked : Tracked) (request : Nat) (header : SerialHeader) : Prop :=
  header.type = .wifiMgmt →
    tracked.content = .response request ∧
      (request, tracked.bus.rxPayload header.length.val) ∈ tracked.responses

/-- The same for a data frame behind `last_hdr`, unless another frame is being
read. -/
def Held (tracked : Tracked) (request : Nat) : Prop :=
  tracked.partly.isNone = true → tracked.bus.lastHdr.length.val ≠ 0 →
    Own tracked request tracked.bus.lastHdr

/-- What the thread can rely on. -/
def Ready (tracked : Tracked) : Prop :=
  let sent := tracked.bus.requestHeaders.length
  match tracked.bus.thread with
  | .requestLoop call _ false =>
      call.type = .wifiMgmt ∧ tracked.bus.rxSem = false
  | .requestSend call _ _ _ =>
      call.type = .wifiMgmt ∧ (tracked.bus.rxSem = true → Held tracked sent)
  | .requestTake call _ _ =>
      call.type = .wifiMgmt ∧
        (tracked.bus.rxSem = true → Held tracked (sent - 1))
  | .requestInspect call _ _ =>
      call.type = .wifiMgmt ∧ Held tracked (sent - 1)
  | .requestFrame call _ _ last =>
      call.type = .wifiMgmt ∧
        (tracked.bus.rxSem = true → Held tracked (sent - 1)) ∧
        Own tracked (sent - 1) last
  | _ => True

theorem ready_finishSync {bus : Bus} {outcome : Except Errno Unit}
    {caller : SyncCaller} {answers : List Answer} :
    Ready { tracked with bus := bus.finishSync outcome caller, answers } := by
  cases caller with
  | busOpen => trivial
  | busRequest call attempt =>
      cases outcome with
      | ok _ => trivial
      | error _ => trivial

theorem ready_advances {bus : Bus} (ready : Ready tracked)
    (orderly : Orderly tracked .advance)
    (advances : tracked.bus.Advances bus) :
    Ready { tracked with
      bus, answers := tracked.answers ++ tracked.copied } := by
  cases advances with
  | beginAttempt position allowed =>
      simp only [Ready, position] at ready
      refine ⟨ready.1, ?_⟩
      intro given
      cases ready.2.symm.trans given
  | @sendRequest call _ _ header position =>
      simp only [Ready, position] at ready
      have position : (tracked.bus.busSendRaw .request header
          call.request).requestHeaders.length - 1 =
            tracked.bus.requestHeaders.length := by
        rw [Bus.requestHeaders_request, List.length_append]
        rfl
      refine ⟨ready.1, ?_⟩
      intro given
      exact position ▸ ready.2 given
  | takeAnswer position given =>
      simp only [Ready, position] at ready
      exact ⟨ready.1, ready.2 given⟩
  | inspectAck position empty =>
      simp only [Ready, position] at ready
      exact ⟨ready.1, fun _ _ nonempty => absurd empty nonempty⟩
  | inspectData position nonempty =>
      simp only [Ready, position] at ready
      refine ⟨ready.1, fun _ => ready.2, ?_⟩
      intro ofMgmt
      have whole := orderly (position ▸ rfl) nonempty ofMgmt
      exact ready.2 whole nonempty ofMgmt
  | passOn position other =>
      simp only [Ready, position] at ready
      exact ⟨ready.1, ready.2.1⟩
  | endQueries position => exact ready_finishSync
  | drainToken position given =>
      simp only [Ready, Bus.takeToken, Bus.discardFrame_thread, position]
  | readResponse position =>
      rw [Bus.readResponse]
      split
      · exact ready_finishSync
      · exact ready_finishSync
  | _ => trivial

theorem fits_valid {origin : Origin} {frame : Frame}
    (fits : origin.fits frame = true) :
    busValidateRx frame.header = .ok () := by
  simp only [Origin.fits, Bool.and_eq_true] at fits
  cases valid : busValidateRx frame.header with
  | ok _ => rfl
  | error _ => simp [valid, Except.isOk, Except.toBool] at fits

theorem fits_ack {frame : Frame} (fits : Origin.ack.fits frame = true) :
    frame.header.length.val = 0 := by
  simp only [Origin.fits, Bool.and_eq_true, decide_eq_true_eq] at fits
  exact fits.2

theorem fits_other {frame : Frame} (fits : Origin.other.fits frame = true) :
    frame.header.type ≠ .wifiMgmt := by
  simp only [Origin.fits, Bool.and_eq_true, decide_eq_true_eq] at fits
  exact fits.2.2

/-- What a frame leaves behind `last_hdr`. -/
theorem held_arrive {origin : Origin} {frame : Frame} {request : Nat}
    (fits : origin.fits frame = true)
    (allowed : origin = .ack ∨ origin = .other ∨ origin = .response request)
    (last : (tracked.bus.receive frame).lastHdr = frame.header) :
    Held (tracked.arrive origin frame) request := by
  intro _ nonempty ofMgmt
  have same : (tracked.arrive origin frame).bus.lastHdr = frame.header := last
  rw [same] at nonempty ofMgmt ⊢
  rcases allowed with rfl | rfl | rfl
  · exact absurd (fits_ack fits) nonempty
  · exact absurd ofMgmt (fits_other fits)
  · have payload : (tracked.arrive (.response request) frame).bus.rxPayload
        frame.header.length.val = frame.payload := by
      rw [Bus.rxPayload, arrive, Bus.receive_rxBuf]
      exact Bus.rxPayload_holding tracked.bus frame
    refine ⟨rfl, ?_⟩
    rw [payload]
    exact List.mem_append_right _ (List.mem_singleton_self _)

/-- An acknowledgement leaves `rx_buf` as it is. -/
theorem own_arrive_ack {frame : Frame} {request : Nat} {header : SerialHeader}
    (fits : Origin.ack.fits frame = true)
    (own : Own tracked request header) :
    Own (tracked.arrive .ack frame) request header := by
  have noBytes : frame.payload = [] :=
    List.length_eq_zero_iff.mp (frame.length_eq.symm.trans (fits_ack fits))
  have buffer : (tracked.arrive .ack frame).bus.rxBuf = tracked.bus.rxBuf := by
    show (tracked.bus.receive frame).rxBuf = tracked.bus.rxBuf
    rw [Bus.receive_rxBuf, noBytes, Region.store_nil]
  intro ofMgmt
  rw [Bus.rxPayload, buffer]
  exact own ofMgmt

theorem pends_of_awaiting {thread : Thread}
    (awaits : thread.awaiting = true) : thread.pends = some true := by
  cases thread <;> first | rfl | cases awaits

/-- Without a pending request no token is given. -/
theorem rxSem_receive {bus : Bus} {frame : Frame}
    (cleared : bus.requestPending = false) :
    (bus.receive frame).rxSem = bus.rxSem := by
  cases Bus.receives bus frame with
  | ignored _ sem => exact sem
  | woken _ pending => cases cleared.symm.trans pending
  | passedOn _ _ _ sem => exact sem

theorem ready_arrive {origin : Origin} {frame : Frame}
    (follows : tracked.bus.FollowsThread) (ready : Ready tracked)
    (fits : origin.fits frame = true)
    (orderly : Orderly tracked (.arrive origin frame)) :
    Ready (tracked.arrive origin frame) := by
  obtain ⟨allowed, noData⟩ := orderly
  have thread : (tracked.arrive origin frame).bus.thread =
      tracked.bus.thread := (Bus.receive_sameThread tracked.bus frame).thread
  have headers : (tracked.arrive origin frame).bus.requestHeaders =
      tracked.bus.requestHeaders := Bus.requestHeaders_receive frame
  have held (awaits : tracked.bus.thread.awaiting = true) :
      Held (tracked.arrive origin frame) (current tracked.bus) := by
    have pending := follows true (pends_of_awaiting awaits)
    exact held_arrive fits (allowed awaits)
      (Bus.receive_wakes (fits_valid fits) pending).2
  cases position : tracked.bus.thread with
  | requestLoop call attempt retried =>
      cases retried with
      | true => simp only [Ready, thread, position]
      | false =>
          simp only [Ready, thread, position] at ready ⊢
          have cleared := follows false (by rw [position]; rfl)
          exact ⟨ready.1, (rxSem_receive cleared).trans ready.2⟩
  | requestSend call attempt retried header =>
      have waiting := held (by rw [position]; rfl)
      simp only [Ready, current, thread, position, headers] at ready waiting ⊢
      exact ⟨ready.1, fun _ => waiting⟩
  | requestTake call attempt retried =>
      have waiting := held (by rw [position]; rfl)
      simp only [Ready, current, thread, position, headers] at ready waiting ⊢
      exact ⟨ready.1, fun _ => waiting⟩
  | requestInspect call attempt retried =>
      have waiting := held (by rw [position]; rfl)
      simp only [Ready, current, thread, position, headers] at ready waiting ⊢
      exact ⟨ready.1, waiting⟩
  | requestFrame call attempt retried last =>
      obtain rfl := noData (by rw [position]; rfl)
      have waiting := held (by rw [position]; rfl)
      simp only [Ready, current, thread, position, headers] at ready waiting ⊢
      exact ⟨ready.1, fun _ => waiting, own_arrive_ack fits ready.2.2⟩
  | _ => simp only [Ready, thread, position]

/-- While part of a payload has been read, nothing is said about `last_hdr`. -/
theorem ready_readPart {origin : Origin} {frame : Frame} {count : Nat}
    (ready : Ready tracked) (idle : tracked.bus.thread.copying = false) :
    Ready { tracked with
      bus := tracked.bus.readPart frame count
      content := origin
      partly := some (origin, frame) } := by
  have thread : (tracked.bus.readPart frame count).thread =
      tracked.bus.thread := rfl
  cases position : tracked.bus.thread with
  | requestLoop call attempt retried =>
      cases retried with
      | true => simp only [Ready, thread, position]
      | false =>
          simp only [Ready, thread, position] at ready ⊢
          exact ready
  | requestSend call attempt retried header =>
      simp only [Ready, thread, position] at ready ⊢
      exact ⟨ready.1, fun _ => nofun⟩
  | requestTake call attempt retried =>
      simp only [Ready, thread, position] at ready ⊢
      exact ⟨ready.1, fun _ => nofun⟩
  | requestInspect call attempt retried =>
      simp only [Ready, thread, position] at ready ⊢
      exact ⟨ready.1, nofun⟩
  | requestFrame call attempt retried last =>
      rw [position] at idle
      cases idle
  | _ => simp only [Ready, thread, position]

/-- The transitions of `step`, in terms of those of the bus. -/
inductive Steps (tracked : Tracked) : Label → Tracked → Prop where
  | advance {bus : Bus} (advances : tracked.bus.Advances bus) :
      Steps tracked .advance
        { tracked with bus, answers := tracked.answers ++ tracked.copied }
  | expire {bus : Bus} (steps : tracked.bus.Steps .expire bus) :
      Steps tracked .expire { tracked with bus }
  | arrive {origin : Origin} {frame : Frame}
      (fits : origin.fits frame = true) :
      Steps tracked (.arrive origin frame) (tracked.arrive origin frame)
  | readPart {origin : Origin} {frame : Frame} {count : Nat}
      (stepped : tracked.bus.step (.readPart frame count) =
        some (tracked.bus.readPart frame count)) :
      Steps tracked (.readPart origin frame count)
        { tracked with
          bus := tracked.bus.readPart frame count
          content := origin
          partly := some (origin, frame) }
  | busRequest {request : List UInt8} {resp : Bool} {bus : Bus}
      (steps : tracked.bus.Steps
        (.busRequest { type := .wifiMgmt, request, resp }) bus) :
      Steps tracked (.busRequest request resp) { tracked with bus }
  | busOpen {bus : Bus} (steps : tracked.bus.Steps .busOpen bus) :
      Steps tracked .busOpen { tracked with bus }

theorem steps_of_step (stepped : tracked.step label = some later) :
    Steps tracked label later := by
  cases label with
  | advance =>
      obtain ⟨bus, advanced, rfl⟩ := Option.map_eq_some_iff.mp stepped
      exact .advance (Bus.advances_of_advance advanced)
  | expire =>
      obtain ⟨bus, expired, rfl⟩ := Option.map_eq_some_iff.mp stepped
      exact .expire (Bus.steps_of_expire expired)
  | arrive origin frame =>
      simp only [step, admits, Option.ite_none_right_eq_some,
        Option.some.injEq, Bool.and_eq_true] at stepped
      exact stepped.2 ▸ .arrive stepped.1.1.1
  | readPart origin frame count =>
      simp only [step, Option.ite_none_right_eq_some,
        Option.map_eq_some_iff] at stepped
      obtain ⟨-, bus, read, rfl⟩ := stepped
      cases Bus.steps_of_step read with
      | readPart => exact .readPart read
  | busRequest request resp =>
      obtain ⟨bus, called, rfl⟩ := Option.map_eq_some_iff.mp stepped
      exact .busRequest (Bus.steps_of_step called)
  | busOpen =>
      obtain ⟨bus, called, rfl⟩ := Option.map_eq_some_iff.mp stepped
      exact .busOpen (Bus.steps_of_step called)

/-- A step of the tracked bus is a step of the bus. -/
theorem bus_step (stepped : tracked.step label = some later) :
    ∃ busLabel, tracked.bus.step busLabel = some later.bus := by
  cases label with
  | advance =>
      obtain ⟨bus, advanced, rfl⟩ := Option.map_eq_some_iff.mp stepped
      exact ⟨.advance, advanced⟩
  | expire =>
      obtain ⟨bus, expired, rfl⟩ := Option.map_eq_some_iff.mp stepped
      exact ⟨.expire, expired⟩
  | arrive origin frame =>
      cases steps_of_step stepped with
      | arrive fits =>
          have short := Bus.length_of_valid (fits_valid fits)
          rw [frame.length_eq] at short
          exact ⟨.receive frame, if_pos short⟩
  | readPart origin frame count =>
      cases steps_of_step stepped with
      | readPart read => exact ⟨_, read⟩
  | busRequest request resp =>
      obtain ⟨bus, called, rfl⟩ := Option.map_eq_some_iff.mp stepped
      exact ⟨_, called⟩
  | busOpen =>
      obtain ⟨bus, called, rfl⟩ := Option.map_eq_some_iff.mp stepped
      exact ⟨_, called⟩

theorem ready_step (follows : tracked.bus.FollowsThread)
    (ready : Ready tracked) (orderly : Orderly tracked label)
    (stepped : tracked.step label = some later) : Ready later := by
  cases steps_of_step stepped with
  | advance advances => exact ready_advances ready orderly advances
  | expire steps => cases steps <;> trivial
  | arrive fits => exact ready_arrive follows ready fits orderly
  | readPart read => exact ready_readPart ready orderly
  | busRequest steps =>
      cases steps with
      | refuseRequest position => trivial
      | beginRequest position => exact ⟨rfl, orderly⟩
  | busOpen steps => cases steps <;> trivial

theorem returns_discardFrame (bus : Bus) :
    Bus.returns bus.discardFrame.disposals = Bus.returns bus.disposals := by
  unfold Bus.discardFrame
  split
  · rfl
  · exact (Bus.returns_append _ _).trans (List.append_nil _)

theorem disposals_finishSync (bus : Bus) (outcome : Except Errno Unit)
    (caller : SyncCaller) :
    (bus.finishSync outcome caller).disposals = bus.disposals := by
  cases caller with
  | busOpen => rfl
  | busRequest call attempt => cases outcome <;> rfl

theorem returns_callHandler (bus : Bus) (type : SerialType)
    (payload : List UInt8) :
    Bus.returns (bus.callHandler type payload).disposals =
      Bus.returns bus.disposals := by
  refine (Bus.returns_append _ _).trans ?_
  split <;> exact List.append_nil _

/-- The frames a thread returns are the answers it copies. -/
theorem returns_advances {bus : Bus}
    (advances : tracked.bus.Advances bus) :
    Bus.returns bus.disposals =
      Bus.returns tracked.bus.disposals ++
        tracked.copied.map Answer.result := by
  cases advances with
  | copyResponse position same =>
      simp only [copied, position, if_pos same]
      exact Bus.returns_append _ _
  | passOn position other =>
      simp only [copied, position, if_neg other]
      exact (returns_callHandler _ _ _).trans (List.append_nil _).symm
  | drainToken position given =>
      simp only [copied, position]
      exact (returns_discardFrame _).trans (List.append_nil _).symm
  | rejectResponse position =>
      simp only [copied, position]
      exact (returns_discardFrame _).trans (List.append_nil _).symm
  | endQueries position =>
      simp only [copied, position, disposals_finishSync]
      exact (List.append_nil _).symm
  | readResponse position =>
      have taken : Bus.returns (tracked.bus.disposals ++
          [(.synced, .protocolInfo, tracked.bus.rxPayload 4)]) =
            Bus.returns tracked.bus.disposals :=
        (Bus.returns_append _ _).trans (List.append_nil _)
      simp only [copied, position]
      rw [Bus.readResponse]
      split
      · rw [disposals_finishSync]
        exact taken.trans (List.append_nil _).symm
      · rw [disposals_finishSync]
        exact taken.trans (List.append_nil _).symm
  | _ position =>
      simp only [copied, position]
      exact (List.append_nil _).symm

theorem returns_receive (bus : Bus) (frame : Frame) :
    Bus.returns (bus.receive frame).disposals =
      Bus.returns bus.disposals := by
  cases Bus.receives bus frame with
  | ignored _ _ _ _ disposals => rw [disposals]
  | woken _ _ _ _ _ disposals => rw [disposals]
  | passedOn _ _ _ _ _ _ disposals =>
      rw [disposals]
      exact returns_callHandler bus frame.header.type frame.payload

/-- What the thread copies is the response to its request. -/
theorem own_copied (ready : Ready tracked) :
    ∀ answer ∈ tracked.copied, answer.IsOwn tracked.responses := by
  intro answer member
  unfold copied at member
  split at member
  · rename_i call attempt retried last position
    simp only [Ready, position] at ready
    obtain ⟨ofMgmt, _, own⟩ := ready
    split at member
    · rename_i same
      cases List.mem_singleton.mp member
      simp only [Answer.IsOwn, current, position]
      exact own (same.trans ofMgmt)
    · cases member
  · cases member

/-- The invariant of a run in which every step is orderly. -/
structure Invariant (tracked : Tracked) : Prop where
  follows : tracked.bus.FollowsThread
  truthful : tracked.bus.Truthful
  ready : Ready tracked
  recorded : tracked.answers.map Answer.result =
    Bus.returns tracked.bus.disposals
  own : ∀ answer ∈ tracked.answers, answer.IsOwn tracked.responses

theorem Invariant.matched (invariant : Invariant tracked) : Matched tracked :=
  ⟨invariant.recorded.trans invariant.truthful.returned, invariant.own⟩

theorem arrive_responses {origin : Origin} {frame : Frame} :
    tracked.responses ⊆ (tracked.arrive origin frame).responses := by
  cases origin with
  | response request => exact List.subset_append_left _ _
  | _ => exact List.Subset.refl _

/-- The records follow the step. -/
theorem recorded_step (recorded : tracked.answers.map Answer.result =
      Bus.returns tracked.bus.disposals)
    (stepped : tracked.step label = some later) :
    later.answers.map Answer.result = Bus.returns later.bus.disposals := by
  cases steps_of_step stepped with
  | advance advances =>
      rw [returns_advances advances, List.map_append, recorded]
  | expire steps => cases steps <;> exact recorded
  | @arrive origin frame fits =>
      exact recorded.trans (returns_receive tracked.bus frame).symm
  | readPart read => exact recorded
  | busRequest steps => cases steps <;> exact recorded
  | busOpen steps => cases steps <;> exact recorded

theorem own_step (ready : Ready tracked)
    (own : ∀ answer ∈ tracked.answers, answer.IsOwn tracked.responses)
    (stepped : tracked.step label = some later) :
    ∀ answer ∈ later.answers, answer.IsOwn later.responses := by
  cases steps_of_step stepped with
  | advance advances =>
      intro answer member
      rcases List.mem_append.mp member with earlier | new
      · exact own answer earlier
      · exact own_copied ready answer new
  | arrive fits =>
      intro answer member
      obtain ⟨origin, arrived⟩ := own answer member
      exact ⟨origin, arrive_responses arrived⟩
  | _ => exact own

theorem Invariant.step (invariant : Invariant tracked)
    (orderly : Orderly tracked label)
    (stepped : tracked.step label = some later) : Invariant later := by
  obtain ⟨busLabel, busStepped⟩ := bus_step stepped
  exact ⟨Bus.followsThread_step invariant.follows busStepped,
    Bus.truthful_step invariant.truthful busStepped,
    ready_step invariant.follows invariant.ready orderly stepped,
    recorded_step invariant.recorded stepped,
    own_step invariant.ready invariant.own stepped⟩

theorem Invariant.boot (handler : SerialType → Bool) :
    Invariant (boot handler) where
  follows := by
    rintro _ ⟨⟩
    rfl
  truthful := Bus.truthful_boot handler
  ready := trivial
  recorded := rfl
  own _ member := absurd member List.not_mem_nil

/-- In every run whose steps are orderly, each call that succeeds returns the
response to its own request, which arrived after the request was sent. -/
theorem matched_of_orderly (handler : SerialType → Bool)
    (labels : List Label) (final : Tracked)
    (run : Run.GuardedRun step Orderly (boot handler) labels final) :
    Matched final := by
  have kept := run.preserves
    (fun _ _ _ invariant orderly stepped => invariant.step orderly stepped)
    (Invariant.boot handler)
  exact kept.matched

/-- `bus_open`, and a request that is sent and waits for its answer. -/
def requestSent : List Label :=
  [.busOpen, .advance, .advance, .advance, .arrive .other (Bus.information 3),
    .advance, .advance, .advance, .advance, .busRequest [1] true, .advance,
    .advance]

/-- The call takes what has arrived and returns. -/
def taken : List Label := [.advance, .advance, .advance, .advance]

/-- A response of two bytes. -/
def twoBytes : Frame where
  header :=
    { type := .wifiMgmt, noAck := false, host := true, error := .noError
      reserved := 0, sequenceNumber := 1, length := 2 }
  payload := [9, 8]
  length_eq := rfl

/-- The acknowledgement and, in two parts, the response to the request. -/
def answeredRequest : List Label :=
  requestSent ++
    [.arrive .ack Bus.acknowledgement, .readPart (.response 0) twoBytes 1,
      .advance, .advance, .arrive (.response 0) twoBytes] ++ taken

theorem matched_of_orderly_answered :
    ∃ final, Run.exec step (boot fun _ => true) answeredRequest = some final ∧
      Matched final ∧ final.answers.map Answer.payload = [[9, 8]] := by
  have ran : (Run.execGuarded step Orderly (boot fun _ => true)
      answeredRequest).map (fun final => final.answers.map Answer.payload) =
        some [[9, 8]] := by
    decide
  obtain ⟨final, executed, payloads⟩ := Option.map_eq_some_iff.mp ran
  have run := Run.guardedRun_of_execGuarded executed
  exact ⟨final, run.exec_eq, matched_of_orderly _ _ final run, payloads⟩

/-- A notification arrives while the call waits. -/
def notifiedRequest : List Label :=
  requestSent ++ [.arrive .notification (Bus.mgmtFrame 7)] ++ taken

/-- The call returns 0 with the contents of the notification. -/
theorem notification_returned :
    ∃ final, Run.exec step (boot fun _ => true) notifiedRequest = some final ∧
      final.bus.results =
        [(Bus.shortCall, .success (some [7]))] ∧
      ¬Matched final := by
  refine ⟨_, rfl, rfl, ?_⟩
  intro matched
  have own := matched.own
    { request := 0, call := Bus.shortCall, origin := .notification
      payload := [7] } (List.mem_singleton_self _)
  cases own.1

end Tracked

end SerialLink
