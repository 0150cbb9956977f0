import SerialLink.Library.Run
import SerialLink.Host.Reception

/-!
# `bus_request` and `bus_sync`

`advance` is the next step of the thread inside `bus_request` or `bus_sync`;
it is not enabled while the thread waits for `rx_sem`.  `step` adds what can
happen in between: a frame arrives, as a whole or in parts, the wait times
out, or a call begins.
-/

namespace SerialLink

/-- `request_pending` at a point of the thread.  A call returns with the flag
set or, from the end of its attempt loop, with the flag cleared. -/
def Thread.pends : Thread → Option Bool
  | .outside => some false
  | .requestLoop _ _ _ => some false
  | .requestReturn _ _ => none
  | .syncLoop _ _ => some false
  | .syncDrain _ _ _ => some false
  | .syncResponse _ => some false
  | _ => some true

namespace Bus

def moveTo (bus : Bus) (thread : Thread) : Bus :=
  { bus with thread }

/-- `request_pending = false` -/
def clearPending (bus : Bus) : Bus :=
  { bus with requestPending := false }

/-- A successful `k_sem_take`. -/
def takeToken (bus : Bus) : Bus :=
  { bus with rxSem := false }

/-- The header of a request frame. -/
def requestHeader (bus : Bus) (call : Call) : SerialHeader :=
  { type := call.type, noAck := false, host := false, error := .noError
    reserved := 0, sequenceNumber := Fin.ofNat 16 bus.txSeq
    length := Fin.ofNat 65536 call.request.length }

/-- The header of a `PROTOCOL_INFO` query. -/
def queryHeader (bus : Bus) : SerialHeader :=
  { type := .protocolInfo, noAck := true, host := false, error := .noError
    reserved := 0, sequenceNumber := Fin.ofNat 16 bus.txSeq, length := 0 }

/-- `tx_seq` is advanced and `request_pending` set. -/
def reserveRequest (bus : Bus) : Bus :=
  { bus with
    txSeq := seqNext bus.txSeq
    requestPending := true }

def setPending (bus : Bus) : Bus :=
  { bus with requestPending := true }

/-- The end of `bus_request`. -/
def returnRequest (bus : Bus) (call : Call) (result : Result) : Bus :=
  { bus with
    results := bus.results ++ [(call, result)]
    thread := .outside }

/-- `bus_open` returns. -/
def returnOpen (bus : Bus) (outcome : Except Errno Unit) : Bus :=
  { bus with
    opens := bus.opens ++ [outcome]
    thread := .outside }

/-- The end of `bus_sync`, at its caller. -/
def finishSync (bus : Bus) (outcome : Except Errno Unit) : SyncCaller → Bus
  | .busOpen => bus.returnOpen outcome
  | .busRequest call attempt =>
      match outcome with
      | .ok () => bus.moveTo (.requestLoop call (attempt + 1) true)
      | .error _ => bus.returnRequest call (.failure .etimedout)

/-- A data frame in the mailbox is not looked at any further by `bus_sync`. -/
def discardFrame (bus : Bus) : Bus :=
  if bus.lastHdr.length.val = 0 then bus
  else
    bus.dispose .synced bus.lastHdr.type
      (bus.rxPayload bus.lastHdr.length.val)

/-- Only the records are affected. -/
theorem discardFrame_eq (bus : Bus) :
    bus.discardFrame =
      { bus with disposals := bus.discardFrame.disposals } := by
  unfold discardFrame
  split <;> rfl

@[simp] theorem discardFrame_thread (bus : Bus) :
    bus.discardFrame.thread = bus.thread := by
  rw [discardFrame_eq]

/-- What `bus_sync` learns from a response. -/
def learn (bus : Bus) : Bus :=
  { bus with
    supportedTypes := (bus.rxBuf 1).toNat + (bus.rxBuf 2).toNat * 256
    txSeq := (bus.rxBuf 3).toNat }

/-- The four bytes of a response are read from `rx_buf`. -/
def readResponse (bus : Bus) (caller : SyncCaller) : Bus :=
  let bus := bus.dispose .synced .protocolInfo (bus.rxPayload 4)
  if (bus.rxBuf 0).toNat ≠ serialProtocolVersion then
    bus.finishSync (.error .enotsup) caller
  else bus.learn.finishSync (.ok ()) caller

/-- The copy into the caller's buffer. -/
def copyResponse (bus : Bus) (call : Call) (last : SerialHeader) : Result :=
  .success (if call.resp then
    some (bus.rxPayload (min last.length.val busRxBufSize)) else none)

/-- The data frame `last`: the response, or a frame of another type. -/
def readFrame (bus : Bus) (call : Call) (attempt : Nat) (retried : Bool)
    (last : SerialHeader) : Bus :=
  let payload := bus.rxPayload last.length.val
  if last.type = call.type then
    (bus.dispose (.returned call) last.type payload).moveTo
      (.requestReturn call (bus.copyResponse call last))
  else
    (bus.callHandler last.type payload).moveTo
      (.requestTake call attempt retried)

/-- What `bus_request` does with `last_hdr`. -/
def inspectAnswer (bus : Bus) (call : Call) (attempt : Nat) (retried : Bool) :
    Thread :=
  let last := bus.lastHdr
  if last.length.val = 0 then
    if last.error = .incorrectSequenceNumber ∧ retried = false then
      .requestResync call attempt
    else .requestTake call attempt retried
  else .requestFrame call attempt retried last

/-- Whether `last_hdr` fits a response of `PROTOCOL_INFO`. -/
def answersQuery (bus : Bus) : Bool :=
  bus.lastHdr.type = .protocolInfo ∧ bus.lastHdr.length.val = 4

/-- The next step of the thread. -/
def advance (bus : Bus) : Option Bus :=
  match bus.thread with
  | .outside => none
  | .requestLoop call attempt retried =>
      if attempt < 2 ∧ retried = false then
        some (bus.reserveRequest.moveTo
          (.requestSend call attempt retried (bus.requestHeader call)))
      else some (bus.moveTo (.requestReturn call (.failure .etimedout)))
  | .requestSend call attempt retried header =>
      some ((bus.busSendRaw .request header call.request).moveTo
        (.requestTake call attempt retried))
  | .requestTake call attempt retried =>
      if bus.rxSem then
        some (bus.takeToken.moveTo (.requestInspect call attempt retried))
      else none
  | .requestInspect call attempt retried =>
      some (bus.moveTo (bus.inspectAnswer call attempt retried))
  | .requestFrame call attempt retried last =>
      some (bus.readFrame call attempt retried last)
  | .requestResync call attempt =>
      some (bus.clearPending.moveTo (.syncLoop (.busRequest call attempt) 0))
  | .requestReturn call result =>
      some (bus.clearPending.returnRequest call result)
  | .syncLoop caller attempt =>
      if attempt < busSyncRetries then
        some (bus.moveTo (.syncDrain caller attempt bus.queryHeader))
      else some (bus.finishSync (.error .etimedout) caller)
  | .syncDrain caller attempt query =>
      if bus.rxSem then some bus.discardFrame.takeToken
      else some (bus.setPending.moveTo (.syncSend caller attempt query))
  | .syncSend caller attempt query =>
      some ((bus.busSendRaw .query query []).moveTo (.syncTake caller attempt))
  | .syncTake caller attempt =>
      if bus.rxSem then
        some (bus.takeToken.moveTo (.syncInspect caller attempt))
      else none
  | .syncInspect caller attempt =>
      if bus.answersQuery then some (bus.moveTo (.syncAccept caller))
      else some (bus.discardFrame.moveTo (.syncClear caller attempt))
  | .syncClear caller attempt =>
      some (bus.clearPending.moveTo (.syncLoop caller (attempt + 1)))
  | .syncAccept caller =>
      some (bus.clearPending.moveTo (.syncResponse caller))
  | .syncResponse caller => some (bus.readResponse caller)

/-- The transitions of `advance`, one for each branch. -/
inductive Advances (bus : Bus) : Bus → Prop where
  | beginAttempt {call : Call} {attempt : Nat}
      (position : bus.thread = .requestLoop call attempt false)
      (allowed : attempt < 2) :
      Advances bus (bus.reserveRequest.moveTo
        (.requestSend call attempt false (bus.requestHeader call)))
  | endAttempts {call : Call} {attempt : Nat} {retried : Bool}
      (position : bus.thread = .requestLoop call attempt retried)
      (ended : ¬(attempt < 2 ∧ retried = false)) :
      Advances bus (bus.moveTo (.requestReturn call (.failure .etimedout)))
  | sendRequest {call : Call} {attempt : Nat} {retried : Bool}
      {header : SerialHeader}
      (position : bus.thread = .requestSend call attempt retried header) :
      Advances bus ((bus.busSendRaw .request header call.request).moveTo
        (.requestTake call attempt retried))
  | takeAnswer {call : Call} {attempt : Nat} {retried : Bool}
      (position : bus.thread = .requestTake call attempt retried)
      (given : bus.rxSem = true) :
      Advances bus
        (bus.takeToken.moveTo (.requestInspect call attempt retried))
  | inspectRejection {call : Call} {attempt : Nat}
      (position : bus.thread = .requestInspect call attempt false)
      (empty : bus.lastHdr.length.val = 0)
      (rejected : bus.lastHdr.error = .incorrectSequenceNumber) :
      Advances bus (bus.moveTo (.requestResync call attempt))
  | inspectAck {call : Call} {attempt : Nat} {retried : Bool}
      (position : bus.thread = .requestInspect call attempt retried)
      (empty : bus.lastHdr.length.val = 0) :
      Advances bus (bus.moveTo (.requestTake call attempt retried))
  | inspectData {call : Call} {attempt : Nat} {retried : Bool}
      (position : bus.thread = .requestInspect call attempt retried)
      (nonempty : bus.lastHdr.length.val ≠ 0) :
      Advances bus
        (bus.moveTo (.requestFrame call attempt retried bus.lastHdr))
  | copyResponse {call : Call} {attempt : Nat} {retried : Bool}
      {last : SerialHeader}
      (position : bus.thread = .requestFrame call attempt retried last)
      (same : last.type = call.type) :
      Advances bus ((bus.dispose (.returned call) last.type
          (bus.rxPayload last.length.val)).moveTo
        (.requestReturn call (bus.copyResponse call last)))
  | passOn {call : Call} {attempt : Nat} {retried : Bool}
      {last : SerialHeader}
      (position : bus.thread = .requestFrame call attempt retried last)
      (other : last.type ≠ call.type) :
      Advances bus ((bus.callHandler last.type
          (bus.rxPayload last.length.val)).moveTo
        (.requestTake call attempt retried))
  | resync {call : Call} {attempt : Nat}
      (position : bus.thread = .requestResync call attempt) :
      Advances bus
        (bus.clearPending.moveTo (.syncLoop (.busRequest call attempt) 0))
  | leaveRequest {call : Call} {result : Result}
      (position : bus.thread = .requestReturn call result) :
      Advances bus (bus.clearPending.returnRequest call result)
  | beginQuery {caller : SyncCaller} {attempt : Nat}
      (position : bus.thread = .syncLoop caller attempt)
      (allowed : attempt < busSyncRetries) :
      Advances bus (bus.moveTo (.syncDrain caller attempt bus.queryHeader))
  | endQueries {caller : SyncCaller} {attempt : Nat}
      (position : bus.thread = .syncLoop caller attempt) :
      Advances bus (bus.finishSync (.error .etimedout) caller)
  | drainToken {caller : SyncCaller} {attempt : Nat} {query : SerialHeader}
      (position : bus.thread = .syncDrain caller attempt query)
      (given : bus.rxSem = true) :
      Advances bus bus.discardFrame.takeToken
  | drained {caller : SyncCaller} {attempt : Nat} {query : SerialHeader}
      (position : bus.thread = .syncDrain caller attempt query)
      (none : bus.rxSem = false) :
      Advances bus (bus.setPending.moveTo (.syncSend caller attempt query))
  | sendQuery {caller : SyncCaller} {attempt : Nat} {query : SerialHeader}
      (position : bus.thread = .syncSend caller attempt query) :
      Advances bus
        ((bus.busSendRaw .query query []).moveTo (.syncTake caller attempt))
  | takeResponse {caller : SyncCaller} {attempt : Nat}
      (position : bus.thread = .syncTake caller attempt)
      (given : bus.rxSem = true) :
      Advances bus (bus.takeToken.moveTo (.syncInspect caller attempt))
  | acceptResponse {caller : SyncCaller} {attempt : Nat}
      (position : bus.thread = .syncInspect caller attempt)
      (fits : bus.answersQuery = true) :
      Advances bus (bus.moveTo (.syncAccept caller))
  | rejectResponse {caller : SyncCaller} {attempt : Nat}
      (position : bus.thread = .syncInspect caller attempt) :
      Advances bus (bus.discardFrame.moveTo (.syncClear caller attempt))
  | clearAttempt {caller : SyncCaller} {attempt : Nat}
      (position : bus.thread = .syncClear caller attempt) :
      Advances bus
        (bus.clearPending.moveTo (.syncLoop caller (attempt + 1)))
  | clearAccepted {caller : SyncCaller}
      (position : bus.thread = .syncAccept caller) :
      Advances bus (bus.clearPending.moveTo (.syncResponse caller))
  | readResponse {caller : SyncCaller}
      (position : bus.thread = .syncResponse caller) :
      Advances bus (bus.readResponse caller)

theorem advances_of_advance {bus later : Bus}
    (advanced : bus.advance = some later) : Advances bus later := by
  cases position : bus.thread with
  | outside => simp [advance, position] at advanced
  | requestLoop call attempt retried =>
      simp only [advance, position] at advanced
      split at advanced
      · rename_i allowed
        obtain ⟨small, rfl⟩ := allowed
        exact Option.some.inj advanced ▸ .beginAttempt position small
      · rename_i ended
        exact Option.some.inj advanced ▸ .endAttempts position ended
  | requestSend call attempt retried header =>
      simp only [advance, position] at advanced
      exact Option.some.inj advanced ▸ .sendRequest position
  | requestTake call attempt retried =>
      simp only [advance, position] at advanced
      split at advanced
      · rename_i given
        exact Option.some.inj advanced ▸ .takeAnswer position given
      · cases advanced
  | requestInspect call attempt retried =>
      simp only [advance, position, inspectAnswer] at advanced
      split at advanced
      · rename_i empty
        split at advanced
        · rename_i rejected
          obtain ⟨error, rfl⟩ := rejected
          exact Option.some.inj advanced ▸
            .inspectRejection position empty error
        · exact Option.some.inj advanced ▸ .inspectAck position empty
      · rename_i nonempty
        exact Option.some.inj advanced ▸ .inspectData position nonempty
  | requestFrame call attempt retried last =>
      simp only [advance, position, readFrame] at advanced
      split at advanced
      · rename_i same
        exact Option.some.inj advanced ▸ .copyResponse position same
      · rename_i other
        exact Option.some.inj advanced ▸ .passOn position other
  | requestResync call attempt =>
      simp only [advance, position] at advanced
      exact Option.some.inj advanced ▸ .resync position
  | requestReturn call result =>
      simp only [advance, position] at advanced
      exact Option.some.inj advanced ▸ .leaveRequest position
  | syncLoop caller attempt =>
      simp only [advance, position] at advanced
      split at advanced
      · rename_i allowed
        exact Option.some.inj advanced ▸ .beginQuery position allowed
      · exact Option.some.inj advanced ▸ .endQueries position
  | syncDrain caller attempt query =>
      simp only [advance, position] at advanced
      split at advanced
      · rename_i given
        exact Option.some.inj advanced ▸ .drainToken position given
      · rename_i empty
        exact Option.some.inj advanced ▸
          .drained position (Bool.eq_false_iff.mpr empty)
  | syncSend caller attempt query =>
      simp only [advance, position] at advanced
      exact Option.some.inj advanced ▸ .sendQuery position
  | syncTake caller attempt =>
      simp only [advance, position] at advanced
      split at advanced
      · rename_i given
        exact Option.some.inj advanced ▸ .takeResponse position given
      · cases advanced
  | syncInspect caller attempt =>
      simp only [advance, position] at advanced
      split at advanced
      · rename_i fits
        exact Option.some.inj advanced ▸ .acceptResponse position fits
      · exact Option.some.inj advanced ▸ .rejectResponse position
  | syncClear caller attempt =>
      simp only [advance, position] at advanced
      exact Option.some.inj advanced ▸ .clearAttempt position
  | syncAccept caller =>
      simp only [advance, position] at advanced
      exact Option.some.inj advanced ▸ .clearAccepted position
  | syncResponse caller =>
      simp only [advance, position] at advanced
      exact Option.some.inj advanced ▸ .readResponse position

/-- `k_sem_take` times out. -/
def expire (bus : Bus) : Option Bus :=
  if bus.rxSem then none
  else
    match bus.thread with
    | .requestTake call _ _ =>
        some (bus.moveTo (.requestReturn call (.failure .etimedout)))
    | .syncTake caller attempt =>
        some (bus.moveTo (.syncClear caller attempt))
    | _ => none

/-- The checks at the beginning of `bus_request`. -/
def checkRequest (bus : Bus) (call : Call) : Except Errno Unit :=
  if bus.opened = false then .error .enodev
  else if call.type.known = false then .error .einval
  else
    match busValidateTx call.type (call.request.length % 65536) with
    | .error _ => .error .einval
    | .ok () => .ok ()

/-- `bus_request` is called. -/
def busRequest (bus : Bus) (call : Call) : Bus :=
  match bus.checkRequest call with
  | .error errno => bus.returnRequest call (.failure errno)
  | .ok () => bus.moveTo (.requestLoop call 0 false)

/-- `bus_open` has set up the bus and calls `bus_sync`. -/
def beginOpen (bus : Bus) : Bus :=
  { bus with
    state := .type
    bytesRead := 0
    txSeq := 0
    opened := true
    thread := .syncLoop .busOpen 0 }

/-- `bus_open` is called; the UART is present and ready. -/
def busOpen (bus : Bus) : Bus :=
  if bus.opened then bus.returnOpen (.ok ()) else bus.beginOpen

inductive Label where
  /-- The thread takes its next step. -/
  | advance
  /-- The thread's wait for `rx_sem` times out. -/
  | expire
  /-- `bus_rx_work` completes a frame. -/
  | receive (frame : Frame)
  /-- `bus_rx_work` has read part of a payload. -/
  | readPart (frame : Frame) (count : Nat)
  | busRequest (call : Call)
  | busOpen

/-- The bus and its thread.  A longer payload is refused by `bus_rx_isr`.  It
is left open whether a frame that has been read in part is the next one to be
completed. -/
def step (bus : Bus) : Label → Option Bus
  | .advance => bus.advance
  | .expire => bus.expire
  | .receive frame =>
      if frame.payload.length ≤ serialMaxPayloadLen then
        some (bus.receive frame)
      else none
  | .readPart frame count =>
      if count < frame.payload.length ∧
          frame.payload.length ≤ serialMaxPayloadLen then
        some (bus.readPart frame count)
      else none
  | .busRequest call =>
      if bus.thread = .outside then some (bus.busRequest call) else none
  | .busOpen =>
      if bus.thread = .outside then some bus.busOpen else none

/-- The transitions of `step`, one for each branch. -/
inductive Steps (bus : Bus) : Label → Bus → Prop where
  | advance {later : Bus} (advances : Advances bus later) :
      Steps bus .advance later
  | expireRequest {call : Call} {attempt : Nat} {retried : Bool}
      (position : bus.thread = .requestTake call attempt retried) :
      Steps bus .expire
        (bus.moveTo (.requestReturn call (.failure .etimedout)))
  | expireSync {caller : SyncCaller} {attempt : Nat}
      (position : bus.thread = .syncTake caller attempt) :
      Steps bus .expire (bus.moveTo (.syncClear caller attempt))
  | receive (frame : Frame) : Steps bus (.receive frame) (bus.receive frame)
  | readPart (frame : Frame) (count : Nat) :
      Steps bus (.readPart frame count) (bus.readPart frame count)
  | refuseRequest {call : Call} {errno : Errno}
      (position : bus.thread = .outside) :
      Steps bus (.busRequest call) (bus.returnRequest call (.failure errno))
  | beginRequest {call : Call} (position : bus.thread = .outside) :
      Steps bus (.busRequest call) (bus.moveTo (.requestLoop call 0 false))
  | alreadyOpen (position : bus.thread = .outside) :
      Steps bus .busOpen (bus.returnOpen (.ok ()))
  | beginOpen (position : bus.thread = .outside) :
      Steps bus .busOpen bus.beginOpen

variable {bus later : Bus} {label : Label}

theorem steps_of_expire (expired : bus.expire = some later) :
    Steps bus .expire later := by
  unfold expire at expired
  split at expired
  · cases expired
  · split at expired
    · rename_i position
      exact Option.some.inj expired ▸ .expireRequest position
    · rename_i position
      exact Option.some.inj expired ▸ .expireSync position
    · cases expired

theorem steps_of_step (stepped : bus.step label = some later) :
    Steps bus label later := by
  cases label with
  | advance => exact .advance (advances_of_advance stepped)
  | expire => exact steps_of_expire stepped
  | receive frame =>
      simp only [step, Option.ite_none_right_eq_some, Option.some.injEq]
        at stepped
      exact stepped.2 ▸ .receive frame
  | readPart frame count =>
      simp only [step, Option.ite_none_right_eq_some, Option.some.injEq]
        at stepped
      exact stepped.2 ▸ .readPart frame count
  | busRequest call =>
      simp only [step, Option.ite_none_right_eq_some, Option.some.injEq]
        at stepped
      obtain ⟨outside, rfl⟩ := stepped
      rw [busRequest]
      split
      · exact .refuseRequest outside
      · exact .beginRequest outside
  | busOpen =>
      simp only [step, Option.ite_none_right_eq_some, Option.some.injEq]
        at stepped
      obtain ⟨outside, rfl⟩ := stepped
      rw [busOpen]
      split
      · exact .alreadyOpen outside
      · exact .beginOpen outside

/-- `request_pending` is as the thread left it. -/
def FollowsThread (bus : Bus) : Prop :=
  ∀ flag, bus.thread.pends = some flag → bus.requestPending = flag

theorem followsThread_of_pends {flag : Bool}
    (pends : bus.thread.pends = some flag)
    (same : bus.requestPending = flag) : FollowsThread bus := by
  intro other expected
  rw [pends] at expected
  cases expected
  exact same

theorem followsThread_finishSync {outcome : Except Errno Unit}
    {caller : SyncCaller} (cleared : bus.requestPending = false) :
    FollowsThread (bus.finishSync outcome caller) := by
  cases caller with
  | busOpen => exact followsThread_of_pends rfl cleared
  | busRequest call attempt =>
      cases outcome with
      | ok _ => exact followsThread_of_pends rfl cleared
      | error _ => exact followsThread_of_pends rfl cleared

theorem FollowsThread.flag {thread : Thread} {flag : Bool}
    (follows : FollowsThread bus) (position : bus.thread = thread)
    (pends : thread.pends = some flag) : bus.requestPending = flag := by
  apply follows
  rw [position]
  exact pends

theorem followsThread_advances (follows : FollowsThread bus)
    (advances : Advances bus later) : FollowsThread later := by
  cases advances with
  | endAttempts position ended => exact nofun
  | copyResponse position same => exact nofun
  | endQueries position =>
      exact followsThread_finishSync (follows.flag position rfl)
  | drainToken position given =>
      rw [discardFrame_eq]
      exact follows
  | rejectResponse position =>
      rw [discardFrame_eq]
      exact followsThread_of_pends rfl (follows.flag position rfl)
  | readResponse position =>
      have cleared := follows.flag position rfl
      rw [readResponse]
      split
      · exact followsThread_finishSync cleared
      · exact followsThread_finishSync cleared
  | beginAttempt | resync | leaveRequest | drained | clearAttempt
  | clearAccepted => exact followsThread_of_pends rfl rfl
  | _ position => exact followsThread_of_pends rfl (follows.flag position rfl)

/-- `request_pending` is set exactly while a frame is waited for. -/
theorem followsThread_step (follows : FollowsThread bus)
    (stepped : bus.step label = some later) : FollowsThread later := by
  cases steps_of_step stepped with
  | advance advances => exact followsThread_advances follows advances
  | expireRequest position => exact nofun
  | receive frame =>
      have same := receive_sameThread bus frame
      rw [FollowsThread, same.thread, same.requestPending]
      exact follows
  | readPart frame count => exact follows
  | _ position => exact followsThread_of_pends rfl (follows.flag position rfl)

/-- The static memory of the host, the FIFO empty. -/
def boot (handler : SerialType → Bool) : Bus :=
  { rxFifo := []
    state := .type
    hdr :=
      { type := .wifiMgmt, noAck := false, host := false, error := .noError
        reserved := 0, sequenceNumber := 0, length := 0 }
    bytesRead := 0
    rxBuf := fun _ => 0
    rxWorkPending := false
    txSeq := 0
    rxSem := false
    requestPending := false
    lastHdr :=
      { type := .wifiMgmt, noAck := false, host := false, error := .noError
        reserved := 0, sequenceNumber := 0, length := 0 }
    supportedTypes := 0
    handler := handler
    opened := false
    thread := .outside
    results := []
    opens := []
    wire := []
    received := []
    disposals := [] }

theorem followsThread_reached {handler : SerialType → Bool}
    {labels : List Label} {bus : Bus}
    (reached : Run.exec step (boot handler) labels = some bus) :
    bus.FollowsThread :=
  Run.exec_preserves
    (fun _ _ _ follows stepped => followsThread_step follows stepped) reached
    (followsThread_of_pends rfl rfl)

/-- A bus in use, with a handler for every type. -/
def inUse : Bus :=
  { boot (fun _ => true) with opened := true }

/-- The device's response to a query. -/
def information (next : Fin 16) : Frame where
  header :=
    { type := .protocolInfo, noAck := false, host := true, error := .noError
      reserved := 0, sequenceNumber := 0, length := 4 }
  payload := [1, 0, 0, UInt8.ofNat next.val]
  length_eq := rfl

/-- A request of one byte, whose caller wants the response. -/
def shortCall : Call where
  type := .wifiMgmt
  request := [1]
  resp := true

end Bus

end SerialLink
