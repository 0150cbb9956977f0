import SerialLink.Host.Thread

/-!
# Resynchronisation inside `bus_request`

On an `INCORRECT_SEQUENCE_NUMBER` acknowledgement `bus_request` calls
`bus_sync` and is to send the request once more with the number it learnt.
It sets `retried` for that, which also ends the attempt loop: no request is
ever sent twice.
-/

namespace SerialLink

namespace Bus

/-- The headers of the request frames on the wire. -/
def requestHeaders (bus : Bus) : List SerialHeader :=
  bus.wire.filterMap fun (purpose, header, _) =>
    if purpose = .request then some header else none

/-- A run inside one call: no step begins after the call has returned. -/
def CallRun : Bus → List Label → Bus → Prop :=
  Run.GuardedRun step fun bus _ => bus.thread ≠ .outside

/-- The frames that arrive in a run. -/
def arrivals (labels : List Label) : List Frame :=
  labels.filterMap fun label =>
    match label with
    | .receive frame => some frame
    | _ => none

def RejectsSequence (frame : Frame) : Prop :=
  busValidateRx frame.header = .ok () ∧ frame.header.length.val = 0 ∧
    frame.header.error = .incorrectSequenceNumber

/-- The request was answered with a sequence error first, and the following
`bus_sync` has succeeded with the sequence number `next`. -/
structure Resynced (bus : Bus) (call : Call) (next : Nat)
    (labels : List Label) (synced : Bus) : Prop where
  run : CallRun (bus.busRequest call) labels synced
  firstAnswer : ∃ frame, (arrivals labels).head? = some frame ∧
    RejectsSequence frame
  position : synced.thread = .requestLoop call 1 true
  sequence : synced.txSeq = next

/-- A valid data frame of the type of the request. -/
def Answers (call : Call) (frame : Frame) : Prop :=
  busValidateRx frame.header = .ok () ∧ frame.header.length.val ≠ 0 ∧
    frame.header.type = call.type

/-- The request is sent once more with the number `next`, and an answer to
that frame is returned. -/
structure RetryLaw (bus : Bus) (call : Call) (next : Nat) : Prop where
  retransmits : ∀ labels synced, Resynced bus call next labels synced →
    ∀ rest final, CallRun synced rest final → final.thread = .outside →
      ∃ first second, final.requestHeaders =
          bus.requestHeaders ++ [first, second] ∧
        second.sequenceNumber.val = next
  answered : ∀ labels synced, Resynced bus call next labels synced →
    ∀ frame, Answers call frame →
      ∃ final, Run.exec step synced
          [.advance, .advance, .receive frame, .advance, .advance, .advance,
            .advance] = some final ∧
        final.results = bus.results ++
          [(call, .success (if call.resp then some frame.payload else none))]

variable {bus later start : Bus} {call : Call} {label : Label}

theorem requestHeaders_receive (frame : Frame) :
    (bus.receive frame).requestHeaders = bus.requestHeaders := by
  rcases completeFrame_wire (bus.holding frame) with same | acknowledged
  · simp only [requestHeaders, receive, same]
    rfl
  · simp only [requestHeaders, receive, acknowledged, List.filterMap_append]
    exact List.append_nil _

theorem requestHeaders_query (header : SerialHeader) :
    (bus.busSendRaw .query header []).requestHeaders = bus.requestHeaders := by
  simp [requestHeaders, busSendRaw]

theorem requestHeaders_request (header : SerialHeader)
    (payload : List UInt8) :
    (bus.busSendRaw .request header payload).requestHeaders =
      bus.requestHeaders ++ [header] := by
  simp [requestHeaders, busSendRaw]

/-- The request has not been sent and will be sent as `start` would, or it
has been sent once. -/
def SentOnce (start : Bus) (call : Call) (bus : Bus) : Prop :=
  match bus.thread with
  | .requestLoop current attempt false =>
      attempt = 0 ∧ current = call ∧ bus.txSeq = start.txSeq ∧
        bus.requestHeaders = start.requestHeaders
  | .requestSend _ _ _ header =>
      header = start.requestHeader call ∧
        bus.requestHeaders = start.requestHeaders
  | _ =>
      bus.requestHeaders = start.requestHeaders ++ [start.requestHeader call]

theorem sentOnce_finishSync {outcome : Except Errno Unit}
    {caller : SyncCaller}
    (sent : bus.requestHeaders =
      start.requestHeaders ++ [start.requestHeader call]) :
    SentOnce start call (bus.finishSync outcome caller) := by
  cases caller with
  | busOpen => exact sent
  | busRequest current attempt =>
      cases outcome with
      | ok _ => exact sent
      | error _ => exact sent

theorem sentOnce_advances (sent : SentOnce start call bus)
    (advances : Advances bus later) : SentOnce start call later := by
  cases advances with
  | beginAttempt position allowed =>
      simp only [SentOnce, position] at sent
      obtain ⟨_, rfl, sequence, headers⟩ := sent
      refine ⟨?_, headers⟩
      simp only [requestHeader, sequence]
  | @endAttempts _ attempt retried position ended =>
      cases retried with
      | false =>
          simp only [SentOnce, position] at sent
          exact absurd ⟨by omega, rfl⟩ ended
      | true =>
          simp only [SentOnce, position] at sent
          exact sent
  | sendRequest position =>
      simp only [SentOnce, position] at sent
      obtain ⟨rfl, headers⟩ := sent
      exact (requestHeaders_request _ _).trans (by rw [headers])
  | drainToken position given =>
      simp only [SentOnce, position] at sent
      rw [discardFrame_eq]
      simp only [SentOnce, takeToken, position]
      exact sent
  | sendQuery position =>
      simp only [SentOnce, position] at sent
      exact (requestHeaders_query _).trans sent
  | rejectResponse position =>
      simp only [SentOnce, position] at sent
      rw [discardFrame_eq]
      exact sent
  | endQueries position =>
      simp only [SentOnce, position] at sent
      exact sentOnce_finishSync sent
  | readResponse position =>
      simp only [SentOnce, position] at sent
      rw [readResponse]
      split
      · exact sentOnce_finishSync sent
      · exact sentOnce_finishSync sent
  | _ position =>
      simp only [SentOnce, position] at sent
      exact sent

/-- No step of a call sends its request a second time. -/
theorem sentOnce_step (sent : SentOnce start call bus)
    (inside : bus.thread ≠ .outside) (stepped : bus.step label = some later) :
    SentOnce start call later := by
  cases steps_of_step stepped with
  | advance advances => exact sentOnce_advances sent advances
  | expireRequest position =>
      simp only [SentOnce, position] at sent
      exact sent
  | expireSync position =>
      simp only [SentOnce, position] at sent
      exact sent
  | receive frame =>
      have same := receive_sameThread bus frame
      simp only [SentOnce, same.thread, same.txSeq,
        requestHeaders_receive] at sent ⊢
      exact sent
  | readPart frame count => exact sent
  | _ position => exact absurd position inside

theorem finishSync_results {outcome : Except Errno Unit}
    {caller : SyncCaller}
    (inside : (bus.finishSync outcome caller).thread ≠ .outside) :
    (bus.finishSync outcome caller).results = bus.results := by
  cases caller with
  | busOpen => exact absurd rfl inside
  | busRequest current attempt =>
      cases outcome with
      | ok _ => rfl
      | error _ => exact absurd rfl inside

theorem results_advances (advances : Advances bus later)
    (inside : later.thread ≠ .outside) : later.results = bus.results := by
  cases advances with
  | leaveRequest position => exact absurd rfl inside
  | endQueries position => exact finishSync_results inside
  | readResponse position =>
      revert inside
      rw [readResponse]
      split
      · exact finishSync_results
      · exact finishSync_results
  | drainToken position given => rw [discardFrame_eq, takeToken]
  | rejectResponse position => rw [discardFrame_eq, moveTo]
  | _ => rfl

/-- A call that has not returned has added no result. -/
theorem results_step (inside : bus.thread ≠ .outside)
    (stepped : bus.step label = some later)
    (still : later.thread ≠ .outside) : later.results = bus.results := by
  cases steps_of_step stepped with
  | advance advances => exact results_advances advances still
  | expireRequest position => rfl
  | expireSync position => rfl
  | receive frame => exact (receive_sameThread bus frame).results
  | readPart frame count => rfl
  | _ position => exact absurd position inside

/-- The call is about to fail, or has failed. -/
def GivenUp (results : List (Call × Result)) (call : Call) (bus : Bus) : Prop :=
  match bus.thread with
  | .requestLoop current _ true => current = call ∧ bus.results = results
  | .requestReturn current result =>
      current = call ∧ result = .failure .etimedout ∧ bus.results = results
  | .outside => bus.results = results ++ [(call, .failure .etimedout)]
  | _ => False

theorem givenUp_advances {results : List (Call × Result)}
    (given : GivenUp results call bus) (advances : Advances bus later) :
    GivenUp results call later := by
  cases advances with
  | beginAttempt position _ => simp [GivenUp, position] at given
  | @endAttempts current _ retried position _ =>
      cases retried with
      | false => simp [GivenUp, position] at given
      | true =>
          simp only [GivenUp, position] at given
          exact ⟨given.1, rfl, given.2⟩
  | leaveRequest position =>
      simp only [GivenUp, position] at given
      obtain ⟨rfl, rfl, same⟩ := given
      simp only [GivenUp, returnRequest, clearPending, same]
  | _ position => simp [GivenUp, position] at given

theorem givenUp_step {results : List (Call × Result)}
    (given : GivenUp results call bus) (inside : bus.thread ≠ .outside)
    (stepped : bus.step label = some later) : GivenUp results call later := by
  cases steps_of_step stepped with
  | advance advances => exact givenUp_advances given advances
  | expireRequest position => simp [GivenUp, position] at given
  | expireSync position => simp [GivenUp, position] at given
  | receive frame =>
      have same := receive_sameThread bus frame
      simpa only [GivenUp, same.thread, same.results] using given
  | readPart frame count => exact given
  | _ position => exact absurd position inside

/-- The sequence error the device answers a frame with. -/
def rejection (type : SerialType) : Frame where
  header :=
    { type, noAck := false, host := true, error := .incorrectSequenceNumber
      reserved := 0, sequenceNumber := 0, length := 0 }
  payload := []
  length_eq := rfl

theorem rejection_rejects {type : SerialType} (known : type.known = true) :
    RejectsSequence (rejection type) := by
  refine ⟨?_, rfl, rfl⟩
  simp [busValidateRx, rejection, known]

theorem exec_receive (frame : Frame) (labels : List Label)
    (bounded : frame.payload.length ≤ serialMaxPayloadLen) :
    Run.exec step bus (.receive frame :: labels) =
      Run.exec step (bus.receive frame) labels := by
  simp only [Run.exec, step, if_pos bounded]

def rejectedLabels (type : SerialType) : List Label :=
  [.advance, .advance, .receive (rejection type), .advance, .advance, .advance]

/-- The request is sent, and a sequence error takes the thread to
`bus_sync`. -/
theorem exec_rejected (known : call.type.known = true)
    (position : bus.thread = .requestLoop call 0 false) :
    ∃ rejected, Run.exec step bus (rejectedLabels call.type) =
        some rejected ∧
      rejected.thread = .syncLoop (.busRequest call 0) 0 ∧
      rejected.rxSem = false := by
  simp [rejectedLabels, Run.exec, step, advance, position, moveTo,
    reserveRequest, busSendRaw, takeToken, clearPending, inspectAnswer,
    rejection, receive, completeFrame, holding, busValidateRx, known, wake,
    resetParser]

def queryLabels : List Label := [.advance, .advance, .advance]

/-- The query is sent and its response waited for. -/
theorem exec_query {caller : SyncCaller}
    (position : bus.thread = .syncLoop caller 0)
    (drained : bus.rxSem = false) :
    Run.exec step bus queryLabels =
      some ((bus.setPending.busSendRaw .query bus.queryHeader []).moveTo
        (.syncTake caller 0)) := by
  have attempts : 0 < busSyncRetries := by decide
  simp [queryLabels, Run.exec, step, advance, position, attempts, moveTo,
    drained, setPending, busSendRaw]

/-- The bus after the response to a query has been read. -/
def responded (bus : Bus) (caller : SyncCaller) : Bus :=
  let reading := bus.takeToken.clearPending.moveTo (.syncResponse caller)
  (reading.dispose .synced .protocolInfo (reading.rxPayload 4)).learn

/-- A response of the right version is read. -/
theorem exec_response {caller : SyncCaller} {attempt : Nat}
    (position : bus.thread = .syncTake caller attempt)
    (given : bus.rxSem = true) (fits : bus.answersQuery = true)
    (version : (bus.rxBuf 0).toNat = serialProtocolVersion) :
    Run.exec step bus [.advance, .advance, .advance, .advance] =
      some ((bus.responded caller).finishSync (.ok ()) caller) := by
  let reading := bus.takeToken.clearPending.moveTo (.syncResponse caller)
  have still : (bus.takeToken.moveTo
      (.syncInspect caller attempt)).answersQuery = true := fits
  have read : reading.readResponse caller =
      (bus.responded caller).finishSync (.ok ()) caller :=
    if_neg (not_not_intro version)
  rw [← read]
  simp only [Run.exec, step, advance, position, given, if_true]
  simp only [moveTo] at still ⊢
  simp only [still, if_true]
  rfl

def syncedLabels (next : Fin 16) : List Label :=
  queryLabels ++
    [.receive (information next), .advance, .advance, .advance, .advance]

/-- A response is received and `bus_sync` succeeds. -/
theorem exec_synced {caller : SyncCaller} (next : Fin 16)
    (position : bus.thread = .syncLoop caller 0)
    (drained : bus.rxSem = false) :
    ∃ synced : Bus, Run.exec step bus (syncedLabels next) =
        some (synced.finishSync (.ok ()) caller) ∧
      synced.txSeq = next := by
  let waiting := (bus.setPending.busSendRaw .query bus.queryHeader []).moveTo
    (.syncTake caller 0)
  have valid : busValidateRx (information next).header = .ok () := rfl
  have pending : waiting.requestPending = true := rfl
  obtain ⟨given, last⟩ := receive_wakes valid pending
  have buffer := receive_rxBuf waiting (information next)
  have fits : (waiting.receive (information next)).answersQuery = true := by
    simp only [answersQuery, last]
    rfl
  have version : ((waiting.receive (information next)).rxBuf 0).toNat =
      serialProtocolVersion := by
    rw [buffer]
    rfl
  have sequence : ((waiting.receive (information next)).rxBuf 3).toNat =
      next.val := by
    rw [buffer]
    show (UInt8.ofNat next.val).toNat = next.val
    rw [UInt8.toNat_ofNat']
    omega
  have read := exec_response
    (receive_sameThread waiting (information next)).thread given fits version
  refine ⟨(waiting.receive (information next)).responded caller, ?_, sequence⟩
  rw [← read]
  have bounded : (information next).payload.length ≤ serialMaxPayloadLen := by
    show 4 ≤ serialMaxPayloadLen
    decide
  rw [← exec_receive (information next) _ bounded, syncedLabels,
    Run.exec_append, exec_query position drained]
  rfl

/-- The labels with which a call begins. -/
def Label.entersCall : Label → Bool
  | .busRequest _ => true
  | .busOpen => true
  | _ => false

theorem outside_step (outside : bus.thread = .outside)
    (continues : label.entersCall = false)
    (stepped : bus.step label = some later) : later.thread = .outside := by
  cases label with
  | advance => simp [step, advance, outside] at stepped
  | expire => simp [step, expire, outside] at stepped
  | receive frame =>
      cases steps_of_step stepped
      exact (receive_sameThread bus frame).thread.trans outside
  | readPart frame count =>
      cases steps_of_step stepped
      exact outside
  | busRequest _ => cases continues
  | busOpen => cases continues

/-- A run without a further call that ends inside a call is a run inside that
call: a thread that has returned stays outside. -/
theorem callRun_of_exec {labels : List Label} {final : Bus}
    (executed : Run.exec step bus labels = some final)
    (continues : ∀ label ∈ labels, label.entersCall = false)
    (inside : final.thread ≠ .outside) : CallRun bus labels final := by
  induction labels generalizing bus with
  | nil =>
      cases executed
      exact .nil _
  | cons label labels induction =>
      rw [Run.exec] at executed
      split at executed
      · rename_i next stepped
        have rest := induction executed fun other member =>
          continues other (List.mem_cons_of_mem label member)
        refine .cons ?_ stepped rest
        intro outside
        have returned := outside_step outside
          (continues label List.mem_cons_self) stepped
        cases rest with
        | nil => exact inside returned
        | cons allowed _ _ => exact allowed returned
      · cases executed

/-- Every request meets a run in which the resynchronisation succeeds. -/
theorem exists_resynced (accepted : bus.checkRequest call = .ok ())
    (next : Fin 16) :
    ∃ labels synced, Resynced bus call next labels synced := by
  have known : call.type.known = true := by
    simp only [checkRequest] at accepted
    split at accepted
    · cases accepted
    · split at accepted
      · cases accepted
      · rename_i known
        simpa using known
  have begun : bus.busRequest call =
      bus.moveTo (.requestLoop call 0 false) := by
    simp only [busRequest, accepted]
  obtain ⟨rejected, toRejection, position, drained⟩ :=
    exec_rejected known (congrArg Bus.thread begun)
  obtain ⟨synced, toSynced, sequence⟩ := exec_synced next position drained
  have executed : Run.exec step (bus.busRequest call)
      (rejectedLabels call.type ++ syncedLabels next) =
        some (synced.finishSync (.ok ()) (.busRequest call 0)) := by
    rw [Run.exec_append, toRejection]
    exact toSynced
  have continues : ∀ label ∈ rejectedLabels call.type ++ syncedLabels next,
      label.entersCall = false := by
    simp [rejectedLabels, syncedLabels, queryLabels, Label.entersCall]
  refine ⟨_, _, callRun_of_exec executed continues ?_,
    ⟨rejection call.type, rfl, rejection_rejects known⟩, rfl, sequence⟩
  intro returned
  cases returned

theorem sentOnce_busRequest (accepted : bus.checkRequest call = .ok ()) :
    SentOnce bus call (bus.busRequest call) := by
  simp only [busRequest, accepted]
  exact ⟨rfl, rfl, rfl, rfl⟩

/-- Inside a call the request is sent at most once. -/
theorem CallRun.sentOnce {labels : List Label} {final : Bus}
    (run : CallRun bus labels final) (sent : SentOnce start call bus) :
    SentOnce start call final :=
  Run.GuardedRun.preserves
    (fun _ _ _ kept inside stepped => sentOnce_step kept inside stepped)
    run sent

theorem CallRun.results_eq {labels : List Label} {final : Bus}
    (run : CallRun bus labels final) (inside : final.thread ≠ .outside) :
    final.results = bus.results := by
  induction run with
  | nil => rfl
  | cons allowed stepped rest induction =>
      rw [induction inside]
      cases rest with
      | nil => exact results_step allowed stepped inside
      | cons next _ _ => exact results_step allowed stepped next

/-- What a call does once it has been resynchronised. -/
theorem Resynced.fails {next : Nat} {labels rest : List Label}
    {synced final : Bus} (accepted : bus.checkRequest call = .ok ())
    (resynced : Resynced bus call next labels synced)
    (run : CallRun synced rest final) (returned : final.thread = .outside) :
    final.requestHeaders = bus.requestHeaders ++ [bus.requestHeader call] ∧
      final.results = bus.results ++ [(call, .failure .etimedout)] := by
  constructor
  · have sent := run.sentOnce
      (resynced.run.sentOnce (sentOnce_busRequest accepted))
    simpa only [SentOnce, returned] using sent
  · have inside : synced.thread ≠ .outside := by
      rw [resynced.position]
      simp
    have unanswered : synced.results = bus.results := by
      rw [resynced.run.results_eq inside]
      simp only [busRequest, accepted]
      rfl
    have given : GivenUp bus.results call synced := by
      simp only [GivenUp, resynced.position]
      exact ⟨trivial, unanswered⟩
    have failed := Run.GuardedRun.preserves
      (fun _ _ _ kept allowed stepped => givenUp_step kept allowed stepped)
      run given
    simpa only [GivenUp, returned] using failed

/-- A resynchronised call can return. -/
theorem exists_return {synced : Bus}
    (position : synced.thread = .requestLoop call 1 true) :
    ∃ rest final, CallRun synced rest final ∧ final.thread = .outside := by
  let leaving := synced.moveTo (.requestReturn call (.failure .etimedout))
  have ended : synced.step .advance = some leaving := by
    simp [step, advance, position, leaving]
  have left : leaving.step .advance = some
      (leaving.clearPending.returnRequest call (.failure .etimedout)) := rfl
  refine ⟨[.advance, .advance], _,
    .cons ?_ ended (.cons ?_ left (.nil _)), rfl⟩
  · rw [position]
    simp
  · simp [leaving, moveTo]

theorem not_retryLaw (accepted : bus.checkRequest call = .ok ())
    (next : Fin 16) : ¬RetryLaw bus call next := by
  intro law
  obtain ⟨labels, synced, resynced⟩ := exists_resynced accepted next
  obtain ⟨rest, final, run, returned⟩ := exists_return resynced.position
  obtain ⟨first, second, twice, _⟩ :=
    law.retransmits labels synced resynced rest final run returned
  rw [(resynced.fails accepted run returned).1] at twice
  have lengths := congrArg List.length (List.append_cancel_left twice)
  simp at lengths

/-- The retry never takes place: whatever the state of the bus, the request
and the number learnt, a resynchronised call has sent its request once and
fails. -/
theorem retryLaw_never (bus : Bus) (call : Call) (next : Fin 16)
    (accepted : bus.checkRequest call = .ok ()) :
    ¬RetryLaw bus call next ∧
      ∀ labels synced, Resynced bus call next labels synced →
        ∀ rest final, CallRun synced rest final → final.thread = .outside →
          final.requestHeaders =
              bus.requestHeaders ++ [bus.requestHeader call] ∧
            final.results = bus.results ++ [(call, .failure .etimedout)] := by
  constructor
  · exact not_retryLaw accepted next
  · intro labels synced resynced rest final run returned
    exact resynced.fails accepted run returned

theorem retryLaw_never_shortCall : ¬RetryLaw inUse shortCall 3 :=
  (retryLaw_never inUse shortCall 3 rfl).1

/-- The sequence error, the response with the number 3, and then the failure
of the call with a single request on the wire. -/
theorem shortCall_not_retried :
    ¬RetryLaw inUse shortCall 3 ∧
      (Run.exec step (inUse.busRequest shortCall)
        (rejectedLabels .wifiMgmt ++ syncedLabels 3 ++
          [.advance, .advance])).map
        (fun final => (final.requestHeaders.length, final.txSeq,
          final.results)) =
        some (1, 3, [(shortCall, .failure .etimedout)]) :=
  ⟨not_retryLaw rfl 3, by decide⟩

end Bus

end SerialLink
