import SerialLink.Host.Retry
import SerialLink.Host.Send

/-!
# The length field of the host's frames

`bus_send` and `bus_request` take a `size_t` length.  Their check and the
length field of the header use its lower 16 bits, while `bus_send_raw` writes
all the bytes.
-/

namespace SerialLink

/-- The header tells the number of bytes that follow it, and a frame of this
type may have so many. -/
structure HonestLength (header : SerialHeader) (payload : List UInt8) :
    Prop where
  told : header.length.val = payload.length
  bounded : payload.length ≤ serialMaxPayloadLen
  empty : payload = [] → header.type = .protocolInfo

/-- `bus_sync` is run by the attempt loop of this call. -/
def SyncCaller.Serves (call : Call) : SyncCaller → Prop
  | .busOpen => False
  | .busRequest current _ => current = call

/-- The thread is inside this call, or has returned from it; a query that is
to be sent is a header without a payload. -/
def Thread.Serves (call : Call) : Thread → Prop
  | .outside => True
  | .requestLoop current _ _ | .requestSend current _ _ _
  | .requestTake current _ _ | .requestInspect current _ _
  | .requestFrame current _ _ _ | .requestResync current _
  | .requestReturn current _ => current = call
  | .syncLoop caller _ | .syncTake caller _ | .syncInspect caller _
  | .syncClear caller _ | .syncAccept caller | .syncResponse caller =>
      caller.Serves call
  | .syncDrain caller _ query | .syncSend caller _ query =>
      caller.Serves call ∧ HonestLength query []

namespace Bus

/-- `bus_send` fails and has no effect, or sends an honest frame. -/
def SendsHonestly (bus : Bus) (type : SerialType) (payload : List UInt8) :
    Prop :=
  (∃ errno, bus.busSend type payload = .error errno) ∨
    ∃ header later, bus.busSend type payload = .ok later ∧
      later.wire = bus.wire ++ [(.request, header, payload)] ∧
      HonestLength header payload

/-- `bus_request` fails at once and has no effect, or every frame it sends,
whenever that is, is honest, the request being among them when it returns.
The acknowledgements are those of `bus_rx_work`. -/
def RequestsHonestly (bus : Bus) (call : Call) : Prop :=
  (∃ errno, bus.busRequest call =
      { bus with
        results := bus.results ++ [(call, .failure errno)]
        thread := .outside }) ∨
    ∀ labels final, CallRun (bus.busRequest call) labels final →
      ∃ sent, final.wire = bus.wire ++ sent ∧
        (∀ purpose header payload, (purpose, header, payload) ∈ sent →
          purpose ≠ .ack → HonestLength header payload) ∧
        (final.thread = .outside →
          ∃ header, (.request, header, call.request) ∈ sent)

variable {bus later start : Bus} {call : Call} {label : Label}

theorem checkRequest_legal (passed : bus.checkRequest call = .ok ()) :
    call.request.length % 65536 ≤ serialMaxPayloadLen ∧
      (call.request.length % 65536 = 0 → call.type = .protocolInfo) := by
  rw [checkRequest] at passed
  split at passed
  · cases passed
  · split at passed
    · cases passed
    · split at passed
      · cases passed
      · rename_i validated
        rw [busValidateTx] at validated
        split at validated
        · cases validated
        · rename_i bounded
          split at validated
          · cases validated
          · rename_i legal
            refine ⟨Nat.le_of_not_lt bounded, ?_⟩
            intro empty
            by_contra other
            exact legal ⟨empty, other⟩

/-- A header built after the checks is honest exactly for the lengths that
the 16 bits of its field can tell. -/
theorem honestLength_iff (passed : bus.checkRequest call = .ok ()) :
    HonestLength (start.requestHeader call) call.request ↔
      call.request.length < 65536 := by
  obtain ⟨bounded, legal⟩ := checkRequest_legal passed
  constructor
  · intro honest
    have field := (start.requestHeader call).length.isLt
    rwa [honest.told] at field
  · intro short
    have same := Nat.mod_eq_of_lt short
    rw [same] at bounded legal
    refine ⟨same, bounded, ?_⟩
    intro empty
    exact legal (by rw [empty]; rfl)

theorem honestLength_query : HonestLength bus.queryHeader [] where
  told := rfl
  bounded := Nat.zero_le _
  empty := fun _ => rfl

theorem sendsHonestly_iff (bus : Bus) (type : SerialType)
    (payload : List UInt8) :
    bus.SendsHonestly type payload ↔
      (bus.checkRequest (sendCall type payload) = .ok () →
        payload.length < 65536) := by
  cases checked : bus.checkRequest (sendCall type payload) with
  | error errno =>
      refine iff_of_true (.inl ⟨errno, ?_⟩) (by simp)
      rw [busSend, checked]
  | ok =>
      have sent : bus.busSend type payload =
          .ok (bus.reserveSend.busSendRaw .request
            (bus.requestHeader (sendCall type payload)) payload) := by
        rw [busSend, checked]
      constructor
      · rintro (⟨errno, failed⟩ | ⟨header, later, succeeded, wire, honest⟩) -
        · rw [sent] at failed
          cases failed
        · rw [sent] at succeeded
          cases succeeded
          have frames := List.append_cancel_left wire
          cases frames
          exact (honestLength_iff checked).mp honest
      · intro short
        exact .inr ⟨_, _, sent, rfl,
          (honestLength_iff checked).mpr (short rfl)⟩

/-- A frame that is sent inside this call. -/
def Sendable (call : Call) : Purpose × SerialHeader × List UInt8 → Prop
  | (.ack, _, _) => True
  | (.query, header, payload) => HonestLength header payload
  | (.request, _, payload) => payload = call.request

/-- The frames sent since `start` belong to the call. -/
structure Conduct (start : Bus) (call : Call) (bus : Bus) : Prop where
  serves : bus.thread.Serves call
  wire : ∃ sent, bus.wire = start.wire ++ sent ∧
    ∀ frame ∈ sent, Sendable call frame

theorem Conduct.send (conduct : Conduct start call bus)
    {frame : Purpose × SerialHeader × List UInt8}
    (appended : later.wire = bus.wire ++ [frame])
    (sendable : Sendable call frame) (serves : later.thread.Serves call) :
    Conduct start call later := by
  obtain ⟨sent, wire, all⟩ := conduct.wire
  refine ⟨serves, sent ++ [frame], ?_, ?_⟩
  · rw [appended, wire, List.append_assoc]
  · intro other member
    rcases List.mem_append.mp member with earlier | last
    · exact all other earlier
    · rw [List.mem_singleton.mp last]
      exact sendable

theorem Conduct.of_same (conduct : Conduct start call bus)
    (wire : later.wire = bus.wire) (serves : later.thread.Serves call) :
    Conduct start call later :=
  ⟨serves, wire ▸ conduct.wire⟩

theorem Conduct.finishSync (conduct : Conduct start call bus)
    {outcome : Except Errno Unit} {caller : SyncCaller}
    (same : later.wire = bus.wire) (serves : caller.Serves call) :
    Conduct start call (later.finishSync outcome caller) := by
  cases caller with
  | busOpen => exact serves.elim
  | busRequest current attempt =>
      cases outcome with
      | ok _ => exact conduct.of_same same serves
      | error _ => exact conduct.of_same same trivial

theorem Conduct.advances (conduct : Conduct start call bus)
    (advances : Advances bus later) : Conduct start call later := by
  have serves := conduct.serves
  cases advances with
  | sendRequest position =>
      rw [position] at serves
      exact conduct.send rfl (congrArg Call.request serves) serves
  | sendQuery position =>
      rw [position] at serves
      exact conduct.send rfl serves.2 serves.1
  | endAttempts position ended =>
      rw [position] at serves
      exact conduct.of_same rfl serves
  | leaveRequest position => exact conduct.of_same rfl trivial
  | beginQuery position allowed =>
      rw [position] at serves
      exact conduct.of_same rfl ⟨serves, honestLength_query⟩
  | endQueries position =>
      rw [position] at serves
      exact conduct.finishSync rfl serves
  | drainToken position given =>
      rw [discardFrame_eq]
      exact conduct.of_same rfl serves
  | rejectResponse position =>
      rw [position] at serves
      rw [discardFrame_eq]
      exact conduct.of_same rfl serves
  | readResponse position =>
      rw [position] at serves
      rw [readResponse]
      split
      · exact conduct.finishSync rfl serves
      · exact conduct.finishSync rfl serves
  | _ position =>
      rw [position] at serves
      exact conduct.of_same rfl serves

theorem Conduct.receive (conduct : Conduct start call bus) (frame : Frame) :
    Conduct start call (bus.receive frame) := by
  have serves : (bus.receive frame).thread.Serves call := by
    rw [(receive_sameThread bus frame).thread]
    exact conduct.serves
  rcases completeFrame_wire (bus.holding frame) with same | acknowledged
  · exact conduct.of_same same serves
  · exact conduct.send acknowledged trivial serves

theorem Conduct.step (conduct : Conduct start call bus)
    (inside : bus.thread ≠ .outside) (stepped : bus.step label = some later) :
    Conduct start call later := by
  have serves := conduct.serves
  cases steps_of_step stepped with
  | advance advances => exact conduct.advances advances
  | expireRequest position =>
      rw [position] at serves
      exact conduct.of_same rfl serves
  | expireSync position =>
      rw [position] at serves
      exact conduct.of_same rfl serves
  | receive frame => exact conduct.receive frame
  | readPart frame count => exact conduct.of_same rfl serves
  | _ position => exact absurd position inside

theorem CallRun.conduct {labels : List Label} {final : Bus}
    (run : CallRun bus labels final) (conduct : Conduct start call bus) :
    Conduct start call final :=
  Run.GuardedRun.preserves
    (fun _ _ _ kept inside stepped => kept.step inside stepped) run conduct

/-- The first attempt: the request goes out as it is. -/
theorem callRun_firstAttempt (passed : bus.checkRequest call = .ok ()) :
    ∃ labels final, CallRun (bus.busRequest call) labels final ∧
      final.wire = bus.wire ++
        [(.request, bus.requestHeader call, call.request)] := by
  let entered := bus.moveTo (.requestLoop call 0 false)
  let reserved := entered.reserveRequest.moveTo
    (.requestSend call 0 false (bus.requestHeader call))
  have begun : bus.busRequest call = entered := by
    rw [busRequest, passed]
  have first : entered.step .advance = some reserved := rfl
  have second : reserved.step .advance = some
      ((reserved.busSendRaw .request (bus.requestHeader call)
        call.request).moveTo (.requestTake call 0 false)) := rfl
  have looping : entered.thread ≠ .outside := by
    intro outside
    cases outside
  have sending : reserved.thread ≠ .outside := by
    intro outside
    cases outside
  have run : CallRun entered [.advance, .advance] _ :=
    .cons looping first (.cons sending second (.nil _))
  exact ⟨_, _, begun ▸ run, rfl⟩

/-- The headers of the requests among some frames. -/
def headersOf (sent : List (Purpose × SerialHeader × List UInt8)) :
    List SerialHeader :=
  sent.filterMap fun (purpose, header, _) =>
    if purpose = .request then some header else none

theorem mem_headersOf {sent : List (Purpose × SerialHeader × List UInt8)}
    {header : SerialHeader} :
    header ∈ headersOf sent ↔
      ∃ payload, (.request, header, payload) ∈ sent := by
  simp [headersOf]

theorem requestHeaders_append
    {sent : List (Purpose × SerialHeader × List UInt8)}
    (wire : bus.wire = start.wire ++ sent) :
    bus.requestHeaders = start.requestHeaders ++ headersOf sent := by
  rw [requestHeaders, wire, List.filterMap_append]
  rfl

/-- Every request since the beginning of the call has the one header of the
call, and there is one when the call has returned. -/
theorem headersOf_sent (sentOnce : SentOnce start call bus)
    {sent : List (Purpose × SerialHeader × List UInt8)}
    (wire : bus.wire = start.wire ++ sent) :
    (∀ header ∈ headersOf sent, header = start.requestHeader call) ∧
      (bus.thread = .outside →
        headersOf sent = [start.requestHeader call]) := by
  have headers := requestHeaders_append wire
  have none (same : bus.requestHeaders = start.requestHeaders) :
      headersOf sent = [] := by
    rwa [same, List.self_eq_append_right] at headers
  rw [SentOnce] at sentOnce
  split at sentOnce
  · rename_i position
    rw [none sentOnce.2.2.2, position]
    exact ⟨by simp, by simp⟩
  · rename_i position
    rw [none sentOnce.2, position]
    exact ⟨by simp, by simp⟩
  · rw [sentOnce] at headers
    have one := (List.append_cancel_left headers).symm
    rw [one]
    exact ⟨by simp, fun _ => rfl⟩

/-- What an accepted call of a length that the header can tell sends. -/
theorem honest_of_callRun (passed : bus.checkRequest call = .ok ())
    (short : call.request.length < 65536) {labels : List Label} {final : Bus}
    (run : CallRun (bus.busRequest call) labels final) :
    ∃ sent, final.wire = bus.wire ++ sent ∧
      (∀ purpose header payload, (purpose, header, payload) ∈ sent →
        purpose ≠ .ack → HonestLength header payload) ∧
      (final.thread = .outside →
        ∃ header, (.request, header, call.request) ∈ sent) := by
  have begun : Conduct bus call (bus.busRequest call) := by
    rw [busRequest, passed]
    exact ⟨rfl, [], (List.append_nil _).symm, by simp⟩
  have sentOnce := run.sentOnce (sentOnce_busRequest passed)
  obtain ⟨sent, wire, sendable⟩ := (run.conduct begun).wire
  obtain ⟨same, one⟩ := headersOf_sent sentOnce wire
  refine ⟨sent, wire, ?_, ?_⟩
  · intro purpose header payload member notAck
    have allowed := sendable _ member
    cases purpose with
    | ack => exact absurd rfl notAck
    | query => exact allowed
    | request =>
        obtain rfl : payload = call.request := allowed
        rw [same header (mem_headersOf.mpr ⟨_, member⟩)]
        exact (honestLength_iff passed).mpr short
  · intro returned
    obtain ⟨payload, member⟩ := mem_headersOf.mp
      (one returned ▸ List.mem_cons_self)
    obtain rfl : payload = call.request := sendable _ member
    exact ⟨_, member⟩

theorem requestsHonestly_iff (bus : Bus) (call : Call) :
    bus.RequestsHonestly call ↔
      (bus.checkRequest call = .ok () → call.request.length < 65536) := by
  cases checked : bus.checkRequest call with
  | error errno =>
      refine iff_of_true (.inl ⟨errno, ?_⟩) (by simp)
      rw [busRequest, checked]
      rfl
  | ok =>
      constructor
      · rintro (⟨errno, refused⟩ | honest) -
        · rw [busRequest, checked] at refused
          have returned := congrArg Bus.thread refused
          cases returned
        · obtain ⟨labels, final, run, wire⟩ := callRun_firstAttempt checked
          obtain ⟨sent, same, all, _⟩ := honest labels final run
          rw [wire] at same
          have frames := List.append_cancel_left same
          subst frames
          exact (honestLength_iff checked).mp
            (all _ _ _ List.mem_cons_self (by decide))
      · intro short
        exact .inr fun labels final run =>
          honest_of_callRun checked (short rfl) run

/-- Both functions are honest about the length exactly if it fits 16 bits or
the call is refused. -/
theorem honest_iff (bus : Bus) (type : SerialType) (payload : List UInt8)
    (resp : Bool) :
    (bus.SendsHonestly type payload ↔
      payload.length < 65536 ∨
        ¬bus.checkRequest (sendCall type payload) = .ok ()) ∧
    (bus.RequestsHonestly { type, request := payload, resp } ↔
      payload.length < 65536 ∨
        ¬bus.checkRequest (sendCall type payload) = .ok ()) := by
  have same : bus.checkRequest { type, request := payload, resp } =
      bus.checkRequest (sendCall type payload) := rfl
  rw [sendsHonestly_iff, requestsHonestly_iff, same, or_comm,
    ← imp_iff_not_or, and_self]

theorem dishonest_of_length {payload : List UInt8}
    (long : payload.length = 65537) :
    (∃ later, inUse.busSend .hci payload = .ok later ∧
      later.wire.map (fun (_, header, payload) =>
        (header.length.val, payload.length)) = [(1, 65537)]) ∧
    ¬inUse.SendsHonestly .hci payload ∧
    ¬inUse.RequestsHonestly
      { type := .hci, request := payload, resp := true } := by
  have passed : inUse.checkRequest (sendCall .hci payload) = .ok () := by
    simp [checkRequest, sendCall, inUse, long, busValidateTx,
      serialMaxPayloadLen, SerialType.known]
  refine ⟨⟨_, by rw [busSend, passed], ?_⟩, ?_, ?_⟩
  · simp [busSendRaw, reserveSend, inUse, boot, requestHeader, sendCall, long]
  · rw [sendsHonestly_iff]
    intro short
    have fits := short passed
    omega
  · rw [requestsHonestly_iff]
    intro short
    have fits : payload.length < 65536 := short passed
    omega

/-- 65537 bytes are sent behind a header that tells of one, by both
functions. -/
theorem not_honest_wrapped :
    (∃ later, inUse.busSend .hci (List.replicate 65537 0) = .ok later ∧
      later.wire.map (fun (_, header, payload) =>
        (header.length.val, payload.length)) = [(1, 65537)]) ∧
    ¬inUse.SendsHonestly .hci (List.replicate 65537 0) ∧
    ¬inUse.RequestsHonestly
      { type := .hci, request := List.replicate 65537 0, resp := true } :=
  dishonest_of_length List.length_replicate

end Bus

end SerialLink
