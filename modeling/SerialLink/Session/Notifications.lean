import SerialLink.Library.FirstMatch
import SerialLink.Session.Coexist

/-!
# Commands that wait for a notification

`Scan`, `Ap enable` and `Ap disable` send one request, look at the status they
get, and wait for the notification of the result.  Whatever frame does not
match is passed over: a notification that comes before the status is lost.

The access point commands look at the status twice.  A refusal has ended the
command by the time it is asked for, so that what it says of one is never
printed.
-/

namespace SerialLink

namespace Protocol

open FirstMatch

/-- The text of an error. -/
def SessionError.toText : SessionError → String
  | .timeout => "timed out waiting for a response frame"
  | .deviceError error => "device reported protocol error " ++
      match error with
      | .noError => "NoError"
      | .incorrectSequenceNumber => "IncorrectSequenceNumber"
      | .outOfBuffers => "OutOfBuffers"
      | .lengthTooLong => "LengthTooLong"

/-- `wifi_event::EventData`, as far as the access point commands tell it
apart. -/
inductive ApEventData where
  | apEnableResultEvent (status : Int)
  | apDisableResultEvent (status : Int)
  | other
  deriving DecidableEq, Repr

/-- `WifiMgmtNotification`, with the event data of its event. -/
structure ApNotification where
  event : Option (Option ApEventData)
  deriving DecidableEq, Repr

/-- How a command ends: by `die`, by the return behind a refusal, or by
printing what the notification says. -/
inductive Ending (Event : Type) where
  | died (message : String)
  | rejected
  | printed (event : Event)
  deriving DecidableEq, Repr

section Commands

variable {Result : Type} (prost : Prost Result)
  (decodeNotification : List UInt8 → Option ApNotification)

/-- `decode_ap_result_notification` -/
def decodeApResultNotification (frame : Frame) : Option (Bool × Int) :=
  if frame.rtype ≠ .wifiMgmt then none
  else do
    let notification ← decodeNotification frame.payload
    let event ← notification.event
    match event with
    | some (.apEnableResultEvent status) => some (true, status)
    | some (.apDisableResultEvent status) => some (false, status)
    | _ => none

/-- `is_ap_result_notification` -/
def isApResultNotification (isEnable : Bool) (frame : Frame) : Bool :=
  (decodeApResultNotification decodeNotification frame).any
    (·.1 == isEnable)

/-- `decode_wifi_status_response`, of which the commands use `success`. -/
def decodeWifiStatusResponse (frame : Frame) : Except String Bool :=
  match decodeWifiMgmtResponse prost frame with
  | none => .error "Unable to decode Wi-Fi management response"
  | some response =>
      match response.payload with
      | some (.statusResp success _ _) => .ok success
      | some .other => .error "Received non-status response payload"
      | none => .error "Empty response payload"

/-- A command that sends one request.  `judge` ends it early, and `decode`
takes what it prints from the notification. -/
structure Awaiting (Event : Type) where
  command : Command
  judge : Frame → Option (Ending Event)
  matching : Frame → Bool
  decode : Frame → Option Event
  malformed : String

/-- `Commands::Scan` -/
def scan (ifaceIndex : UInt32) : Awaiting (Int × List Result) where
  command := scanCommand prost ifaceIndex
  judge frame :=
    match formatStatusResponse prost frame with
    | .error message => some (.died message)
    | .ok _ => none
  matching := isScanDoneNotification prost
  decode := decodeScanDoneNotification prost
  malformed := "malformed scan done notification"

/-- `ApCmd::Enable` and `ApCmd::Disable`, from the payload of their request
on. -/
def ap (isEnable : Bool) (payload : List UInt8) : Awaiting Int where
  command :=
    { rtype := .wifiMgmt, payload, matching := isWifiMgmtResponse prost }
  judge frame :=
    match decodeWifiStatusResponse prost frame with
    | .error message => some (.died message)
    | .ok success =>
        match formatStatusResponse prost frame with
        | .error message => some (.died message)
        | .ok _ => if success then none else some .rejected
  matching := isApResultNotification decodeNotification isEnable
  decode frame :=
    match decodeApResultNotification decodeNotification frame with
    | some (enabled, status) => if enabled = isEnable then some status else none
    | none => none
  malformed :=
    if isEnable then "malformed AP enable result notification"
    else "malformed AP disable result notification"

end Commands

namespace Awaiting

variable {Event : Type}

/-- What is made of the outcome of `wait_for`. -/
def conclude (awaiting : Awaiting Event) :
    Except SessionError Frame → Ending Event
  | .error error => .died error.toText
  | .ok frame =>
      match awaiting.decode frame with
      | some event => .printed event
      | none => .died awaiting.malformed

/-- The command ends, where `frames` are what the device writes from the
request on. -/
inductive Runs (awaiting : Awaiting Event) (frames : List SerialLink.Frame)
    (world : World) : Ending Event → World → Prop where
  | unanswered {error : SessionError} {later : World} :
      world.RequestsHearing awaiting.command frames (.error error) later →
      Runs awaiting frames world (.died error.toText) later
  | judged {response : Frame} {ending : Ending Event} {later : World} :
      world.RequestsHearing awaiting.command frames (.ok response) later →
      awaiting.judge response = some ending →
      Runs awaiting frames world ending later
  | awaited {response : Frame} {outcome : Except SessionError Frame}
      {answered later : World} :
      world.RequestsHearing awaiting.command frames (.ok response) answered →
      awaiting.judge response = none →
      answered.WaitsFor awaiting.matching outcome later →
      Runs awaiting frames world (awaiting.conclude outcome) later

/-- A command ends in one way. -/
theorem Runs.unique {awaiting : Awaiting Event}
    {frames : List SerialLink.Frame} {world left right : World}
    {first second : Ending Event} (one : Runs awaiting frames world first left)
    (other : Runs awaiting frames world second right) :
    first = second ∧ left = right := by
  cases one with
  | unanswered requested =>
      cases other with
      | unanswered again =>
          cases requested.unique again with
          | intro same equal =>
              cases same
              exact ⟨rfl, equal⟩
      | judged again | awaited again =>
          cases (requested.unique again).1
  | judged requested judgement =>
      cases other with
      | unanswered again => cases (requested.unique again).1
      | judged again judgementAgain =>
          obtain ⟨same, equal⟩ := requested.unique again
          cases same
          rw [judgement] at judgementAgain
          cases judgementAgain
          exact ⟨rfl, equal⟩
      | awaited again passed =>
          obtain ⟨same, -⟩ := requested.unique again
          cases same
          rw [judgement] at passed
          cases passed
  | awaited requested passed waited =>
      cases other with
      | unanswered again => cases (requested.unique again).1
      | judged again judgement =>
          obtain ⟨same, -⟩ := requested.unique again
          cases same
          rw [judgement] at passed
          cases passed
      | awaited again _ waitedAgain =>
          obtain ⟨same, equal⟩ := requested.unique again
          cases same
          cases equal
          obtain ⟨sameOutcome, later⟩ := waited.unique waitedAgain
          cases sameOutcome
          exact ⟨rfl, later⟩

end Awaiting

section Reading

open World

variable {matching : Frame → Bool} {frames : List SerialLink.Frame}

/-- The frames as they are read. -/
def received (frames : List SerialLink.Frame) : List Frame :=
  frames.filterMap fun frame => Frame.parse frame.encode

/-- An acknowledgement never matches. -/
def answering (matching : Frame → Bool) (frame : Frame) : Bool :=
  decide (frame.payload ≠ []) && matching frame

theorem received_cons {frame : SerialLink.Frame} (legible : Legible frame)
    (frames : List SerialLink.Frame) :
    received (frame :: frames) = legible.read :: received frames := by
  have parsed : Frame.parse frame.encode = some legible.read :=
    Frame.parse_encode frame legible.known legible.reserved legible.bounded
  rw [received, List.filterMap_cons, parsed]
  rfl

/-- The loops pass over all frames, or stop at the one that `seek` finds. -/
theorem received_cases (matching : Frame → Bool)
    (emitted : ∀ frame ∈ frames, Emitted frame) :
    (seek (answering matching) (received frames) = none ∧
        ∀ frame ∈ frames, Passes matching frame) ∨
      ∃ skips frame rest, ∃ answers : Answers matching frame,
        frames = skips ++ frame :: rest ∧
        (∀ skip ∈ skips, Passes matching skip) ∧
        seek (answering matching) (received frames) =
          some (answers.legible.read, received rest) := by
  induction frames with
  | nil => exact .inl ⟨rfl, by simp⟩
  | cons frame frames induction =>
      obtain ⟨legible, sound, -⟩ := emitted frame List.mem_cons_self
      have later := induction fun other member =>
        emitted other (List.mem_cons_of_mem frame member)
      rw [received_cons legible, seek]
      by_cases answer : answering matching legible.read = true
      · have parts := answer
        rw [answering, Bool.and_eq_true, decide_eq_true_eq] at parts
        have answers : Answers matching frame :=
          ⟨legible, sound, parts.1, parts.2⟩
        exact .inr ⟨[], frame, frames, answers, rfl, by simp,
          if_pos answer⟩
      · have passes : Passes matching frame := by
          refine ⟨legible, sound, ?_⟩
          by_cases empty : frame.payload = []
          · exact .inl empty
          · refine .inr (Bool.eq_false_iff.mpr fun matched => answer ?_)
            rw [answering, Bool.and_eq_true, decide_eq_true_eq]
            exact ⟨empty, matched⟩
        rw [if_neg answer]
        rcases later with ⟨nothing, others⟩ |
          ⟨skips, found, rest, answers, split, skipped, sought⟩
        · refine .inl ⟨nothing, ?_⟩
          intro other member
          rcases List.mem_cons.mp member with rfl | among
          · exact passes
          · exact others other among
        · refine .inr ⟨frame :: skips, found, rest, answers,
            by rw [split]; rfl, ?_, sought⟩
          intro other member
          rcases List.mem_cons.mp member with rfl | among
          · exact passes
          · exact skipped other among

variable {command : Command} {world : World}

/-- Without an answer a request times out. -/
theorem World.requestsHearing_silence {left : List SerialLink.Frame}
    (drained : world.drain.inbound = SerialLink.Frame.encodeAll left)
    (unlimited : world.patience = none)
    (passes : ∀ skip ∈ left ++ frames, Passes command.matching skip) :
    ∃ later, world.RequestsHearing command frames (.error .timeout)
      later := by
  obtain ⟨patience, -⟩ := world.beginHearing_line command frames
  let facing (skips : List SerialLink.Frame) : Waiting :=
    { world.beginHearing command frames with
      world.inbound := SerialLink.Frame.encodeAll skips }
  have start : world.beginHearing command frames = facing (left ++ frames) := by
    simp only [facing]
    simp [beginHearing, drained]
  have unread : (facing []).world.readFrame =
      (.error .timeout, (facing []).world.readFrame.2) :=
    Prod.ext (readFrame_empty rfl) rfl
  refine ⟨(facing []).world.readFrame.2, false, ?_⟩
  rw [start]
  refine Loop.returns_of_skips facing ?_ (left ++ frames) passes ?_
  · intro skip skips kept
    exact ⟨rfl, @Waiting.step_passes command (facing (skip :: skips)) _ _ kept
      rfl (patience.trans unlimited)⟩
  · apply Loop.returns_of_stop rfl
    rw [Waiting.step, unread]
    rfl

/-- A request returns the first frame that answers it, be it one that was
left in the port. -/
theorem World.requestsHearing_first {left skips rest :
      List SerialLink.Frame} {frame : SerialLink.Frame}
    (drained : world.drain.inbound = SerialLink.Frame.encodeAll left)
    (unlimited : world.patience = none)
    (split : left ++ frames = skips ++ frame :: rest)
    (passes : ∀ skip ∈ skips, Passes command.matching skip)
    (answers : Answers command.matching frame) :
    ∃ after, world.RequestsHearing command frames (.ok answers.legible.read)
        after ∧
      after.inbound = SerialLink.Frame.encodeAll rest ∧
      after.patience = none := by
  obtain ⟨patience, -⟩ := world.beginHearing_line command frames
  refine ⟨_, ⟨_, Waiting.returns_response skips rest passes answers ?_
    (patience.trans unlimited)⟩, rfl, patience.trans unlimited⟩
  rw [← split]
  simp [beginHearing, drained]

/-- `wait_for` ends, with the frame that `seek` finds if there is one. -/
theorem World.exists_waitsFor (matching : Frame → Bool)
    (inbound : world.inbound = SerialLink.Frame.encodeAll frames)
    (unlimited : world.patience = none)
    (emitted : ∀ frame ∈ frames, Emitted frame) :
    ∃ outcome later, world.WaitsFor matching outcome later ∧
      ∀ read, outcome = .ok read ↔
        ∃ rest, seek (answering matching) (received frames) =
          some (read, rest) := by
  rcases received_cases matching emitted with ⟨nothing, passes⟩ |
    ⟨skips, frame, rest, answers, rfl, passes, sought⟩
  · have silent : ({ world with inbound := [] } : World).inbound = [] := rfl
    obtain ⟨later, waited⟩ := World.waitsFor_silence matching silent
    refine ⟨.error .timeout, later, World.waitsFor_of_rest
      (inbound.trans (List.append_nil _).symm) unlimited passes waited, ?_⟩
    intro read
    rw [nothing]
    simp
  · let facing : World :=
      { world with
        inbound := frame.encode ++ SerialLink.Frame.encodeAll rest }
    have faces : facing.inbound =
        frame.encode ++ SerialLink.Frame.encodeAll rest := rfl
    have waited := World.waitsFor_answer faces unlimited answers
    refine ⟨.ok answers.legible.read, _, World.waitsFor_of_rest ?_ unlimited
      passes waited, ?_⟩
    · rw [inbound]
      simp
    · intro read
      rw [sought]
      simp [eq_comm]

end Reading

namespace Awaiting

variable {Event : Type} (awaiting : Awaiting Event)

theorem conclude_eq_printed_iff (outcome : Except SessionError Frame)
    (event : Event) :
    awaiting.conclude outcome = .printed event ↔
      ∃ frame, outcome = .ok frame ∧ awaiting.decode frame = some event := by
  cases outcome with
  | error error => simp [conclude]
  | ok frame =>
      unfold conclude
      cases decoded : awaiting.decode frame with
      | none => simp [decoded]
      | some other => simp [decoded]

theorem conclude_ne_rejected (outcome : Except SessionError Frame) :
    awaiting.conclude outcome ≠ .rejected := by
  cases outcome with
  | error error => simp [conclude]
  | ok frame =>
      unfold conclude
      cases decoded : awaiting.decode frame <;> simp [decoded]

/-- The command ends in one way, and never as refused.  It prints what the
first notification behind the first response says, if there are such frames
and the response is accepted.  If every response is, it prints something
wherever a notification comes behind a response. -/
def PrintsFirst (accepted : Frame → Prop) (frames left :
    List SerialLink.Frame) (world : World) : Prop :=
  ∃ ending later, Runs awaiting frames world ending later ∧
    (∀ other behind, Runs awaiting frames world other behind →
      other = ending ∧ behind = later) ∧
    ending ≠ .rejected ∧
    (∀ event, ending = .printed event ↔
      ∃ response result,
        pick [answering awaiting.command.matching,
            answering awaiting.matching] (received (left ++ frames)) =
          some [response, result] ∧
        accepted response ∧ awaiting.decode result = some event) ∧
    ((∀ frame, awaiting.command.matching frame = true → accepted frame) →
      ((∃ event, ending = .printed event) ↔
        ∃ response result,
          [response, result].Sublist (received (left ++ frames)) ∧
            answering awaiting.command.matching response = true ∧
              answering awaiting.matching result = true))

/-- The last part of it follows from the one before. -/
theorem printed_of_sublist {accepted : Frame → Prop} {items : List Frame}
    {ending : Ending Event}
    (decodes : ∀ frame, awaiting.matching frame = true →
      (awaiting.decode frame).isSome = true)
    (prints : ∀ event, ending = .printed event ↔
      ∃ response result,
        pick [answering awaiting.command.matching,
            answering awaiting.matching] items = some [response, result] ∧
        accepted response ∧ awaiting.decode result = some event)
    (all : ∀ frame, awaiting.command.matching frame = true →
      accepted frame) :
    (∃ event, ending = .printed event) ↔
      ∃ response result, [response, result].Sublist items ∧
        answering awaiting.command.matching response = true ∧
          answering awaiting.matching result = true := by
  constructor
  · rintro ⟨event, printed⟩
    obtain ⟨response, result, picked, -⟩ := (prints event).mp printed
    obtain ⟨among, agree⟩ := pick_sound picked
    cases agree with
    | cons first others =>
        cases others with
        | cons second _ => exact ⟨response, result, among, first, second⟩
  · rintro ⟨response, result, among, first, second⟩
    obtain ⟨found, picked⟩ :=
      exists_pick among (.cons first (.cons second .nil))
    obtain ⟨-, agree⟩ := pick_sound picked
    cases agree with
    | cons answer others =>
        cases others with
        | cons told none =>
            cases none
            rw [answering, Bool.and_eq_true] at answer told
            obtain ⟨event, decoded⟩ :=
              Option.isSome_iff_exists.mp (decodes _ told.2)
            exact ⟨event, (prints event).mpr
              ⟨_, _, picked, all _ answer.2, decoded⟩⟩

/-- The command ends, by the response or by what it waits for. -/
theorem exists_runs {frames left : List SerialLink.Frame} {world : World}
    {accepted : Frame → Prop}
    (judges : ∀ frame ending, awaiting.judge frame = some ending →
      ∃ message, ending = .died message)
    (accepts : ∀ frame, awaiting.judge frame = none ↔ accepted frame)
    (drained : world.drain.inbound = SerialLink.Frame.encodeAll left)
    (unlimited : world.patience = none)
    (emitted : ∀ frame ∈ left ++ frames, Emitted frame) :
    ∃ ending later, Runs awaiting frames world ending later ∧
      ending ≠ .rejected ∧
      ∀ event, ending = .printed event ↔
        ∃ response result,
          pick [answering awaiting.command.matching,
              answering awaiting.matching] (received (left ++ frames)) =
            some [response, result] ∧
          accepted response ∧ awaiting.decode result = some event := by
  rcases received_cases awaiting.command.matching emitted with
    ⟨nothing, passes⟩ | ⟨skips, frame, rest, answers, split, passes, sought⟩
  · obtain ⟨later, requested⟩ :=
      World.requestsHearing_silence drained unlimited passes
    refine ⟨_, later, .unanswered requested, by simp, ?_⟩
    intro event
    simp [pick, nothing]
  · obtain ⟨answered, requested, inbound, patience⟩ :=
      World.requestsHearing_first drained unlimited split passes answers
    cases judgement : awaiting.judge answers.legible.read with
    | some ending =>
        obtain ⟨message, rfl⟩ := judges _ _ judgement
        refine ⟨_, answered, .judged requested judgement, by simp, ?_⟩
        intro event
        constructor
        · intro printed
          cases printed
        · rintro ⟨response, result, picked, passed, -⟩
          obtain ⟨behind, first, -⟩ := pick_pair_iff.mp picked
          rw [sought] at first
          cases first
          rw [← accepts, judgement] at passed
          cases passed
    | none =>
        have others : ∀ frame ∈ rest, Emitted frame := by
          intro other member
          refine emitted other ?_
          rw [split]
          exact List.mem_append_right _ (List.mem_cons_of_mem _ member)
        obtain ⟨outcome, later, waited, found⟩ :=
          World.exists_waitsFor awaiting.matching inbound patience others
        refine ⟨_, later, .awaited requested judgement waited,
          awaiting.conclude_ne_rejected outcome, ?_⟩
        intro event
        rw [conclude_eq_printed_iff]
        constructor
        · rintro ⟨result, ended, decoded⟩
          exact ⟨_, result, pick_pair_iff.mpr ⟨_, sought,
            (found result).mp ended⟩, (accepts _).mp judgement, decoded⟩
        · rintro ⟨response, result, picked, -, decoded⟩
          obtain ⟨behind, first, second⟩ := pick_pair_iff.mp picked
          rw [sought] at first
          cases first
          exact ⟨result, (found result).mpr second, decoded⟩

theorem printsFirst {frames left : List SerialLink.Frame} {world : World}
    {accepted : Frame → Prop}
    (judges : ∀ frame, (awaiting.judge frame = none ↔ accepted frame) ∧
      ∀ ending, awaiting.judge frame = some ending →
        ∃ message, ending = .died message)
    (decodes : ∀ frame, awaiting.matching frame = true →
      (awaiting.decode frame).isSome = true)
    (drained : world.drain.inbound = SerialLink.Frame.encodeAll left)
    (unlimited : world.patience = none)
    (emitted : ∀ frame ∈ left ++ frames, Emitted frame) :
    awaiting.PrintsFirst accepted frames left world := by
  obtain ⟨ending, later, runs, accepted, prints⟩ :=
    awaiting.exists_runs (fun frame => (judges frame).2)
      (fun frame => (judges frame).1) drained unlimited emitted
  exact ⟨ending, later, runs, fun _ _ other => other.unique runs, accepted,
    prints, awaiting.printed_of_sublist decodes prints⟩

end Awaiting

section Judgement

variable {Result : Type} (prost : Prost Result)
  (decodeNotification : List UInt8 → Option ApNotification)

/-- A status is printed if it tells a success. -/
theorem formatStatusResponse_cases (frame : Frame) :
    (decodeWifiStatusResponse prost frame = .ok true ∧
        ∃ message, formatStatusResponse prost frame = .ok message) ∨
      (decodeWifiStatusResponse prost frame ≠ .ok true ∧
        ∃ message, formatStatusResponse prost frame = .error message) := by
  unfold decodeWifiStatusResponse formatStatusResponse
  cases decoded : decodeWifiMgmtResponse prost frame with
  | none => simp
  | some response =>
      obtain ⟨payload⟩ := response
      cases payload with
      | none => simp
      | some payload =>
          cases payload with
          | other => simp
          | statusResp success errorCode message => cases success <;> simp

theorem scan_judge (ifaceIndex : UInt32) (frame : Frame) :
    ((scan prost ifaceIndex).judge frame = none ↔
        decodeWifiStatusResponse prost frame = .ok true) ∧
      ∀ ending, (scan prost ifaceIndex).judge frame = some ending →
        ∃ message, ending = .died message := by
  simp only [scan]
  rcases formatStatusResponse_cases prost frame with
    ⟨success, message, formatted⟩ | ⟨failed, message, formatted⟩
  · rw [formatted]
    exact ⟨iff_of_true rfl success, by simp⟩
  · rw [formatted]
    refine ⟨iff_of_false (by simp) failed, ?_⟩
    intro ending judged
    cases judged
    exact ⟨message, rfl⟩

/-- A refusal has ended the command before it is asked for. -/
theorem ap_judge (isEnable : Bool) (payload : List UInt8) (frame : Frame) :
    ((ap prost decodeNotification isEnable payload).judge frame = none ↔
        decodeWifiStatusResponse prost frame = .ok true) ∧
      ∀ ending, (ap prost decodeNotification isEnable payload).judge frame =
        some ending → ∃ message, ending = .died message := by
  simp only [ap]
  cases decoded : decodeWifiStatusResponse prost frame with
  | error message =>
      refine ⟨by simp, ?_⟩
      intro ending judged
      cases judged
      exact ⟨message, rfl⟩
  | ok success =>
      rcases formatStatusResponse_cases prost frame with
        ⟨succeeded, message, formatted⟩ | ⟨failed, message, formatted⟩
      · rw [decoded] at succeeded
        cases succeeded
        simp [formatted]
      · rw [decoded] at failed
        rw [formatted]
        refine ⟨iff_of_false (by simp) failed, ?_⟩
        intro ending judged
        cases judged
        exact ⟨message, rfl⟩

theorem scan_decodes (ifaceIndex : UInt32) (frame : Frame)
    (matched : (scan prost ifaceIndex).matching frame = true) :
    ((scan prost ifaceIndex).decode frame).isSome = true :=
  matched

theorem ap_decodes (isEnable : Bool) (payload : List UInt8) (frame : Frame)
    (matched : (ap prost decodeNotification isEnable payload).matching frame =
      true) :
    ((ap prost decodeNotification isEnable payload).decode frame).isSome =
      true := by
  simp only [ap, isApResultNotification] at matched ⊢
  cases decoded : decodeApResultNotification decodeNotification frame with
  | none =>
      rw [decoded] at matched
      cases matched
  | some told =>
      rw [decoded] at matched
      have same : told.1 = isEnable := by simpa using matched
      simp [same]

end Judgement

/-- Whatever frames without an error the device writes from the request on,
and whichever of them the drain leaves whole in the port, if no deadline
passes: a scan, and the access point commands, print a result if and only if a
successful status comes first among the responses and the notification comes
behind it.  What the access point commands say of a refusal is never
printed. -/
theorem notifications_awaited {Result : Type} (prost : Prost Result)
    (decodeNotification : List UInt8 → Option ApNotification)
    (frames left : List SerialLink.Frame) (world : World)
    (drained : world.drain.inbound = SerialLink.Frame.encodeAll left)
    (unlimited : world.patience = none)
    (emitted : ∀ frame ∈ left ++ frames, Emitted frame) :
    (∀ ifaceIndex, (scan prost ifaceIndex).PrintsFirst
        (decodeWifiStatusResponse prost · = .ok true) frames left world) ∧
      ∀ isEnable payload,
        (ap prost decodeNotification isEnable payload).PrintsFirst
          (decodeWifiStatusResponse prost · = .ok true) frames left world := by
  refine ⟨?_, ?_⟩
  · intro ifaceIndex
    exact Awaiting.printsFirst _ (scan_judge prost ifaceIndex)
      (scan_decodes prost ifaceIndex) drained unlimited emitted
  · intro isEnable payload
    exact Awaiting.printsFirst _
      (ap_judge prost decodeNotification isEnable payload)
      (ap_decodes prost decodeNotification isEnable payload) drained
      unlimited emitted

section AccessPoint

/-- The response that an access point is being set up, and the notification
that it is there. -/
def apStatusBytes : List UInt8 := [0x08, 0x04, 0x12, 0x02, 0x08, 0x01]

def apResultBytes : List UInt8 := [0x0A, 0x04, 0x08, 0x01, 0x32, 0x00]

/-- `ap_enable_request_payload` for an open network. -/
def apRequestBytes : List UInt8 :=
  [0x08, 0x04, 0x2A, 0x0B, 0x08, 0x01, 0x12, 0x07, 0x0A, 0x03, 0x6C, 0x61,
    0x62, 0x20, 0x01]

def apProst : Prost Unit where
  decodeResponse := fun bytes =>
    if bytes = apStatusBytes then
      some { payload := some (.statusResp true 0 "") }
    else none
  decodeNotification := fun bytes =>
    if bytes = apResultBytes then some { event := some (some .other) }
    else none
  scanRequestPayload := fun ifaceIndex =>
    [0x08, 0x03, 0x22, 0x02, 0x08, UInt8.ofNat ifaceIndex.toNat]

def decodeApResult (bytes : List UInt8) : Option ApNotification :=
  if bytes = apResultBytes then
    some { event := some (some (.apEnableResultEvent 0)) }
  else none

def apStatus : SerialLink.Frame :=
  Peer.responseFrame .wifiMgmt 3 apStatusBytes (by decide)

def apResult : SerialLink.Frame :=
  Peer.responseFrame .wifiMgmt 4 apResultBytes (by decide)

theorem ackLegible : World.Legible (ackFrame .wifiMgmt 0 .noError) :=
  ⟨rfl, rfl, by decide⟩

theorem apStatusLegible : World.Legible apStatus :=
  ⟨rfl, rfl, by decide⟩

theorem apResultLegible : World.Legible apResult :=
  ⟨rfl, rfl, by decide⟩

/-- The frames as the session reads them. -/
def ackRead : Frame := ackLegible.read

def apStatusRead : Frame := apStatusLegible.read

def apResultRead : Frame := apResultLegible.read

theorem ap_emitted : ∀ frame ∈ [ackFrame .wifiMgmt 0 .noError, apStatus,
    apResult], Emitted frame := by
  intro frame member
  simp only [List.mem_cons, List.not_mem_nil, or_false] at member
  rcases member with rfl | rfl | rfl
  · exact ⟨ackLegible, rfl, rfl⟩
  · exact ⟨apStatusLegible, rfl, rfl⟩
  · exact ⟨apResultLegible, rfl, rfl⟩

/-- The result is printed if it comes behind the status, and lost if it comes
before. -/
theorem ap_result_behind_status :
    (∃ later, (ap apProst decodeApResult true apRequestBytes).Runs
        [ackFrame .wifiMgmt 0 .noError, apStatus, apResult]
        (World.start 0 0) (.printed 0) later) ∧
      ¬∃ status later, (ap apProst decodeApResult true apRequestBytes).Runs
        [ackFrame .wifiMgmt 0 .noError, apResult, apStatus]
        (World.start 0 0) (.printed status) later := by
  constructor
  · obtain ⟨ending, later, runs, -, -, printed, -⟩ :=
      (notifications_awaited apProst decodeApResult
        [ackFrame .wifiMgmt 0 .noError, apStatus, apResult] []
        (World.start 0 0) rfl rfl ap_emitted).2 true apRequestBytes
    have read : received
        ([] ++ [ackFrame .wifiMgmt 0 .noError, apStatus, apResult]) =
          [ackRead, apStatusRead, apResultRead] := by
      rw [List.nil_append, received_cons ackLegible,
        received_cons apStatusLegible, received_cons apResultLegible]
      rfl
    have ended := (printed 0).mpr
      ⟨apStatusRead, apResultRead, by rw [read]; rfl, rfl, rfl⟩
    exact ⟨later, ended ▸ runs⟩
  · rintro ⟨status, later, runs⟩
    have emitted : ∀ frame ∈ [ackFrame .wifiMgmt 0 .noError, apResult,
        apStatus], Emitted frame := by
      intro frame member
      refine ap_emitted frame ?_
      simp only [List.mem_cons, List.not_mem_nil, or_false] at member ⊢
      tauto
    obtain ⟨ending, _, _, unique, -, printed, -⟩ :=
      (notifications_awaited apProst decodeApResult
        [ackFrame .wifiMgmt 0 .noError, apResult, apStatus] []
        (World.start 0 0) rfl rfl emitted).2 true apRequestBytes
    obtain ⟨ended, -⟩ := unique _ _ runs
    obtain ⟨response, result, picked, -⟩ := (printed status).mp ended.symm
    have read : received
        ([] ++ [ackFrame .wifiMgmt 0 .noError, apResult, apStatus]) =
          [ackRead, apResultRead, apStatusRead] := by
      rw [List.nil_append, received_cons ackLegible,
        received_cons apResultLegible, received_cons apStatusLegible]
      rfl
    rw [read] at picked
    cases picked

end AccessPoint

end Protocol

end SerialLink
