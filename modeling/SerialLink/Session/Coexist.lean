import SerialLink.Session.Recovery

/-!
# The `Coexist` command

A Wi-Fi scan is started, a Bluetooth command is issued while it runs, and then
the notification that ends the scan is waited for.  All three steps use one
session: `send` drains the port, `request` passes over what does not match,
and only `wait_for` looks for the notification.  What the device writes is
told by a `Course`, which fixes the order of its frames; the moments at which
they become readable are the `arrivals` of the world.
-/

namespace SerialLink

namespace Protocol

/-- `HCI_H4_CMD` -/
def hciH4Cmd : UInt8 := 0x01

/-- `HCI_H4_EVT` -/
def hciH4Evt : UInt8 := 0x04

/-- `HCI_EVT_COMMAND_COMPLETE` -/
def hciEvtCommandComplete : UInt8 := 0x0E

/-- `HCI_OP_READ_LOCAL_VERSION` -/
def hciOpReadLocalVersion : UInt16 := 0x1001

/-- `hci_command_packet` -/
def hciCommandPacket (opcode : UInt16) (params : List UInt8) : List UInt8 :=
  [hciH4Cmd, (opcode &&& 0xFF).toUInt8, (opcode >>> 8).toUInt8,
    UInt8.ofNat params.length] ++ params

/-- `HciCommandComplete` -/
structure HciCommandComplete where
  numPackets : UInt8
  opcode : UInt16
  params : List UInt8
  deriving DecidableEq, Repr

/-- `hci_command_complete` -/
def hciCommandComplete : List UInt8 → Option HciCommandComplete
  | h4 :: event :: evtPlen :: numPackets :: low :: high :: _ :: params =>
      if h4 ≠ hciH4Evt then none
      else if event ≠ hciEvtCommandComplete ∨
          params.length + 7 ≠ 3 + evtPlen.toNat then none
      else if evtPlen.toNat < 4 then none
      else
        some
          { numPackets
            opcode := low.toUInt16 ||| (high.toUInt16 <<< 8)
            params }
  | _ => none

/-- `wifi_mgmt_response::Payload`; the flow tells the status from the rest
only. -/
inductive ResponsePayload where
  | statusResp (success : Bool) (errorCode : Int) (errorMessage : String)
  | other
  deriving DecidableEq, Repr

/-- `WifiMgmtResponse` -/
structure WifiMgmtResponse where
  payload : Option ResponsePayload
  deriving DecidableEq, Repr

/-- `wifi_event::EventData` -/
inductive EventData (Result : Type) where
  | scanDoneEvent (status : Int) (allResults : List Result)
  | other

/-- `WifiMgmtNotification`, with the event data of its event. -/
structure WifiMgmtNotification (Result : Type) where
  event : Option (Option (EventData Result))

/-- The generated encoders and decoders the flow uses. -/
structure Prost (Result : Type) where
  decodeResponse : List UInt8 → Option WifiMgmtResponse
  decodeNotification : List UInt8 → Option (WifiMgmtNotification Result)
  /-- `scan_request_payload` -/
  scanRequestPayload : UInt32 → List UInt8

section Predicates

variable {Result : Type} (prost : Prost Result)

/-- `decode_wifi_mgmt_response` -/
def decodeWifiMgmtResponse (frame : Frame) : Option WifiMgmtResponse :=
  if frame.rtype ≠ .wifiMgmt then none
  else prost.decodeResponse frame.payload

/-- `is_wifi_mgmt_response` -/
def isWifiMgmtResponse (frame : Frame) : Bool :=
  (decodeWifiMgmtResponse prost frame).isSome

/-- `decode_scan_done_notification` -/
def decodeScanDoneNotification (frame : Frame) :
    Option (Int × List Result) :=
  if frame.rtype ≠ .wifiMgmt then none
  else do
    let notification ← prost.decodeNotification frame.payload
    let event ← notification.event
    match event with
    | some (.scanDoneEvent status allResults) => some (status, allResults)
    | _ => none

/-- `is_scan_done_notification` -/
def isScanDoneNotification (frame : Frame) : Bool :=
  (decodeScanDoneNotification prost frame).isSome

/-- `is_hci_command_complete` -/
def isHciCommandComplete (opcode : UInt16) (frame : Frame) : Bool :=
  decide (frame.rtype = .hci) &&
    (hciCommandComplete frame.payload).any (·.opcode == opcode)

/-- `format_status_response` -/
def formatStatusResponse (frame : Frame) : Except String String :=
  match decodeWifiMgmtResponse prost frame with
  | none => .error "Unable to decode status response"
  | some response =>
      match response.payload with
      | some (.statusResp success errorCode message) =>
          if success then
            .ok (if message = "" then "Success" else "Success: " ++ message)
          else
            .error ("Failed: code=" ++ toString errorCode ++ " message=" ++
              message)
      | some .other => .error "Received non-status response payload"
      | none => .error "Empty response payload"

/-- The scan request. -/
def scanCommand (ifaceIndex : UInt32) : Command where
  rtype := .wifiMgmt
  payload := prost.scanRequestPayload ifaceIndex
  matching := isWifiMgmtResponse prost

/-- The request of `hci_request`. -/
def hciCommand (opcode : UInt16) (params : List UInt8) : Command where
  rtype := .hci
  payload := hciCommandPacket opcode params
  matching := isHciCommandComplete opcode

end Predicates

/-- The loop of `wait_for`. -/
structure Listening where
  world : World
  result : Option (Except SessionError Frame)

/-- The body of the loop. -/
def Listening.step (matching : Frame → Bool) (listening : Listening) :
    Loop.Outcome Listening :=
  match listening.world.readFrame with
  | (.error error, world) => .stop { world, result := some (.error error) }
  | (.ok frame, world) =>
      if frame.error ≠ .noError then
        .stop { world, result := some (.error (.deviceError frame.error)) }
      else if frame.payload = [] then .next { listening with world }
      else if matching frame then .stop { world, result := some (.ok frame) }
      else .next { listening with world }

namespace World

/-- `wait_for` returns. -/
def WaitsFor (matching : Frame → Bool) (world : World)
    (result : Except SessionError Frame) (later : World) : Prop :=
  Loop.Returns (fun _ => true) (Listening.step matching)
    { world, result := none } { world := later, result := some result }

/-- The first part of `request`, where `frames` are what the device writes
from the command on. -/
def beginHearing (world : World) (command : Command)
    (frames : List SerialLink.Frame) : Waiting :=
  { world.begin command with
    world.inbound :=
      world.drain.inbound ++ SerialLink.Frame.encodeAll frames }

/-- `request` returns. -/
def RequestsHearing (command : Command) (frames : List SerialLink.Frame)
    (world : World) (result : Except SessionError Frame) (later : World) :
    Prop :=
  ∃ retried, Loop.Returns (fun _ => true) (Waiting.step command)
    (world.beginHearing command frames)
    { world := later, retried, result := some result }

end World

/-- A frame as the device sends it, without an error. -/
structure Emitted (frame : SerialLink.Frame) : Prop where
  legible : World.Legible frame
  sound : frame.header.error = .noError
  host : frame.header.host = true

/-- The frames of the flow: an acknowledgement and an answer for each request,
and the notification. -/
structure Script {Result : Type} (prost : Prost Result) where
  scanAck : SerialLink.Frame
  status : SerialLink.Frame
  hciAck : SerialLink.Frame
  complete : SerialLink.Frame
  done : SerialLink.Frame
  emitted : ∀ frame ∈ [scanAck, status, hciAck, complete, done],
    Emitted frame
  scanAck_empty : scanAck.payload = []
  hciAck_empty : hciAck.payload = []
  status_type : status.header.type = .wifiMgmt
  status_nonempty : status.payload ≠ []
  /-- The scan has been started. -/
  status_success : ∃ errorCode message, prost.decodeResponse status.payload =
    some { payload := some (.statusResp true errorCode message) }
  complete_type : complete.header.type = .hci
  complete_event : ∃ event, hciCommandComplete complete.payload = some event ∧
    event.opcode = hciOpReadLocalVersion
  done_type : done.header.type = .wifiMgmt
  done_nonempty : done.payload ≠ []
  done_event : ∃ status allResults, prost.decodeNotification done.payload =
    some { event := some (some (.scanDoneEvent status allResults)) }

/-- When the device emits the notification: before the HCI command reaches
it, from then on until the Command Complete, or after that. -/
inductive Moment where
  | beforeCommand
  | beforeComplete
  | afterComplete
  deriving DecidableEq, Repr

section Flow

variable {Result : Type} {prost : Prost Result}

/-- The notification, if it is emitted at this moment. -/
def Script.doneAt (script : Script prost) (emission moment : Moment) :
    List SerialLink.Frame :=
  if emission = moment then [script.done] else []

/-- An order of the frames: `leading` and `early` are what the device writes
before and after the status response, until the HCI command reaches it, and
`between` and `late` what it writes before and after the Command Complete. -/
structure Course (script : Script prost) where
  emission : Moment
  leading : List SerialLink.Frame
  early : List SerialLink.Frame
  between : List SerialLink.Frame
  late : List SerialLink.Frame
  scanOrder :
    (leading = [script.scanAck] ∧
      early = script.doneAt emission .beforeCommand) ∨
    (leading = [] ∧
      early.Perm (script.scanAck :: script.doneAt emission .beforeCommand))
  hciOrder :
    (between.Perm (script.hciAck :: script.doneAt emission .beforeComplete) ∧
      late = script.doneAt emission .afterComplete) ∨
    (between = script.doneAt emission .beforeComplete ∧
      late.Perm (script.hciAck :: script.doneAt emission .afterComplete))

variable {script : Script prost}

/-- The flow of `Commands::Coexist` prints the Command Complete and the scan
results. -/
def Coexists (ifaceIndex : UInt32) (course : Course script) (world : World)
    (complete done : Frame) : Prop :=
  ∃ status accepted answered later message,
    world.RequestsHearing (scanCommand prost ifaceIndex)
      (course.leading ++ script.status :: course.early) (.ok status)
      accepted ∧
    formatStatusResponse prost status = .ok message ∧
    accepted.RequestsHearing (hciCommand hciOpReadLocalVersion [])
      (course.between ++ script.complete :: course.late) (.ok complete)
      answered ∧
    answered.WaitsFor (isScanDoneNotification prost) (.ok done) later

end Flow

section Loops

open World

variable {command : Command} {world : World} {frame : SerialLink.Frame}
  {rest : List UInt8}

/-- `beginHearing` is `begin` with the answers of the device told. -/
theorem World.begin_eq_beginHearing (world : World)
    (known : command.rtype.known = true)
    (small : world.txSeq.toNat ≤ sequenceNumberMax)
    (bounded : command.payload.length ≤ maxPayloadLen) :
    ∃ frame : Frame, frame.rtype = command.rtype ∧ frame.seq = world.txSeq ∧
      world.begin command = world.beginHearing command
        (world.peer.handle frame world.reply).2.1 := by
  obtain ⟨frame, rtype, number, _, sent⟩ := World.send_command
    { world with txSeq := (world.txSeq + 1) &&& 0x0F } known small bounded
  refine ⟨frame, rtype, number, ?_⟩
  rw [beginHearing, begin, sent]
  rfl

/-- Sending changes neither the deadline nor what the next drains find. -/
theorem World.beginHearing_line (world : World) (command : Command)
    (frames : List SerialLink.Frame) :
    (world.beginHearing command frames).world.patience = world.patience ∧
      (world.beginHearing command frames).world.arrivals =
        world.arrivals.tail := by
  simp only [beginHearing, begin, send, write]
  split <;> exact ⟨rfl, rfl⟩

/-- A request returns the first matching frame, and what follows it stays in
the port. -/
theorem World.requestsHearing_answer {left skips later :
      List SerialLink.Frame}
    (drained : world.drain.inbound = SerialLink.Frame.encodeAll left)
    (unlimited : world.patience = none)
    (passesLeft : ∀ skip ∈ left, Passes command.matching skip)
    (passes : ∀ skip ∈ skips, Passes command.matching skip)
    (answers : Answers command.matching frame) :
    ∃ after, world.RequestsHearing command (skips ++ frame :: later)
        (.ok answers.legible.read) after ∧
      after.inbound = SerialLink.Frame.encodeAll later ∧
      after.patience = none ∧ after.arrivals = world.arrivals.tail := by
  obtain ⟨patience, arrivals⟩ :=
    world.beginHearing_line command (skips ++ frame :: later)
  refine ⟨_, ⟨_, Waiting.returns_response (left ++ skips) later ?_ answers ?_
    ?_⟩, rfl, ?_, ?_⟩
  · intro skip member
    rcases List.mem_append.mp member with before | after
    · exact passesLeft skip before
    · exact passes skip after
  · simp [beginHearing, drained]
  · exact patience.trans unlimited
  · exact patience.trans unlimited
  · exact arrivals

theorem Listening.step_passes {matching : Frame → Bool}
    {listening : Listening} (passes : Passes matching frame)
    (inbound : listening.world.inbound = frame.encode ++ rest)
    (unlimited : listening.world.patience = none) :
    Listening.step matching listening =
      .next { listening with world.inbound := rest } := by
  have sound : ¬passes.legible.read.error ≠ .noError :=
    not_not_intro passes.sound
  rw [Listening.step, readFrame_unlimited passes.legible inbound unlimited]
  by_cases empty : frame.payload = []
  · have contents : passes.legible.read.payload = [] := empty
    simp only [if_neg sound, if_pos contents]
  · have contents : ¬passes.legible.read.payload = [] := empty
    have other := passes.passed.resolve_left empty
    simp only [if_neg sound, if_neg contents, other, Bool.false_eq_true,
      if_false]

/-- `wait_for` passes over the frames before the first matching one. -/
theorem World.waitsFor_of_rest {matching : Frame → Bool}
    {skips : List SerialLink.Frame} {result : Except SessionError Frame}
    {later : World} (inbound : world.inbound =
      SerialLink.Frame.encodeAll skips ++ rest)
    (unlimited : world.patience = none)
    (passes : ∀ skip ∈ skips, Passes matching skip)
    (last : World.WaitsFor matching { world with inbound := rest } result
      later) :
    world.WaitsFor matching result later := by
  let facing (skips : List SerialLink.Frame) : Listening :=
    { world :=
        { world with inbound := SerialLink.Frame.encodeAll skips ++ rest }
      result := none }
  have start : ({ world, result := none } : Listening) = facing skips := by
    simp only [facing, ← inbound]
  rw [WaitsFor, start]
  apply Loop.returns_of_skips facing ?_ skips passes last
  intro skip skips kept
  have next : (facing (skip :: skips)).world.inbound = skip.encode ++
      (SerialLink.Frame.encodeAll skips ++ rest) := by
    simp [facing]
  exact ⟨rfl, Listening.step_passes kept next unlimited⟩

theorem World.waitsFor_answer {matching : Frame → Bool}
    (inbound : world.inbound = frame.encode ++ rest)
    (unlimited : world.patience = none) (answers : Answers matching frame) :
    world.WaitsFor matching (.ok answers.legible.read)
      { world with inbound := rest } := by
  have sound : ¬answers.legible.read.error ≠ .noError :=
    not_not_intro answers.sound
  have contents : ¬answers.legible.read.payload = [] := answers.nonempty
  apply Loop.returns_of_stop rfl
  rw [Listening.step, readFrame_unlimited answers.legible inbound unlimited]
  simp only [if_neg sound, if_neg contents, if_pos answers.matching]

theorem World.waitsFor_silence (matching : Frame → Bool)
    (silent : world.inbound = []) :
    ∃ later, world.WaitsFor matching (.error .timeout) later := by
  refine ⟨world.readFrame.2, ?_⟩
  have unread : world.readFrame = (.error .timeout, world.readFrame.2) :=
    Prod.ext (readFrame_empty silent) rfl
  apply Loop.returns_of_stop rfl
  rw [Listening.step, unread]

theorem World.RequestsHearing.unique {frames : List SerialLink.Frame}
    {first second : Except SessionError Frame} {left right : World}
    (one : world.RequestsHearing command frames first left)
    (other : world.RequestsHearing command frames second right) :
    first = second ∧ left = right := by
  obtain ⟨_, firstReturns⟩ := one
  obtain ⟨_, secondReturns⟩ := other
  cases firstReturns.unique secondReturns
  exact ⟨rfl, rfl⟩

theorem World.WaitsFor.unique {matching : Frame → Bool}
    {first second : Except SessionError Frame} {left right : World}
    (one : world.WaitsFor matching first left)
    (other : world.WaitsFor matching second right) :
    first = second ∧ left = right := by
  cases Loop.Returns.unique one other
  exact ⟨rfl, rfl⟩

end Loops

section Script

variable {Result : Type} {prost : Prost Result} (script : Script prost)

namespace Script

/-- What the session reads of the Command Complete. -/
def completed : Frame :=
  (script.emitted script.complete (by simp)).legible.read

/-- What it reads of the notification. -/
def finished : Frame :=
  (script.emitted script.done (by simp)).legible.read

theorem scanAck_passes (matching : Frame → Bool) :
    Passes matching script.scanAck where
  legible := (script.emitted _ (by simp)).legible
  sound := (script.emitted _ (by simp)).sound
  passed := .inl script.scanAck_empty

theorem hciAck_passes (matching : Frame → Bool) :
    Passes matching script.hciAck where
  legible := (script.emitted _ (by simp)).legible
  sound := (script.emitted _ (by simp)).sound
  passed := .inl script.hciAck_empty

theorem status_answers :
    Answers (isWifiMgmtResponse prost) script.status where
  legible := (script.emitted _ (by simp)).legible
  sound := (script.emitted _ (by simp)).sound
  nonempty := script.status_nonempty
  matching := by
    obtain ⟨errorCode, message, decoded⟩ := script.status_success
    simp [isWifiMgmtResponse, decodeWifiMgmtResponse, World.Legible.read,
      Frame.ofHeader, script.status_type, decoded]

/-- The status response reports a success. -/
theorem status_formatted : ∃ message,
    formatStatusResponse prost script.status_answers.legible.read =
      .ok message := by
  obtain ⟨errorCode, message, decoded⟩ := script.status_success
  simp [formatStatusResponse, decodeWifiMgmtResponse, World.Legible.read,
    Frame.ofHeader, script.status_type, decoded]

theorem complete_answers :
    Answers (isHciCommandComplete hciOpReadLocalVersion)
      script.complete where
  legible := (script.emitted _ (by simp)).legible
  sound := (script.emitted _ (by simp)).sound
  nonempty := by
    obtain ⟨event, parsed, -⟩ := script.complete_event
    intro empty
    rw [empty] at parsed
    cases parsed
  matching := by
    obtain ⟨event, parsed, opcode⟩ := script.complete_event
    simp [isHciCommandComplete, World.Legible.read, Frame.ofHeader,
      script.complete_type, parsed, opcode]

/-- The notification is no HCI event, so the HCI request passes over it. -/
theorem done_passes :
    Passes (isHciCommandComplete hciOpReadLocalVersion) script.done where
  legible := (script.emitted _ (by simp)).legible
  sound := (script.emitted _ (by simp)).sound
  passed := by
    right
    simp [isHciCommandComplete, World.Legible.read, Frame.ofHeader,
      script.done_type]

theorem done_answers :
    Answers (isScanDoneNotification prost) script.done where
  legible := (script.emitted _ (by simp)).legible
  sound := (script.emitted _ (by simp)).sound
  nonempty := script.done_nonempty
  matching := by
    obtain ⟨status, allResults, decoded⟩ := script.done_event
    simp [isScanDoneNotification, decodeScanDoneNotification,
      World.Legible.read, Frame.ofHeader, script.done_type, decoded]

theorem eq_done_of_mem_doneAt {emission moment : Moment}
    {frame : SerialLink.Frame}
    (member : frame ∈ script.doneAt emission moment) :
    frame = script.done := by
  unfold doneAt at member
  split at member
  · exact List.mem_singleton.mp member
  · cases member

end Script

namespace Course

variable {script} (course : Course script)

theorem leading_passes (matching : Frame → Bool) :
    ∀ skip ∈ course.leading, Passes matching skip := by
  intro skip member
  rcases course.scanOrder with ⟨leading, -⟩ | ⟨leading, -⟩
  · rw [leading] at member
    rw [List.mem_singleton.mp member]
    exact script.scanAck_passes matching
  · rw [leading] at member
    cases member

theorem early_passes :
    ∀ skip ∈ course.early,
      Passes (isHciCommandComplete hciOpReadLocalVersion) skip := by
  intro skip member
  rcases course.scanOrder with ⟨-, early⟩ | ⟨-, early⟩
  · rw [early] at member
    rw [script.eq_done_of_mem_doneAt member]
    exact script.done_passes
  · rcases List.mem_cons.mp (early.mem_iff.mp member) with rfl | other
    · exact script.scanAck_passes _
    · rw [script.eq_done_of_mem_doneAt other]
      exact script.done_passes

theorem between_mem {frame : SerialLink.Frame}
    (member : frame ∈ course.between) :
    frame = script.hciAck ∨ frame = script.done := by
  rcases course.hciOrder with ⟨between, -⟩ | ⟨between, -⟩
  · apply (List.mem_cons.mp (between.mem_iff.mp member)).imp_right
    exact script.eq_done_of_mem_doneAt
  · rw [between] at member
    exact .inr (script.eq_done_of_mem_doneAt member)

theorem between_passes :
    ∀ skip ∈ course.between,
      Passes (isHciCommandComplete hciOpReadLocalVersion) skip := by
  intro skip member
  rcases course.between_mem member with rfl | rfl
  · exact script.hciAck_passes _
  · exact script.done_passes

/-- The first frame after the HCI command is one of the device. -/
theorem hci_first :
    ∃ frame others, course.between ++ script.complete :: course.late =
        frame :: others ∧ frame.header.host = true := by
  cases first : course.between with
  | nil =>
      exact ⟨script.complete, course.late, rfl,
        (script.emitted _ (by simp)).host⟩
  | cons frame others =>
      refine ⟨frame, others ++ script.complete :: course.late, rfl, ?_⟩
      have member : frame ∈ course.between := by simp [first]
      rcases course.between_mem member with rfl | rfl
      · exact (script.emitted _ (by simp)).host
      · exact (script.emitted _ (by simp)).host

/-- A notification emitted too soon is not among the last frames. -/
theorem late_passes (soon : course.emission ≠ .afterComplete)
    (matching : Frame → Bool) :
    ∀ skip ∈ course.late, Passes matching skip := by
  have absent : script.doneAt course.emission .afterComplete = [] :=
    if_neg soon
  intro skip member
  rcases course.hciOrder with ⟨-, late⟩ | ⟨-, late⟩
  · rw [late, absent] at member
    cases member
  · rw [absent] at late
    rw [List.mem_singleton.mp (late.mem_iff.mp member)]
    exact script.hciAck_passes matching

/-- A notification emitted after the Command Complete has at most the
acknowledgement before it. -/
theorem late_split (emitted : course.emission = .afterComplete)
    (matching : Frame → Bool) :
    ∃ skips rest, course.late = skips ++ script.done :: rest ∧
      ∀ skip ∈ skips, Passes matching skip := by
  have present : script.doneAt course.emission .afterComplete =
      [script.done] := if_pos emitted
  rcases course.hciOrder with ⟨-, late⟩ | ⟨-, late⟩
  · refine ⟨[], [], ?_, fun skip member => absurd member List.not_mem_nil⟩
    rw [late, present, List.nil_append]
  · rw [present] at late
    have among : script.done ∈ course.late := late.mem_iff.mpr (by simp)
    obtain ⟨skips, rest, split⟩ := List.append_of_mem among
    refine ⟨skips, rest, split, ?_⟩
    have others : (skips ++ rest).Perm [script.hciAck] := by
      rw [split] at late
      apply List.Perm.cons_inv (a := script.done)
      exact List.perm_middle.symm.trans (late.trans (List.Perm.swap _ _ _))
    intro skip member
    rw [List.mem_singleton.mp (others.mem_iff.mp
      (List.mem_append_left rest member))]
    exact script.hciAck_passes matching

end Course

end Script

section Coexistence

open World

variable {Result : Type} {prost : Prost Result} {script : Script prost}
  (ifaceIndex : UInt32) (course : Course script) {world : World}

/-- The scan request returns the status response. -/
theorem scan_answered (quiet : world.inbound = [])
    (unlimited : world.patience = none) :
    ∃ accepted, world.RequestsHearing (scanCommand prost ifaceIndex)
        (course.leading ++ script.status :: course.early)
        (.ok script.status_answers.legible.read) accepted ∧
      accepted.inbound = SerialLink.Frame.encodeAll course.early ∧
      accepted.patience = none ∧ accepted.arrivals = world.arrivals.tail := by
  have drained : world.drain.inbound = SerialLink.Frame.encodeAll [] := by
    simp [drain, quiet]
  exact World.requestsHearing_answer drained unlimited
    (fun skip member => absurd member List.not_mem_nil)
    (course.leading_passes _) script.status_answers

/-- The HCI request returns the Command Complete, if its drain leaves whole
frames. -/
theorem hci_answered {kept : List SerialLink.Frame}
    (inbound : world.inbound = SerialLink.Frame.encodeAll course.early)
    (suffix : kept <:+ course.early)
    (whole : (SerialLink.Frame.encodeAll course.early).drop
      (world.arrivals.headD 0) = SerialLink.Frame.encodeAll kept)
    (unlimited : world.patience = none) :
    ∃ answered, world.RequestsHearing (hciCommand hciOpReadLocalVersion [])
        (course.between ++ script.complete :: course.late)
        (.ok script.completed) answered ∧
      answered.inbound = SerialLink.Frame.encodeAll course.late ∧
      answered.patience = none := by
  have drained : world.drain.inbound = SerialLink.Frame.encodeAll kept := by
    rw [drain, inbound, whole]
  obtain ⟨answered, returned, left, patient, -⟩ :=
    @World.requestsHearing_answer (hciCommand hciOpReadLocalVersion []) world
      script.complete kept course.between course.late drained unlimited
      (fun skip member => course.early_passes skip (suffix.mem member))
      course.between_passes script.complete_answers
  exact ⟨answered, returned, left, patient⟩

/-- Of what is left, `wait_for` finds the notification exactly if it was
emitted after the Command Complete. -/
theorem waitsFor_done_iff
    (inbound : world.inbound = SerialLink.Frame.encodeAll course.late)
    (unlimited : world.patience = none) :
    (∃ later, world.WaitsFor (isScanDoneNotification prost)
        (.ok script.finished) later) ↔
      course.emission = .afterComplete := by
  constructor
  · rintro ⟨later, found⟩
    by_contra soon
    have passes := course.late_passes soon (isScanDoneNotification prost)
    obtain ⟨final, timeout⟩ := @World.waitsFor_silence
      { world with inbound := [] } (isScanDoneNotification prost) rfl
    have missed := World.waitsFor_of_rest
      (inbound.trans (List.append_nil _).symm) unlimited passes timeout
    cases (found.unique missed).1
  · intro emitted
    obtain ⟨skips, rest, split, passes⟩ :=
      course.late_split emitted (isScanDoneNotification prost)
    have facing : world.inbound = SerialLink.Frame.encodeAll skips ++
        (script.done.encode ++ SerialLink.Frame.encodeAll rest) := by
      simp [inbound, split]
    have found := @World.waitsFor_answer
      { world with inbound := script.done.encode ++
        SerialLink.Frame.encodeAll rest } _ _ _ rfl unlimited
      script.done_answers
    exact ⟨_, World.waitsFor_of_rest facing unlimited passes found⟩

/-- With a drain that leaves whole frames, the flow obtains both frames
exactly if the notification is emitted after the Command Complete. -/
theorem coexists_iff_of_wholeDrain {kept : List SerialLink.Frame}
    (quiet : world.inbound = []) (unlimited : world.patience = none)
    (suffix : kept <:+ course.early)
    (whole : (SerialLink.Frame.encodeAll course.early).drop
      (world.arrivals.tail.headD 0) = SerialLink.Frame.encodeAll kept) :
    Coexists ifaceIndex course world script.completed script.finished ↔
      course.emission = .afterComplete := by
  obtain ⟨accepted, scanned, early, patient, arrivals⟩ :=
    scan_answered ifaceIndex course quiet unlimited
  obtain ⟨answered, completed, late, patientStill⟩ :=
    hci_answered course early suffix (arrivals ▸ whole) patient
  rw [← waitsFor_done_iff course late patientStill]
  constructor
  · rintro ⟨status, world1, world2, later, message, first, -, second, third⟩
    cases (first.unique scanned).2
    cases (second.unique completed).2
    exact ⟨later, third⟩
  · rintro ⟨later, found⟩
    obtain ⟨message, formatted⟩ := script.status_formatted
    exact ⟨_, accepted, answered, later, message, scanned, formatted,
      completed, found⟩

/-- The host bit of a header stands in its first byte. -/
theorem byte0_of_host {header : SerialHeader} (host : header.host = true) :
    32 ≤ header.byte0.toNat := by
  have decoded := congrArg (fun one => one.host)
    (SerialHeader.decode_encode header)
  simp only [SerialHeader.decode, host, beq_iff_eq] at decoded
  omega

/-- Where the first half of an acknowledgement has been drained, the next
frame of the device is taken for a length that is too long. -/
theorem World.readFrame_torn {ack frame : SerialLink.Frame}
    {rest : List UInt8} (empty : ack.payload = [])
    (host : frame.header.host = true) (unlimited : world.patience = none)
    (inbound : world.inbound = ack.encode.drop 2 ++ (frame.encode ++ rest)) :
    world.readFrame.1 = .error .timeout := by
  have bytes : world.inbound = [ack.header.lengthHigh, ack.header.lengthLow,
      frame.header.byte0, frame.header.byte1] ++
        ([frame.header.lengthHigh, frame.header.lengthLow] ++ frame.payload ++
          rest) := by
    simp [inbound, SerialLink.Frame.encode, SerialHeader.encode, empty]
  have header := readBytes_enough bytes (by simp [limit, unlimited])
  have high := byte0_of_host host
  have long : frame.header.byte0.toNat * 256 + frame.header.byte1.toNat >
      maxPayloadLen := by
    unfold maxPayloadLen
    omega
  have some : frame.header.byte0.toNat * 256 + frame.header.byte1.toNat ≠
      0 := by
    omega
  rw [readFrame, show (4 : Nat) = [ack.header.lengthHigh,
    ack.header.lengthLow, frame.header.byte0, frame.header.byte1].length
      from rfl, header]
  simp only [if_neg some, if_pos long]

/-- A request that drains half of an acknowledgement fails. -/
theorem World.requestsHearing_torn {command : Command}
    {ack frame : SerialLink.Frame} {others : List SerialLink.Frame}
    (empty : ack.payload = []) (host : frame.header.host = true)
    (inbound : world.inbound = ack.encode)
    (arrived : world.arrivals.headD 0 = 2)
    (unlimited : world.patience = none) :
    ∃ later, world.RequestsHearing command (frame :: others)
      (.error .timeout) later := by
  obtain ⟨patience, -⟩ := world.beginHearing_line command (frame :: others)
  have facing : (world.beginHearing command
      (frame :: others)).world.inbound = ack.encode.drop 2 ++
        (frame.encode ++ SerialLink.Frame.encodeAll others) := by
    simp only [beginHearing, drain, inbound, arrived]
    rfl
  have torn := World.readFrame_torn empty host (patience.trans unlimited)
    facing
  refine ⟨(world.beginHearing command (frame :: others)).world.readFrame.2,
    false, Loop.returns_of_stop rfl ?_⟩
  have unread : (world.beginHearing command (frame :: others)).world.readFrame
      = (.error .timeout, _) := Prod.ext torn rfl
  rw [Waiting.step, unread]
  rfl

/-- The flow obtains the Command Complete and the notification whenever their
bytes become readable, if and only if nothing is written between the status
response and the HCI command and the notification comes after the Command
Complete. -/
theorem coexist_obtains_iff (quiet : world.inbound = [])
    (unlimited : world.patience = none) :
    (∀ arrivals, Coexists ifaceIndex course { world with arrivals }
        script.completed script.finished) ↔
      course.early = [] ∧ course.emission = .afterComplete := by
  constructor
  · intro obtains
    have emitted : course.emission = .afterComplete :=
      (@coexists_iff_of_wholeDrain _ _ _ ifaceIndex course
        { world with arrivals := [] } course.early quiet unlimited
        List.suffix_rfl rfl).mp (obtains [])
    refine ⟨?_, emitted⟩
    have absent : script.doneAt course.emission .beforeCommand = [] := by
      rw [emitted]
      rfl
    rcases course.scanOrder with ⟨-, early⟩ | ⟨-, early⟩
    · rw [early, absent]
    · -- The acknowledgement follows the status response: drain half of it.
      rw [absent, List.perm_singleton] at early
      obtain ⟨status, accepted, answered, later, message, first, -, second,
        -⟩ := obtains [0, 2]
      obtain ⟨same, scanned, inbound, patient, arrivals⟩ := @scan_answered
        _ _ _ ifaceIndex course { world with arrivals := [0, 2] } quiet
        unlimited
      cases (first.unique scanned).2
      rw [early] at inbound
      obtain ⟨frame, others, written, host⟩ := course.hci_first
      rw [written] at second
      obtain ⟨torn, failed⟩ := World.requestsHearing_torn
        script.scanAck_empty host (inbound.trans (List.append_nil _))
        (by rw [arrivals]; rfl) patient
      cases (second.unique failed).1
  · rintro ⟨nothing, emitted⟩ arrivals
    apply (@coexists_iff_of_wholeDrain _ _ _ ifaceIndex course
      { world with arrivals } [] quiet unlimited List.nil_suffix ?_).mpr
        emitted
    rw [nothing, SerialLink.Frame.encodeAll_nil, List.drop_nil]

end Coexistence

section Trace

/-- The status response to a scan request, without an error. -/
def statusBytes : List UInt8 := [0x08, 0x03, 0x12, 0x02, 0x08, 0x01]

/-- A notification of interface 1: the scan is done, nothing was found. -/
def doneBytes : List UInt8 := [0x0A, 0x04, 0x08, 0x01, 0x12, 0x00]

/-- A Command Complete of Read Local Version. -/
def completeBytes : List UInt8 :=
  [0x04, 0x0E, 0x0C, 0x01, 0x01, 0x10, 0x00, 0x0D, 0x00, 0x00, 0x0D, 0xF1,
    0x05, 0x00, 0x00]

/-- The decoders on these messages, and the scan request of interface 1. -/
def scanProst : Prost Unit where
  decodeResponse := fun bytes =>
    if bytes = statusBytes then
      some { payload := some (.statusResp true 0 "") }
    else none
  decodeNotification := fun bytes =>
    if bytes = doneBytes then
      some { event := some (some (.scanDoneEvent 0 [])) }
    else none
  scanRequestPayload := fun ifaceIndex =>
    [0x08, 0x03, 0x22, 0x02, 0x08, UInt8.ofNat ifaceIndex.toNat]

def scanScript : Script scanProst where
  scanAck := ackFrame .wifiMgmt 0 .noError
  status := Peer.responseFrame .wifiMgmt 3 statusBytes (by decide)
  hciAck := ackFrame .hci 1 .noError
  complete := Peer.responseFrame .hci 4 completeBytes (by decide)
  done := Peer.responseFrame .wifiMgmt 5 doneBytes (by decide)
  emitted := by
    intro frame member
    simp only [List.mem_cons, List.not_mem_nil, or_false] at member
    rcases member with rfl | rfl | rfl | rfl | rfl <;>
      exact ⟨⟨rfl, rfl, by decide⟩, rfl, rfl⟩
  scanAck_empty := rfl
  hciAck_empty := rfl
  status_type := rfl
  status_nonempty := by decide
  status_success := ⟨0, "", rfl⟩
  complete_type := rfl
  complete_event := ⟨_, rfl, by decide⟩
  done_type := rfl
  done_nonempty := by decide
  done_event := ⟨0, [], rfl⟩

/-- The scan ends after the Command Complete. -/
def patientCourse : Course scanScript where
  emission := .afterComplete
  leading := [scanScript.scanAck]
  early := []
  between := []
  late := [scanScript.done, scanScript.hciAck]
  scanOrder := .inl ⟨rfl, rfl⟩
  hciOrder := .inr ⟨rfl, List.Perm.swap _ _ _⟩

/-- Both frames are obtained, whenever they become readable. -/
theorem coexist_obtains_patientCourse :
    (patientCourse.early = [] ∧ patientCourse.emission = .afterComplete) ∧
      ∀ arrivals, Coexists 1 patientCourse { World.start 0 0 with arrivals }
        scanScript.completed scanScript.finished :=
  ⟨⟨rfl, rfl⟩, (coexist_obtains_iff 1 patientCourse rfl rfl).mpr ⟨rfl, rfl⟩⟩

/-- The scan ends while the HCI command is carried out. -/
def hastyCourse : Course scanScript where
  emission := .beforeComplete
  leading := [scanScript.scanAck]
  early := []
  between := [scanScript.hciAck, scanScript.done]
  late := []
  scanOrder := .inl ⟨rfl, rfl⟩
  hciOrder := .inl ⟨List.Perm.refl _, rfl⟩

/-- The HCI request has passed over the notification. -/
theorem hastyCourse_loses_done :
    ¬Coexists 1 hastyCourse { World.start 0 0 with arrivals := [] }
      scanScript.completed scanScript.finished := by
  intro obtained
  have late := (@coexists_iff_of_wholeDrain _ _ _ 1 hastyCourse
    { World.start 0 0 with arrivals := [] } [] rfl rfl List.nil_suffix
    rfl).mp obtained
  cases late

end Trace

end Protocol

end SerialLink
