import SerialLink.Host.Counter
import SerialLink.Session.Session

/-!
# The sequence counters of the two hosts

`sync` of the command-line host takes over the reported number as `bus_sync`
does.  Its successor is an addition of `u8` that is masked afterwards, so that
a reported number may also overflow it.

`Dialogue` is the session with everything that happens to it from outside in
its labels: what `read_frame` returns, which need not come from a device that
follows the rules, and whether a frame can be written.
-/

namespace SerialLink

namespace Protocol

/-- Who has called `sync`. -/
inductive SyncCaller where
  | user
  | request (command : Command)

/-- Where the session stands: at a call of the port, or outside. -/
inductive Position where
  | outside
  /-- At the head of the loop of `sync`. -/
  | querying (caller : SyncCaller) (attempt : Nat)
  /-- `read_frame` in `sync`. -/
  | syncing (caller : SyncCaller) (attempt : Nat)
  /-- The command is to be sent again. -/
  | resending (command : Command) (info : ProtocolInfo)
  /-- `read_frame` in `request`. -/
  | waiting (command : Command) (retried : Bool)

/-- Where the caller goes on when `sync` has succeeded. -/
def SyncCaller.position (info : ProtocolInfo) : SyncCaller → Position
  | .user => .outside
  | .request command => .resending command info

/-- Where it goes on when `sync` has returned. -/
def SyncCaller.returned (caller : SyncCaller) :
    Except SessionError ProtocolInfo → Position
  | .ok info => caller.position info
  | .error _ => .outside

structure Dialogue where
  /-- `tx_seq` -/
  txSeq : UInt8
  position : Position
  /-- The frames handed to the port, oldest first. -/
  sent : List (Purpose × List UInt8)
  /-- Their number when `sync` has last succeeded. -/
  mark : Nat
  /-- An addition has left the range of `u8`; a build with overflow checks
  panics there. -/
  overflowed : Bool

namespace Dialogue

inductive Label where
  | sync
  | request (command : Command) (written : Bool)
  /-- The query of `sync`. -/
  | query (written : Bool)
  /-- `read_frame` returns the frame, or an error. -/
  | read (frame : Option Frame)
  | resend (written : Bool)

/-- `tx_seq = (seq + 1) & 0x0F` -/
def advance (dialogue : Dialogue) (seq : UInt8) : Dialogue :=
  { dialogue with
    txSeq := (seq + 1) &&& 0x0F
    overflowed := dialogue.overflowed || seq.toNat + 1 ≥ 256 }

/-- `send`, which leaves the caller when it fails. -/
def send (dialogue : Dialogue) (purpose : Purpose) (bytes : List UInt8)
    (written : Bool) (position : Position) : Dialogue :=
  { dialogue with
    sent := dialogue.sent ++ [(purpose, bytes)]
    position := if written then position else .outside }

def moveTo (dialogue : Dialogue) (position : Position) : Dialogue :=
  { dialogue with position }

/-- A frame in `sync`. -/
def readResponse (dialogue : Dialogue) (caller : SyncCaller) (attempt : Nat)
    (frame : Frame) : Dialogue :=
  match ProtocolInfo.tryFrom frame with
  | some info =>
      { dialogue with
        txSeq := info.nextSeq
        position := caller.position info
        mark := dialogue.sent.length }
  | none => dialogue.moveTo (.querying caller (attempt + 1))

/-- A frame in `request`. -/
def readAnswer (command : Command) (retried : Bool) (frame : Frame) :
    Position :=
  if frame.error ≠ .noError then
    if frame.error = .incorrectSequenceNumber ∧ retried = false then
      .querying (.request command) 0
    else .outside
  else if frame.payload = [] then .waiting command retried
  else if command.matching frame then .outside
  else .waiting command retried

def step (dialogue : Dialogue) : Label → Option Dialogue
  | .sync =>
      match dialogue.position with
      | .outside => some (dialogue.moveTo (.querying .user 0))
      | _ => none
  | .request command written =>
      match dialogue.position with
      | .outside =>
          some ((dialogue.advance dialogue.txSeq).send .request
            (Frame.encodeHostFrame command.rtype dialogue.txSeq
              command.payload) written (.waiting command false))
      | _ => none
  | .query written =>
      match dialogue.position with
      | .querying caller attempt =>
          if attempt < 4 then
            some (dialogue.send .query
              (Frame.protocolInfoQuery dialogue.txSeq) written
              (.syncing caller attempt))
          else some (dialogue.moveTo .outside)
      | _ => none
  | .read frame =>
      match dialogue.position, frame with
      | .syncing _ _, none => some (dialogue.moveTo .outside)
      | .syncing caller attempt, some frame =>
          some (dialogue.readResponse caller attempt frame)
      | .waiting _ _, none => some (dialogue.moveTo .outside)
      | .waiting command retried, some frame =>
          some (dialogue.moveTo (readAnswer command retried frame))
      | _, _ => none
  | .resend written =>
      match dialogue.position with
      | .resending command info =>
          some ((dialogue.advance info.nextSeq).send .request
            (Frame.encodeHostFrame command.rtype info.nextSeq
              command.payload) written (.waiting command true))
      | _ => none

/-- A response that `sync` accepts reports one of the numbers 0..15. -/
def Reported (dialogue : Dialogue) : Label → Prop
  | .read (some frame) =>
      match dialogue.position, ProtocolInfo.tryFrom frame with
      | .syncing _ _, some info => info.nextSeq.toNat ≤ sequenceNumberMax
      | _, _ => True
  | _ => True

/-- The sequence number in the header of a frame. -/
def sequenceNumber (bytes : List UInt8) : Nat :=
  (bytes.getD 1 0).toNat / 16

/-- The sequence numbers of the commands sent since `sync` has last
succeeded. -/
def numbers (dialogue : Dialogue) : List Nat :=
  (dialogue.sent.drop dialogue.mark).filterMap fun (purpose, bytes) =>
    if purpose = .request then some (sequenceNumber bytes) else none

/-- Consecutive commands carry consecutive numbers. -/
def Consecutive (dialogue : Dialogue) : Prop :=
  dialogue.numbers.IsChain fun first second => second = (first + 1) % 16

/-- `Session::new` -/
def new : Dialogue where
  txSeq := 0
  position := .outside
  sent := []
  mark := 0
  overflowed := false

variable {dialogue later : Dialogue}

/-- The numbers since the mark form a chain, which `tx_seq` continues. -/
structure Counted (dialogue : Dialogue) : Prop where
  bounded : dialogue.txSeq.toNat ≤ sequenceNumberMax
  fits : dialogue.overflowed = false
  marked : dialogue.mark ≤ dialogue.sent.length
  sequence : InSequence dialogue.numbers dialogue.txSeq.toNat
  resends : ∀ command info, dialogue.position = .resending command info →
    info.nextSeq = dialogue.txSeq

theorem counted_new : Counted new where
  bounded := Nat.zero_le _
  fits := rfl
  marked := Nat.le_refl _
  sequence := .nil _
  resends := nofun

theorem sequenceNumber_encode (rtype : SerialType) (seq : UInt8)
    (payload : List UInt8) :
    sequenceNumber (Frame.encodeHostFrame rtype seq payload) =
      seq.toNat % 16 := by
  show ((seq &&& 0x0F) <<< 4).toNat / 16 = _
  rw [low_shifted, UInt8.toNat_ofNat']
  omega

theorem numbers_request (marked : dialogue.mark ≤ dialogue.sent.length)
    (bytes : List UInt8) (written : Bool) (position : Position) :
    (dialogue.send .request bytes written position).numbers =
      dialogue.numbers ++ [sequenceNumber bytes] := by
  simp [numbers, send, List.drop_append_of_le_length marked]

theorem numbers_query (marked : dialogue.mark ≤ dialogue.sent.length)
    (bytes : List UInt8) (written : Bool) (position : Position) :
    (dialogue.send .query bytes written position).numbers =
      dialogue.numbers := by
  simp [numbers, send, List.drop_append_of_le_length marked]

theorem Counted.moveTo (counted : Counted dialogue) {position : Position}
    (other : ∀ command info, position ≠ .resending command info) :
    Counted (dialogue.moveTo position) where
  bounded := counted.bounded
  fits := counted.fits
  marked := counted.marked
  sequence := counted.sequence
  resends := fun command info same => absurd same (other command info)

/-- A position after `send`. -/
theorem sent_position {written : Bool} {position : Position}
    (other : ∀ command info, position ≠ .resending command info) :
    ∀ command info,
      (if written then position else .outside) ≠ .resending command info := by
  intro command info
  split
  · exact other command info
  · nofun

theorem Counted.sendQuery (counted : Counted dialogue) {bytes : List UInt8}
    {written : Bool} {position : Position}
    (other : ∀ command info, position ≠ .resending command info) :
    Counted (dialogue.send .query bytes written position) where
  bounded := counted.bounded
  fits := counted.fits
  marked := by
    rw [send, List.length_append]
    exact Nat.le_add_right_of_le counted.marked
  sequence := by
    rw [numbers_query counted.marked]
    exact counted.sequence
  resends := fun command info same =>
    absurd same (sent_position other command info)

/-- A command that takes the next number. -/
theorem Counted.sendCommand (counted : Counted dialogue) (command : Command)
    {seq : UInt8} (current : seq = dialogue.txSeq) {written retried : Bool} :
    Counted ((dialogue.advance seq).send .request
      (Frame.encodeHostFrame command.rtype seq command.payload) written
      (.waiting command retried)) := by
  subst current
  have small := counted.bounded
  have advanced := succ_and_low small
  unfold sequenceNumberMax at small
  constructor
  case bounded =>
    show ((dialogue.txSeq + 1) &&& 0x0F).toNat ≤ sequenceNumberMax
    rw [advanced]
    exact seqNext_le _
  case fits =>
    show (dialogue.overflowed || decide _) = false
    rw [counted.fits, Bool.false_or]
    exact decide_eq_false (by omega)
  case marked =>
    rw [send, List.length_append]
    exact Nat.le_add_right_of_le counted.marked
  case sequence =>
    have extended := numbers_request
      (show (dialogue.advance dialogue.txSeq).mark ≤ _ from counted.marked)
      (Frame.encodeHostFrame command.rtype dialogue.txSeq command.payload)
      written (.waiting command retried)
    rw [extended, sequenceNumber_encode, Nat.mod_eq_of_lt (by omega)]
    show InSequence (dialogue.numbers ++ [dialogue.txSeq.toNat])
      ((dialogue.txSeq + 1) &&& 0x0F).toNat
    rw [advanced, seqNext_eq counted.bounded]
    exact counted.sequence.snoc
  case resends =>
    intro other info same
    have elsewhere : ∀ one info,
        Position.waiting command retried ≠ .resending one info := by
      intro one info
      nofun
    exact absurd same (sent_position elsewhere other info)

theorem Counted.readResponse (counted : Counted dialogue)
    {caller : SyncCaller} {attempt : Nat} {frame : Frame}
    (reported : ∀ info, ProtocolInfo.tryFrom frame = some info →
      info.nextSeq.toNat ≤ sequenceNumberMax) :
    Counted (dialogue.readResponse caller attempt frame) := by
  rw [Dialogue.readResponse]
  split
  · rename_i info accepted
    refine ⟨reported info accepted, counted.fits, Nat.le_refl _, ?_, ?_⟩
    · rw [numbers, List.drop_length]
      exact .nil _
    · intro command other same
      cases caller with
      | user => cases same
      | request current =>
          cases same
          rfl
  · exact counted.moveTo nofun

theorem readAnswer_ne (command : Command) (retried : Bool) (frame : Frame) :
    ∀ other info,
      readAnswer command retried frame ≠ .resending other info := by
  intro other info
  unfold readAnswer
  split
  · split <;> nofun
  · split
    · nofun
    · split <;> nofun

theorem Counted.step {label : Label} (counted : Counted dialogue)
    (reported : Reported dialogue label)
    (stepped : dialogue.step label = some later) : Counted later := by
  cases label with
  | sync =>
      simp only [Dialogue.step] at stepped
      split at stepped
      · cases stepped
        exact counted.moveTo nofun
      · cases stepped
  | request command written =>
      simp only [Dialogue.step] at stepped
      split at stepped
      · cases stepped
        exact counted.sendCommand command rfl
      · cases stepped
  | query written =>
      simp only [Dialogue.step] at stepped
      split at stepped
      · split at stepped
        · cases stepped
          exact counted.sendQuery nofun
        · cases stepped
          exact counted.moveTo nofun
      · cases stepped
  | read frame =>
      simp only [Dialogue.step] at stepped
      split at stepped
      · cases stepped
        exact counted.moveTo nofun
      · rename_i caller attempt frame position
        cases stepped
        apply counted.readResponse
        intro info accepted
        rwa [Reported, position, accepted] at reported
      · cases stepped
        exact counted.moveTo nofun
      · cases stepped
        exact counted.moveTo (readAnswer_ne _ _ _)
      · cases stepped
  | resend written =>
      simp only [Dialogue.step] at stepped
      split at stepped
      · rename_i command info position
        cases stepped
        exact counted.sendCommand command
          (counted.resends command info position)
      · cases stepped

theorem counted_of_reported {labels : List Label} {final : Dialogue}
    (run : Run.GuardedRun step Reported new labels final) : Counted final :=
  run.preserves
    (fun _ _ _ counted reported stepped => counted.step reported stepped)
    counted_new

section Refinement

variable {world final : World}

theorem send_txSeq (world : World) (bytes : List UInt8) :
    (world.send bytes).txSeq = world.txSeq := by
  rw [World.send, World.write]
  split <;> rfl

/-- A `sync` with a device that follows the rules is a run of the dialogue. -/
theorem exec_syncLoop (caller : SyncCaller) {attempts : Nat}
    {result : Except SessionError ProtocolInfo}
    (looped : World.syncLoop attempts world = (result, final))
    (few : attempts ≤ 4)
    (position : dialogue.position = .querying caller (4 - attempts))
    (txSeq : dialogue.txSeq = world.txSeq) :
    ∃ labels last, Run.exec step dialogue labels = some last ∧
      last.txSeq = final.txSeq ∧ last.position = caller.returned result := by
  induction attempts generalizing world dialogue with
  | zero =>
      cases looped
      refine ⟨[.query true], dialogue.moveTo .outside, ?_, txSeq, rfl⟩
      simp [Run.exec, step, position]
  | succ attempts induction =>
      have next : 4 - (attempts + 1) + 1 = 4 - attempts := by omega
      let asking := dialogue.send .query
        (Frame.protocolInfoQuery dialogue.txSeq) true
        (.syncing caller (4 - (attempts + 1)))
      have asked : dialogue.step (.query true) = some asking := by
        rw [step, position]
        exact if_pos (by omega)
      have answered : ∀ frame, asking.step (.read (some frame)) = some
          (asking.readResponse caller (4 - (attempts + 1)) frame) :=
        fun _ => rfl
      have same := (World.readFrame_same
        (world.send (Frame.protocolInfoQuery world.txSeq))).txSeq
      rw [send_txSeq] at same
      replace same := txSeq.trans same.symm
      rw [World.syncLoop] at looped
      generalize World.readFrame _ = read at looped same
      obtain ⟨outcome, behind⟩ := read
      cases outcome with
      | error error =>
          cases looped
          have failed : asking.step (.read none) =
              some (asking.moveTo .outside) := rfl
          refine ⟨[.query true, .read none], asking.moveTo .outside, ?_,
            same, rfl⟩
          simp only [Run.exec, asked, failed]
      | ok frame =>
          dsimp only at looped
          cases accepted : ProtocolInfo.tryFrom frame with
          | some info =>
              rw [accepted] at looped
              cases looped
              refine ⟨[.query true, .read (some frame)],
                asking.readResponse caller (4 - (attempts + 1)) frame,
                by simp only [Run.exec, asked, answered], ?_, ?_⟩
              · simp only [readResponse, accepted]
              · simp only [readResponse, accepted, SyncCaller.returned]
          | none =>
              rw [accepted] at looped
              have retried : asking.readResponse caller
                  (4 - (attempts + 1)) frame =
                    asking.moveTo (.querying caller (4 - attempts)) := by
                rw [readResponse, accepted, next]
              obtain ⟨labels, last, executed, result⟩ :=
                induction looped (by omega)
                  (show (asking.moveTo (.querying caller
                    (4 - attempts))).position = _ from rfl) same
              refine ⟨.query true :: .read (some frame) :: labels, last, ?_,
                result⟩
              simp only [Run.exec, asked, answered, retried]
              exact executed

/-- The command is sent again after a `sync` that has succeeded. -/
theorem exec_resend {command : Command} {info : ProtocolInfo}
    (synced : world.sync = (.ok info, final))
    (position : dialogue.position = .querying (.request command) 0)
    (txSeq : dialogue.txSeq = world.txSeq) :
    ∃ labels last, Run.exec step dialogue labels = some last ∧
      last.txSeq = (Waiting.retry command info final).txSeq ∧
      last.position = .waiting command true := by
  obtain ⟨labels, last, executed, -, returned⟩ :=
    exec_syncLoop (.request command) synced (Nat.le_refl 4) position txSeq
  let resent := (last.advance info.nextSeq).send .request
    (Frame.encodeHostFrame command.rtype info.nextSeq command.payload) true
    (.waiting command true)
  have resends : last.step (.resend true) = some resent := by
    rw [step, returned]
    rfl
  refine ⟨labels ++ [.resend true], resent, ?_, ?_, rfl⟩
  · rw [Run.exec_append, executed, Option.bind_some, Run.exec, resends]
    rfl
  · rw [Waiting.retry, send_txSeq]
    rfl

/-- The dialogue stands where an iteration of the loop of `request` leaves
it: waiting for another frame, or outside. -/
def Standing (command : Command) (dialogue : Dialogue) :
    Loop.Outcome Waiting → Prop
  | .next later =>
      dialogue.txSeq = later.world.txSeq ∧
        dialogue.position = .waiting command later.retried
  | .stop ended =>
      dialogue.txSeq = ended.world.txSeq ∧ dialogue.position = .outside

/-- A frame that is no rejection takes the dialogue where the loop goes. -/
theorem standing_readAnswer {command : Command} {waiting : Waiting}
    {frame : Frame} {behind : World}
    (read : waiting.world.readFrame = (.ok frame, behind))
    (accepted : ¬(frame.error = .incorrectSequenceNumber ∧
      waiting.retried = false))
    (same : dialogue.txSeq = behind.txSeq) :
    Standing command
      (dialogue.moveTo (readAnswer command waiting.retried frame))
      (waiting.step command) := by
  rw [Waiting.step, read, readAnswer]
  dsimp only
  by_cases failed : frame.error ≠ .noError
  · rw [if_pos failed, if_pos failed, if_neg accepted, if_neg accepted]
    exact ⟨same, rfl⟩
  · rw [if_neg failed, if_neg failed]
    split
    · exact ⟨same, rfl⟩
    · split <;> exact ⟨same, rfl⟩

/-- A rejection is followed by a `sync`, and by the command once more where
that succeeds. -/
theorem exec_rejected {command : Command} {waiting : Waiting}
    {frame : Frame} {behind : World}
    (read : waiting.world.readFrame = (.ok frame, behind))
    (rejected : frame.error = .incorrectSequenceNumber ∧
      waiting.retried = false)
    (position : dialogue.position = .querying (.request command) 0)
    (same : dialogue.txSeq = behind.txSeq) :
    ∃ labels last, Run.exec step dialogue labels = some last ∧
      Standing command last (waiting.step command) := by
  have failed : frame.error ≠ .noError := by
    rw [rejected.1]
    decide
  rw [Waiting.step, read]
  dsimp only
  rw [if_pos failed, if_pos rejected]
  rcases synced : behind.sync with ⟨error | info, after⟩
  · obtain ⟨labels, last, executed, result⟩ := exec_syncLoop
      (.request command) synced (Nat.le_refl 4) position same
    exact ⟨labels, last, executed, result⟩
  · obtain ⟨labels, last, executed, result⟩ :=
      exec_resend synced position same
    exact ⟨labels, last, executed, result⟩

/-- One iteration of the loop of `request`. -/
theorem exec_iteration {command : Command} {waiting : Waiting}
    (position : dialogue.position = .waiting command waiting.retried)
    (txSeq : dialogue.txSeq = waiting.world.txSeq) :
    ∃ labels last, Run.exec step dialogue labels = some last ∧
      Standing command last (waiting.step command) := by
  have same := (World.readFrame_same waiting.world).txSeq
  replace same := txSeq.trans same.symm
  rcases read : waiting.world.readFrame with ⟨error | frame, behind⟩
  · refine ⟨[.read none], dialogue.moveTo .outside, ?_, ?_⟩
    · simp only [Run.exec, step, position]
    · rw [Waiting.step, read]
      rw [read] at same
      exact ⟨same, rfl⟩
  · rw [read] at same
    let moved :=
      dialogue.moveTo (readAnswer command waiting.retried frame)
    have moves : dialogue.step (.read (some frame)) = some moved := by
      simp only [step, position, moved]
    by_cases rejected : frame.error = .incorrectSequenceNumber ∧
        waiting.retried = false
    · have failed : frame.error ≠ .noError := by
        rw [rejected.1]
        decide
      have asks : moved.position = .querying (.request command) 0 := by
        simp only [moved, moveTo, readAnswer]
        rw [if_pos failed, if_pos rejected]
      obtain ⟨labels, last, executed, standing⟩ :=
        exec_rejected read rejected asks same
      refine ⟨.read (some frame) :: labels, last, ?_, standing⟩
      rw [Run.exec, moves]
      exact executed
    · refine ⟨[.read (some frame)], moved, ?_,
        standing_readAnswer read rejected same⟩
      rw [Run.exec, moves]
      rfl

/-- The loop of `request`. -/
theorem exec_waiting {command : Command} {fuel : Nat}
    {waiting ended : Waiting}
    (iterated : Loop.iterate (fun _ => true) (Waiting.step command) fuel
      waiting = some ended)
    (position : dialogue.position = .waiting command waiting.retried)
    (txSeq : dialogue.txSeq = waiting.world.txSeq) :
    ∃ labels last, Run.exec step dialogue labels = some last ∧
      last.txSeq = ended.world.txSeq ∧ last.position = .outside := by
  induction fuel generalizing waiting dialogue with
  | zero => cases iterated
  | succ fuel induction =>
      obtain ⟨labels, last, executed, standing⟩ :=
        exec_iteration position txSeq
      rw [Loop.iterate, if_pos rfl] at iterated
      cases outcome : waiting.step command with
      | stop final =>
          rw [outcome] at iterated standing
          cases iterated
          exact ⟨labels, last, executed, standing⟩
      | next later =>
          rw [outcome] at iterated standing
          obtain ⟨others, final, rest, result⟩ :=
            induction iterated standing.2 standing.1
          refine ⟨labels ++ others, final, ?_, result⟩
          rw [Run.exec_append, executed]
          exact rest

/-- A `request` is a run of the dialogue, too. -/
theorem exec_request {command : Command} {fuel : Nat}
    {result : Except SessionError Frame}
    (requested : world.request fuel command = some (result, final))
    (outside : dialogue.position = .outside)
    (txSeq : dialogue.txSeq = world.txSeq) :
    ∃ labels last,
      Run.exec step dialogue (.request command true :: labels) = some last ∧
      last.txSeq = final.txSeq ∧ last.position = .outside := by
  simp only [World.request, Option.bind_eq_bind, Option.pure_def,
    Option.bind_eq_some_iff, Option.some.injEq, Prod.mk.injEq] at requested
  obtain ⟨ended, iterated, _, _, _, rfl⟩ := requested
  let begun := (dialogue.advance dialogue.txSeq).send .request
    (Frame.encodeHostFrame command.rtype dialogue.txSeq command.payload) true
    (.waiting command false)
  have begins : dialogue.step (.request command true) = some begun := by
    rw [step, outside]
  have numbered : begun.txSeq = (world.begin command).world.txSeq := by
    rw [World.begin, send_txSeq, ← txSeq]
    rfl
  have waits : begun.position = .waiting command false := rfl
  obtain ⟨labels, last, executed, result⟩ :=
    exec_waiting iterated waits numbered
  refine ⟨labels, last, ?_, result⟩
  rw [Run.exec, begins]
  exact executed

end Refinement

/-- The response to a query. -/
def report (next : UInt8) : Frame where
  rtype := .protocolInfo
  rtype_known := rfl
  noAck := false
  host := true
  error := .noError
  seq := 0
  payload := [1, 0, 0, next]

/-- A command without a response. -/
def reset : Command where
  rtype := .hci
  payload := [1, 3, 12, 0]
  matching := fun _ => false

/-- A `sync` with this response, and two commands that are not answered. -/
def reportedLabels (next : UInt8) : List Label :=
  [.sync, .query true, .read (some (report next)), .request reset true,
    .read none, .request reset true]

end Dialogue

end Protocol

namespace Counting

theorem length_report (next : UInt8) :
    (4 : Fin 65536).val = [1, 0, 0, next].length := rfl

/-- The response to a query. -/
def report (next : UInt8) : Frame where
  header :=
    { type := .protocolInfo, noAck := false, host := true, error := .noError
      reserved := 0, sequenceNumber := 0, length := 4 }
  payload := [1, 0, 0, next]
  length_eq := length_report next

/-- A `bus_open` with this response, and two frames. -/
def reportedLabels (next : UInt8) : List Label :=
  [.thread .busOpen, .thread .advance, .thread .advance, .thread .advance,
    .thread (.receive (report next)), .thread .advance, .thread .advance,
    .thread .advance, .thread .advance, .busSend .hci [1], .busSend .hci [2]]

instance (counting : Counting) :
    (label : Label) → Decidable (counting.Reported label)
  | .thread _ => inferInstanceAs (Decidable (_ = true → _ ≤ _))
  | .busSend _ _ => inferInstanceAs (Decidable True)

instance (counting : Counting) :
    (label : Label) → Decidable (counting.InTurn label)
  | .thread _ => inferInstanceAs (Decidable True)
  | .busSend _ _ => inferInstanceAs (Decidable (_ = _))

end Counting

open Protocol (Dialogue)

/-- As long as the responses they accept report numbers in 0..15, both hosts
keep their counters in that range, no addition overflows, and the frames that
take a number count on from the last response, on the bus if none of them
overtakes a request that has its number. -/
theorem counters_in_range (handler : SerialType → Bool)
    (labels : List Counting.Label) (counting : Counting)
    (requests : List Dialogue.Label) (dialogue : Dialogue) :
    (Run.GuardedRun Counting.step Counting.Reported (.boot handler) labels
        counting →
      counting.bus.txSeq ≤ sequenceNumberMax) ∧
    (Run.GuardedRun Counting.step
        (fun counting label =>
          counting.Reported label ∧ counting.InTurn label)
        (.boot handler) labels counting →
      counting.Consecutive) ∧
    (Run.GuardedRun Dialogue.step Dialogue.Reported .new requests dialogue →
      dialogue.txSeq.toNat ≤ sequenceNumberMax ∧
        dialogue.overflowed = false ∧ dialogue.Consecutive) := by
  refine ⟨?_, ?_, ?_⟩
  · intro run
    exact Counting.bounded_of_reported run
  · intro run
    exact Counting.consecutive_of_reported run
  · intro run
    have counted := Dialogue.counted_of_reported run
    exact ⟨counted.bounded, counted.fits, counted.sequence.chain⟩

theorem counters_in_range_fifteen :
    (∃ final, Run.exec Counting.step (.boot fun _ => true)
        (Counting.reportedLabels 15) = some final ∧
      final.bus.txSeq ≤ sequenceNumberMax ∧ final.numbers = [15, 0] ∧
      final.Consecutive) ∧
    ∃ final, Run.exec Dialogue.step .new (Dialogue.reportedLabels 15) =
        some final ∧
      final.txSeq.toNat ≤ sequenceNumberMax ∧ final.overflowed = false ∧
      final.numbers = [15, 0] ∧ final.Consecutive := by
  constructor
  · have executed : (Run.execGuarded Counting.step
        (fun counting label =>
          counting.Reported label ∧ counting.InTurn label)
        (.boot fun _ => true) (Counting.reportedLabels 15)).map
          Counting.numbers = some [15, 0] := by
      decide +kernel
    obtain ⟨final, ended, numbers⟩ := Option.map_eq_some_iff.mp executed
    have run := Run.guardedRun_of_execGuarded ended
    have reported : Run.GuardedRun Counting.step Counting.Reported
        (.boot fun _ => true) (Counting.reportedLabels 15) final :=
      run.weaken (fun _ _ both => both.1)
    obtain ⟨range, consecutive, -⟩ := counters_in_range (fun _ => true)
      (Counting.reportedLabels 15) final [] .new
    exact ⟨final, run.exec_eq, range reported, numbers, consecutive run⟩
  · have small : (15 : UInt8).toNat ≤ sequenceNumberMax := by decide
    have run : Run.GuardedRun Dialogue.step Dialogue.Reported .new
        (Dialogue.reportedLabels 15) _ :=
      .cons trivial rfl (.cons trivial rfl (.cons small rfl
        (.cons trivial rfl (.cons trivial rfl (.cons trivial rfl (.nil _))))))
    obtain ⟨-, -, session⟩ := counters_in_range (fun _ => true) []
      (.boot fun _ => true) (Dialogue.reportedLabels 15) _
    obtain ⟨bounded, fits, inOrder⟩ := session run
    exact ⟨_, run.exec_eq, bounded, fits, rfl, inOrder⟩

/-- A response that reports 200 leaves the counter of the bus at 200 and its
next two frames with the numbers 8 and 0; one that reports 255 makes the first
command of the session overflow. -/
theorem counters_not_in_range :
    (∃ final, Run.exec Counting.step (.boot fun _ => true)
        ((Counting.reportedLabels 200).take 9) = some final ∧
      final.bus.txSeq = 200) ∧
    (∃ final, Run.exec Counting.step (.boot fun _ => true)
        (Counting.reportedLabels 200) = some final ∧
      final.numbers = [8, 0] ∧ ¬final.Consecutive) ∧
    ∃ final, Run.exec Dialogue.step .new (Dialogue.reportedLabels 255) =
        some final ∧ final.overflowed = true := by
  refine ⟨?_, ?_, _, rfl, rfl⟩
  · have executed : (Run.exec Counting.step (.boot fun _ => true)
        ((Counting.reportedLabels 200).take 9)).map (·.bus.txSeq) =
          some 200 := by
      decide +kernel
    obtain ⟨final, ended, txSeq⟩ := Option.map_eq_some_iff.mp executed
    exact ⟨final, ended, txSeq⟩
  · have executed : (Run.exec Counting.step (.boot fun _ => true)
        (Counting.reportedLabels 200)).map Counting.numbers =
          some [8, 0] := by
      decide +kernel
    obtain ⟨final, ended, numbers⟩ := Option.map_eq_some_iff.mp executed
    refine ⟨final, ended, numbers, ?_⟩
    rw [Counting.Consecutive, numbers]
    decide

end SerialLink
