import SerialLink.Session.Session

/-!
# Recovery of a session

A request made with the wrong number is rejected; the session asks for the
number the device expects and sends the command again.  Over a line that loses
nothing, with a deadline that does not pass and a device that sends nothing
unasked for, every request of a conversation returns its response and leaves
the session and the device with the same number, as long as no drain of the
port stops inside a frame: the session has no other way to find where the next
frame begins.
-/

namespace SerialLink

namespace Protocol

/-- What a session reads of a response. -/
def Frame.ofDevice (rtype : SerialType) (known : rtype.known = true)
    (sequenceNumber : Nat) (payload : List UInt8) : Frame where
  rtype := rtype
  rtype_known := known
  noAck := false
  host := true
  error := .noError
  seq := UInt8.ofNat (sequenceNumber % 16)
  payload := payload

namespace World

/-- The session's number is the one the device expects. -/
def Aligned (world : World) : Prop :=
  world.txSeq.toNat = world.peer.rx

instance (world : World) : Decidable world.Aligned :=
  inferInstanceAs (Decidable (_ = _))

/-- The number of the response; a query is answered before it if the numbers
disagree. -/
def responseSeq (world : World) : Nat :=
  if world.Aligned then world.peer.tx else seqNext world.peer.tx

/-- The response the device gives. -/
def response (world : World) (exchange : Exchange)
    (known : exchange.command.rtype.known = true) : Frame :=
  .ofDevice exchange.command.rtype known world.responseSeq
    exchange.reply.payload

/-- A command of legal length with a matching response, and nothing else from
the device; the deadline does not pass. -/
structure Regular (world : World) (exchange : Exchange) : Prop where
  known : exchange.command.rtype.known = true
  command : exchange.command.rtype ≠ .protocolInfo
  nonempty : exchange.command.payload ≠ []
  bounded : exchange.command.payload.length ≤ maxPayloadLen
  alone : exchange.reply.notices = []
  patient : exchange.patience = none
  matching : exchange.command.matching
    (world.response exchange known) = true

/-- The bytes that have arrived when the call drains the port are whole
frames. -/
def WholeDrain (world : World) (exchange : Exchange) : Prop :=
  ∃ frames, world.inbound.take (exchange.arrivals.headD 0) =
    SerialLink.Frame.encodeAll frames

/-- Nothing is on its way but the acknowledgement of the last command. -/
structure Linked (world : World) : Prop where
  txSeq : world.txSeq.toNat ≤ sequenceNumberMax
  rx : world.peer.rx ≤ sequenceNumberMax
  tx : world.peer.tx ≤ sequenceNumberMax
  inbound : world.inbound = [] ∨ world.Aligned ∧
    ∃ type sequenceNumber, type.known = true ∧
      world.inbound = (ackFrame type sequenceNumber .noError).encode

end World

/-- The response was returned for one accepted command, after one rejected
command and one query if the numbers disagreed, and now they agree. -/
structure Call.Recovered (call : Call) : Prop where
  result : ∃ known, call.result =
    .ok (call.before.response call.exchange known)
  heard : call.after.heard =
    if call.before.Aligned then [.accepted] else [.mismatch, .query, .accepted]
  aligned : call.after.Aligned

section Reading

open World

variable {command : Command} {waiting : Waiting} {world : World}
  {frame : SerialLink.Frame} {rest : List UInt8}

theorem World.readFrame_unlimited (legible : Legible frame)
    (inbound : world.inbound = frame.encode ++ rest)
    (unlimited : world.patience = none) :
    world.readFrame = (.ok legible.read, { world with inbound := rest }) := by
  rw [World.readFrame_parsed legible.bounded inbound unlimited, legible.parsed]

/-- An acknowledgement the loop of `request` skips. -/
structure Skipped (frame : SerialLink.Frame) : Prop where
  legible : Legible frame
  sound : frame.header.error = .noError
  empty : frame.payload = []

theorem skipped_ackFrame {type : SerialType} (known : type.known = true)
    (sequenceNumber : Nat) :
    Skipped (ackFrame type sequenceNumber .noError) where
  legible := ⟨known, rfl, Nat.zero_le _⟩
  sound := rfl
  empty := rfl

/-- A frame the loops pass over: an acknowledgement, or a frame that does not
match. -/
structure Passes (matching : Frame → Bool) (frame : SerialLink.Frame) :
    Prop where
  legible : Legible frame
  sound : frame.header.error = .noError
  passed : frame.payload = [] ∨ matching legible.read = false

theorem Skipped.passes (skipped : Skipped frame)
    (matching : Frame → Bool) : Passes matching frame where
  legible := skipped.legible
  sound := skipped.sound
  passed := .inl skipped.empty

/-- The frame the loops wait for. -/
structure Answers (matching : Frame → Bool) (frame : SerialLink.Frame) :
    Prop where
  legible : Legible frame
  sound : frame.header.error = .noError
  nonempty : frame.payload ≠ []
  matching : matching legible.read = true

theorem Waiting.step_passes (passes : Passes command.matching frame)
    (inbound : waiting.world.inbound = frame.encode ++ rest)
    (unlimited : waiting.world.patience = none) :
    Waiting.step command waiting =
      .next { waiting with world.inbound := rest } := by
  have sound : ¬passes.legible.read.error ≠ .noError :=
    not_not_intro passes.sound
  rw [Waiting.step, readFrame_unlimited passes.legible inbound unlimited]
  by_cases empty : frame.payload = []
  · have contents : passes.legible.read.payload = [] := empty
    simp only [if_neg sound, if_pos contents]
  · have contents : ¬passes.legible.read.payload = [] := empty
    have other := passes.passed.resolve_left empty
    simp only [if_neg sound, if_neg contents, other, Bool.false_eq_true,
      if_false]

theorem Waiting.step_answers (answers : Answers command.matching frame)
    (inbound : waiting.world.inbound = frame.encode ++ rest)
    (unlimited : waiting.world.patience = none) :
    Waiting.step command waiting =
      waiting.finish { waiting.world with inbound := rest }
        (.ok answers.legible.read) := by
  have sound : ¬answers.legible.read.error ≠ .noError :=
    not_not_intro answers.sound
  have contents : ¬answers.legible.read.payload = [] := answers.nonempty
  rw [Waiting.step, readFrame_unlimited answers.legible inbound unlimited]
  simp only [if_neg sound, if_neg contents, if_pos answers.matching]

/-- The loop passes over the frames before the first matching one. -/
theorem Waiting.returns_response (skips frames : List SerialLink.Frame)
    (passes : ∀ skip ∈ skips, Passes command.matching skip)
    (answers : Answers command.matching frame)
    (inbound : waiting.world.inbound =
      SerialLink.Frame.encodeAll (skips ++ frame :: frames))
    (unlimited : waiting.world.patience = none) :
    Loop.Returns (fun _ => true) (Waiting.step command) waiting
      { waiting with
        world.inbound := SerialLink.Frame.encodeAll frames
        result := some (.ok answers.legible.read) } := by
  let facing (skips : List SerialLink.Frame) : Waiting :=
    { waiting with
      world.inbound :=
        SerialLink.Frame.encodeAll (skips ++ frame :: frames) }
  have start : waiting = facing skips := by
    simp only [facing, ← inbound]
  rw [start]
  apply Loop.returns_of_skips facing ?_ skips passes
  · apply Loop.returns_of_stop rfl
    exact @Waiting.step_answers command (facing []) _ _ answers rfl unlimited
  · intro skip skips kept
    exact ⟨rfl, @Waiting.step_passes command (facing (skip :: skips)) _ _ kept
      rfl unlimited⟩

end Reading

section Calls

open World

variable {command : Command} {waiting : Waiting} {world later : World}
  {exchange : Exchange}

/-- The device receives a command. -/
theorem World.send_command (world : World) {rtype : SerialType}
    (known : rtype.known = true) {seq : UInt8}
    (small : seq.toNat ≤ sequenceNumberMax)
    {payload : List UInt8} (bounded : payload.length ≤ maxPayloadLen) :
    ∃ frame : Frame, frame.rtype = rtype ∧ frame.seq = seq ∧
      frame.payload = payload ∧
      world.send (Frame.encodeHostFrame rtype seq payload) =
        let handled := world.peer.handle frame world.reply
        { world with
          peer := handled.1
          inbound := world.inbound.drop (world.arrivals.headD 0) ++
            SerialLink.Frame.encodeAll handled.2.1
          arrivals := world.arrivals.tail
          heard := world.heard ++ [handled.2.2] } := by
  refine ⟨Frame.ofHost rtype known seq payload, rfl, ?_, rfl, ?_⟩
  · unfold sequenceNumberMax at small
    rw [Frame.ofHost, Nat.mod_eq_of_lt (by omega), UInt8.ofNat_toNat]
  · rw [World.send, write_host known seq bounded]
    rfl

/-- With nothing on its way, `sync` learns the number in one exchange. -/
theorem World.sync_quiet (world : World) (quiet : world.inbound = [])
    (unlimited : world.patience = none)
    (small : world.peer.rx ≤ sequenceNumberMax) :
    ∃ info : ProtocolInfo, info.nextSeq.toNat = world.peer.rx ∧
      world.sync =
        (.ok info,
          { world with
            txSeq := info.nextSeq
            peer.tx := seqNext world.peer.tx
            arrivals := world.arrivals.tail
            heard := world.heard ++ [.query] }) := by
  have legible : Legible world.peer.infoFrame :=
    ⟨rfl, rfl, show 4 ≤ maxPayloadLen by decide⟩
  have sent : world.send (Frame.protocolInfoQuery world.txSeq) =
      { world with
        peer.tx := seqNext world.peer.tx
        inbound := world.peer.infoFrame.encode
        arrivals := world.arrivals.tail
        heard := world.heard ++ [.query] } := by
    rw [World.send, Frame.protocolInfoQuery,
      @write_host world.drain .protocolInfo rfl world.txSeq [0] (by decide),
      Peer.handle_query rfl]
    simp [World.drain, quiet]
  have inbound : (world.send (Frame.protocolInfoQuery world.txSeq)).inbound =
      world.peer.infoFrame.encode ++ [] := by
    rw [sent, List.append_nil]
  have read := readFrame_unlimited legible inbound (by rw [sent, unlimited])
  obtain ⟨info, known, number⟩ : ∃ info,
      ProtocolInfo.tryFrom legible.read = some info ∧
        info.nextSeq = UInt8.ofNat world.peer.rx := ⟨_, rfl, rfl⟩
  refine ⟨info, ?_, ?_⟩
  · unfold sequenceNumberMax at small
    rw [number, UInt8.toNat_ofNat', Nat.mod_eq_of_lt (by omega)]
  · rw [World.sync, World.syncLoop, read, sent]
    simp only [known]
    rw [← quiet]

/-- The two sides once a command has been accepted and counted, with at most
its acknowledgement on the way. -/
theorem World.linked_accepted {type : SerialType} (known : type.known = true)
    (sequenceNumber : Nat) {inbound : List UInt8}
    (counted : world.txSeq.toNat = seqNext world.peer.rx)
    (few : inbound = [] ∨
      inbound = (ackFrame type sequenceNumber .noError).encode) :
    Linked
      { world with
        peer :=
          { world.peer with
            rx := seqNext world.peer.rx
            tx := seqNext world.peer.tx }
        inbound
        arrivals := world.arrivals.tail
        heard := world.heard ++ [.accepted] } := by
  refine ⟨counted ▸ seqNext_le _, seqNext_le _, seqNext_le _, ?_⟩
  rcases few with none | one
  · exact .inl none
  · exact .inr ⟨counted, type, sequenceNumber, known, one⟩

/-- A command with the expected number is accepted, and its response is
returned; the session has counted it. -/
theorem Waiting.returns_accepted (waiting : Waiting) (world : World)
    {skips : List SerialLink.Frame} {seq : UInt8}
    (known : command.rtype.known = true)
    (ordinary : command.rtype ≠ .protocolInfo)
    (nonempty : command.payload ≠ [])
    (bounded : command.payload.length ≤ maxPayloadLen)
    (expected : seq.toNat = world.peer.rx)
    (small : world.peer.rx ≤ sequenceNumberMax)
    (counted : world.txSeq.toNat = seqNext world.peer.rx)
    (alone : world.reply.notices = []) (unlimited : world.patience = none)
    (matching : command.matching (Frame.ofDevice command.rtype known
      world.peer.tx world.reply.payload) = true)
    (skipped : ∀ skip ∈ skips, Skipped skip)
    (left : world.inbound.drop (world.arrivals.headD 0) =
      SerialLink.Frame.encodeAll skips)
    (sent : waiting.world = world.send
      (Frame.encodeHostFrame command.rtype seq command.payload)) :
    ∃ later,
      Loop.Returns (fun _ => true) (Waiting.step command) waiting
        { waiting with
          world := later
          result := some (.ok (Frame.ofDevice command.rtype known
            world.peer.tx world.reply.payload)) } ∧
      later.heard = world.heard ++ [.accepted] ∧ later.Aligned ∧
      Linked later := by
  obtain ⟨frame, rtype, number, payload, received⟩ :=
    World.send_command world known (expected ▸ small) bounded
  rw [Peer.handle_accepted (rtype ▸ ordinary) (payload ▸ nonempty)
    (number ▸ expected), left] at received
  dsimp only at received
  rw [alone, Peer.answerFrames, alone, Peer.noticeFrames, List.append_nil,
    rtype, number, ← SerialLink.Frame.encodeAll_append] at received
  have answers : Answers command.matching (Peer.responseFrame command.rtype
      world.peer.tx world.reply.payload world.reply.bounded) :=
    ⟨⟨known, rfl, world.reply.bounded⟩, rfl, world.reply.nonempty, matching⟩
  have acknowledged := skipped_ackFrame known seq.toNat
  obtain ⟨world', retried, result⟩ := waiting
  dsimp only at sent
  rw [received] at sent
  subst sent
  by_cases first : world.reply.ackFirst = true
  · have all : ∀ skip ∈ skips ++ [ackFrame command.rtype seq.toNat .noError],
        Passes command.matching skip := by
      intro skip member
      rcases List.mem_append.mp member with before | last
      · exact (skipped skip before).passes _
      · rw [List.mem_singleton.mp last]
        exact acknowledged.passes _
    exact ⟨_, Waiting.returns_response _ [] all answers (by simp [first])
      unlimited, rfl, counted,
      linked_accepted known seq.toNat counted (.inl rfl)⟩
  · have all : ∀ skip ∈ skips, Passes command.matching skip := by
      intro skip member
      exact (skipped skip member).passes _
    exact ⟨_, Waiting.returns_response skips
      [ackFrame command.rtype seq.toNat .noError] all answers
      (by simp [first]) unlimited, rfl, counted,
      linked_accepted known seq.toNat counted (.inr (List.append_nil _))⟩

/-- What a whole drain leaves of the last acknowledgement. -/
theorem World.Linked.left (linked : Linked world)
    (whole : WholeDrain world exchange) :
    ∃ skips, (∀ skip ∈ skips, Skipped skip) ∧
      world.inbound.drop (exchange.arrivals.headD 0) =
        SerialLink.Frame.encodeAll skips := by
  rcases linked.inbound with quiet | ⟨-, type, sequenceNumber, known, one⟩
  · refine ⟨[], fun skip member => absurd member List.not_mem_nil, ?_⟩
    rw [quiet, List.drop_nil]
    rfl
  · obtain ⟨frames, arrived⟩ := whole
    cases frames with
    | nil =>
        refine ⟨[ackFrame type sequenceNumber .noError], ?_, ?_⟩
        · intro skip member
          rw [List.mem_singleton.mp member]
          exact skipped_ackFrame known sequenceNumber
        · have kept := List.take_append_drop (exchange.arrivals.headD 0)
            world.inbound
          rw [arrived] at kept
          rw [SerialLink.Frame.encodeAll_cons,
            SerialLink.Frame.encodeAll_nil, List.append_nil, ← one]
          exact kept
    | cons frame frames =>
        refine ⟨[], fun skip member => absurd member List.not_mem_nil, ?_⟩
        have size : world.inbound.length = 4 := congrArg List.length one
        have many := congrArg List.length arrived
        rw [List.length_take, size] at many
        simp only [SerialLink.Frame.encodeAll_cons, SerialLink.Frame.encode,
          List.length_append, SerialHeader.length_encode] at many
        rw [SerialLink.Frame.encodeAll_nil, List.drop_eq_nil_iff, size]
        omega

/-- A rejected command makes the session ask for the number and send the
command again. -/
theorem Waiting.step_rejected (waiting : Waiting)
    (known : command.rtype.known = true)
    (unlimited : waiting.world.patience = none)
    (small : waiting.world.peer.rx ≤ sequenceNumberMax)
    (first : waiting.retried = false) {sequenceNumber : Nat}
    (inbound : waiting.world.inbound =
      (ackFrame command.rtype sequenceNumber
        .incorrectSequenceNumber).encode) :
    ∃ info : ProtocolInfo, info.nextSeq.toNat = waiting.world.peer.rx ∧
      Waiting.step command waiting =
        .next { waiting with
          world := Waiting.retry command info
            { waiting.world with
              txSeq := info.nextSeq
              peer.tx := seqNext waiting.world.peer.tx
              inbound := []
              arrivals := waiting.world.arrivals.tail
              heard := waiting.world.heard ++ [.query] }
          retried := true } := by
  have legible : Legible (ackFrame command.rtype sequenceNumber
      .incorrectSequenceNumber) := ⟨known, rfl, Nat.zero_le _⟩
  have wrong : legible.read.error = .incorrectSequenceNumber := rfl
  have read := readFrame_unlimited legible
    (inbound.trans (List.append_nil _).symm) unlimited
  obtain ⟨info, number, synced⟩ := World.sync_quiet
    { waiting.world with inbound := [] } rfl unlimited small
  refine ⟨info, number, ?_⟩
  rw [Waiting.step, read]
  simp only [wrong, first, synced]
  rfl

section Regular

variable (linked : Linked world) (regular : Regular world exchange)

include linked regular

/-- A call made with the number the device expects. -/
theorem World.requests_of_aligned (whole : WholeDrain world exchange)
    (aligned : world.Aligned) :
    ∃ later, Requests exchange.command (world.prepare exchange)
        (.ok (world.response exchange regular.known)) later ∧
      later.heard = [.accepted] ∧ later.Aligned ∧ Linked later := by
  obtain ⟨skips, skipped, left⟩ := linked.left whole
  have matching := regular.matching
  rw [response, responseSeq, if_pos aligned] at matching
  have counted : ((world.txSeq + 1) &&& 0x0F).toNat =
      seqNext world.peer.rx :=
    (succ_and_low linked.txSeq).trans (congrArg seqNext aligned)
  rw [response, responseSeq, if_pos aligned]
  obtain ⟨later, returns, settled⟩ := Waiting.returns_accepted
    ((world.prepare exchange).begin exchange.command)
    { world.prepare exchange with txSeq := (world.txSeq + 1) &&& 0x0F }
    regular.known regular.command regular.nonempty regular.bounded aligned
    linked.rx counted
    regular.alone regular.patient matching skipped left rfl
  exact ⟨later, ⟨false, returns⟩, settled⟩

/-- A call made with another number. -/
theorem World.requests_of_misaligned (misaligned : ¬world.Aligned) :
    ∃ later, Requests exchange.command (world.prepare exchange)
        (.ok (world.response exchange regular.known)) later ∧
      later.heard = [.mismatch, .query, .accepted] ∧ later.Aligned ∧
      Linked later := by
  have quiet : world.inbound = [] := by
    rcases linked.inbound with quiet | ⟨aligned, -⟩
    · exact quiet
    · exact absurd aligned misaligned
  have matching := regular.matching
  rw [response, responseSeq, if_neg misaligned] at matching
  rw [response, responseSeq, if_neg misaligned]
  obtain ⟨frame, rtype, number, payload, received⟩ := World.send_command
    { world.prepare exchange with txSeq := (world.txSeq + 1) &&& 0x0F }
    regular.known linked.txSeq regular.bounded
  rw [Peer.handle_mismatch (rtype ▸ regular.command)
    (payload ▸ regular.nonempty) (by rw [number]; exact misaligned)] at received
  -- The rejection is the only frame on its way.
  have begun : ((world.prepare exchange).begin exchange.command).world =
      { world.prepare exchange with
        txSeq := (world.txSeq + 1) &&& 0x0F
        peer.rx := 0
        inbound := (ackFrame exchange.command.rtype world.peer.rx
          .incorrectSequenceNumber).encode
        arrivals := exchange.arrivals.tail
        heard := [.mismatch] } := by
    apply received.trans
    simp [World.prepare, quiet, rtype]
  obtain ⟨info, learned, resent⟩ := Waiting.step_rejected
    ((world.prepare exchange).begin exchange.command) regular.known
    (by rw [begun]; exact regular.patient) (by rw [begun]; exact Nat.zero_le _)
    rfl (by rw [begun])
  rw [begun] at learned resent
  have counted : ((info.nextSeq + 1) &&& 0x0F).toNat = seqNext 0 :=
    (succ_and_low (learned ▸ Nat.zero_le _)).trans (congrArg seqNext learned)
  let again : World :=
    { world.prepare exchange with
      txSeq := (info.nextSeq + 1) &&& 0x0F
      peer :=
        { world.peer with
          rx := 0
          tx := seqNext world.peer.tx }
      inbound := []
      arrivals := exchange.arrivals.tail.tail
      heard := [.mismatch, .query] }
  obtain ⟨later, returns, settled⟩ := Waiting.returns_accepted
    { world := again.send (Frame.encodeHostFrame exchange.command.rtype
        info.nextSeq exchange.command.payload)
      retried := true
      result := none }
    again regular.known regular.command regular.nonempty regular.bounded learned
    (Nat.zero_le _) counted regular.alone regular.patient matching
    (fun skip member => absurd member List.not_mem_nil) List.drop_nil rfl
  exact ⟨later, ⟨true, Loop.returns_of_next rfl resent returns⟩, settled⟩

end Regular

/-- One call. -/
theorem Call.recovered {call : Call} (linked : Linked call.before)
    (regular : Regular call.before call.exchange)
    (whole : WholeDrain call.before call.exchange)
    (returned : Requests call.exchange.command
      (call.before.prepare call.exchange) call.result call.after) :
    call.Recovered ∧ Linked call.after := by
  by_cases aligned : call.before.Aligned
  · obtain ⟨later, requests, heard, agree, still⟩ :=
      World.requests_of_aligned linked regular whole aligned
    obtain ⟨result, rfl⟩ := returned.unique requests
    exact ⟨⟨⟨regular.known, result⟩, by rw [heard, if_pos aligned], agree⟩,
      still⟩
  · obtain ⟨later, requests, heard, agree, still⟩ :=
      World.requests_of_misaligned linked regular aligned
    obtain ⟨result, rfl⟩ := returned.unique requests
    exact ⟨⟨⟨regular.known, result⟩, by rw [heard, if_neg aligned], agree⟩,
      still⟩

end Calls

/-- A session that has just been opened, and a device that has been in use. -/
structure World.Opened (world : World) : Prop where
  txSeq : world.txSeq.toNat ≤ sequenceNumberMax
  rx : world.peer.rx ≤ sequenceNumberMax
  tx : world.peer.tx ≤ sequenceNumberMax
  quiet : world.inbound = []

/-- In every conversation whose drains stop between frames, every request
recovers; and every further request returns. -/
theorem conversation_recovers {world final : World} {calls : List Call}
    (opened : world.Opened)
    (conversation : Conversation
      (fun before exchange => before.Regular exchange ∧
        before.WholeDrain exchange) world calls final) :
    (∀ call ∈ calls, call.Recovered) ∧
      ∀ exchange : Exchange, ∃ result later,
        World.Requests exchange.command (final.prepare exchange) result
          later := by
  constructor
  · apply conversation.forall_calls World.Linked Call.Recovered
    · intro call linked allowed returned
      exact Call.recovered linked allowed.1 allowed.2 returned
    · exact ⟨opened.txSeq, opened.rx, opened.tx, .inl opened.quiet⟩
  · intro exchange
    exact World.requests_returns _ _

section Trace

/-- A management command and its response, with `arrived` bytes in the port
when the call is made. -/
def scanExchange (ackFirst : Bool) (arrived : Nat) : Exchange where
  command :=
    { rtype := .wifiMgmt
      payload := [1]
      matching := fun frame => frame.rtype == .wifiMgmt }
  reply :=
    { payload := [2]
      nonempty := List.cons_ne_nil _ _
      bounded := by decide
      ackFirst
      notices := [] }
  arrivals := [arrived]
  patience := none

/-- A session that starts with `txSeq` where the device expects `rx`. -/
def World.start (txSeq : UInt8) (rx : Nat) : World where
  txSeq
  peer := { rx, tx := 3, supportedTypesMask := 0x1FF }
  inbound := []
  arrivals := []
  patience := none
  reply := (scanExchange false 0).reply
  heard := []

theorem World.regular_scan (world : World) (ackFirst : Bool) (arrived : Nat) :
    world.Regular (scanExchange ackFirst arrived) where
  known := rfl
  command := show SerialType.wifiMgmt ≠ .protocolInfo by decide
  nonempty := List.cons_ne_nil _ _
  bounded := show 1 ≤ 4096 by decide
  alone := rfl
  patient := rfl
  matching := rfl

theorem World.opened_start {txSeq : UInt8} {rx : Nat}
    (sent : txSeq.toNat ≤ sequenceNumberMax)
    (received : rx ≤ sequenceNumberMax) : (World.start txSeq rx).Opened where
  txSeq := sent
  rx := received
  tx := show 3 ≤ 15 by decide
  quiet := rfl

/-- A session that starts at 0 where the device expects 7, and a second
request that leaves the first one's acknowledgement in the port. -/
theorem conversation_recovers_from_seven :
    ∃ calls final, calls.length = 2 ∧
      Conversation (fun before exchange => before.Regular exchange ∧
        before.WholeDrain exchange) (World.start 0 7) calls final ∧
      (∀ call ∈ calls, call.Recovered) := by
  have opened : (World.start 0 7).Opened :=
    World.opened_start (by decide) (by decide)
  obtain ⟨_, middle, first⟩ := World.requests_returns
    (scanExchange false 0).command
    ((World.start 0 7).prepare (scanExchange false 0))
  obtain ⟨_, final, second⟩ := World.requests_returns
    (scanExchange true 0).command
    (middle.prepare (scanExchange true 0))
  have conversation : Conversation (fun before exchange =>
      before.Regular exchange ∧ before.WholeDrain exchange) (World.start 0 7)
        _ final :=
    .cons ⟨World.regular_scan _ _ _, [], rfl⟩ first
      (.cons ⟨World.regular_scan _ _ _, [], rfl⟩ second (.nil final))
  exact ⟨_, final, rfl, conversation,
    (conversation_recovers opened conversation).1⟩

/-- After a first scan whose acknowledgement follows the response. -/
def World.afterScan : World :=
  { World.start 1 1 with
    peer.tx := 4
    inbound := [0x20, 0, 0, 0]
    heard := [.accepted] }

theorem World.requests_afterScan :
    Requests (scanExchange false 0).command
      ((World.start 0 0).prepare (scanExchange false 0))
      (.ok (Frame.ofDevice .wifiMgmt rfl 3 [2])) World.afterScan := by
  apply requests_of_request 1
  decide +kernel

/-- The second request finds two of the four bytes of the acknowledgement in
the port, and takes the other two for the beginning of a header. -/
theorem second_request_not_recovered :
    (World.start 0 0).Opened ∧ ∃ calls final,
      Conversation World.Regular (World.start 0 0) calls final ∧
        ¬∀ call ∈ calls, call.Recovered := by
  refine ⟨World.opened_start (by decide) (by decide), ?_⟩
  obtain ⟨later, second⟩ : ∃ later, World.Requests
      (scanExchange false 2).command
      (World.afterScan.prepare (scanExchange false 2))
      (.error .timeout) later := by
    have returned : ((World.afterScan.prepare (scanExchange false 2)).request
        1 (scanExchange false 2).command).map Prod.fst =
          some (.error .timeout) := by
      decide +kernel
    obtain ⟨⟨_, later⟩, request, rfl⟩ := Option.map_eq_some_iff.mp returned
    exact ⟨later, World.requests_of_request 1 request⟩
  refine ⟨_, later, .cons (World.regular_scan _ _ _) World.requests_afterScan
    (.cons (World.regular_scan _ _ _) second (.nil later)), ?_⟩
  intro recovered
  obtain ⟨⟨_, answered⟩, -⟩ := recovered _
    (List.mem_cons_of_mem _ List.mem_cons_self)
  cases answered

end Trace

end Protocol

end SerialLink
