import SerialLink.Session.Recovery

/-!
# Execution at most once

A request sends its command a second time after a rejection.  The rejection
need not be the answer to this command: the session does not look at the
number of the frame it reads.  A call executes its command at most once if no
rejection of an earlier command is still on its way when the command is
accepted.
-/

namespace SerialLink

namespace Protocol

namespace Heard

/-- How often the command was accepted. -/
def acceptances (heard : List Heard) : Nat :=
  heard.count .accepted

@[simp] theorem acceptances_append (first second : List Heard) :
    acceptances (first ++ second) = acceptances first + acceptances second :=
  List.count_append

@[simp] theorem acceptances_query : acceptances [.query] = 0 := rfl

theorem acceptances_one (heard : Heard) : acceptances [heard] ≤ 1 := by
  cases heard <;> decide

end Heard

/-- The payload is not too long for a frame. -/
def Exchange.Fits (exchange : Exchange) : Prop :=
  exchange.command.payload.length ≤ maxPayloadLen

namespace World

open Heard (acceptances)

variable {world later : World} {exchange : Exchange}

/-- Whole frames, none of which rejects a command. -/
def Clean (bytes : List UInt8) : Prop :=
  ∃ frames, bytes = SerialLink.Frame.encodeAll frames ∧
    ∀ frame ∈ frames, Legible frame ∧
      frame.header.error ≠ .incorrectSequenceNumber

/-- If the device expects the number of the call, and its command has a
payload, what the call's drain leaves on its way is clean. -/
def NoLateRejection (world : World) (exchange : Exchange) : Prop :=
  exchange.command.payload ≠ [] →
    world.txSeq.toNat % 16 = world.peer.rx →
      Clean (world.inbound.drop (exchange.arrivals.headD 0))

theorem clean_append {first second : List UInt8} (one : Clean first)
    (other : Clean second) : Clean (first ++ second) := by
  obtain ⟨frames, rfl, all⟩ := one
  obtain ⟨others, rfl, alike⟩ := other
  refine ⟨frames ++ others, (SerialLink.Frame.encodeAll_append _ _).symm, ?_⟩
  intro frame member
  rcases List.mem_append.mp member with before | behind
  · exact all frame before
  · exact alike frame behind

/-- A frame read where the bytes are clean is no rejection, and the bytes
behind it are clean. -/
theorem Clean.readFrame {frame : Frame} (clean : Clean world.inbound)
    (read : world.readFrame = (.ok frame, later)) :
    frame.error ≠ .incorrectSequenceNumber ∧ Clean later.inbound := by
  have succeeded := congrArg Prod.fst read
  obtain ⟨frames, inbound, all⟩ := clean
  cases frames with
  | nil =>
      rw [readFrame_empty inbound] at succeeded
      cases succeeded
  | cons first frames =>
      obtain ⟨legible, sound⟩ := all first List.mem_cons_self
      rw [SerialLink.Frame.encodeAll_cons] at inbound
      by_cases patient : Patient world first.encode.length
      · rw [readFrame_patient legible inbound patient] at read
        cases read
        exact ⟨sound, frames, rfl,
          fun other member => all other (List.mem_cons_of_mem _ member)⟩
      · rw [readFrame_impatient legible inbound patient] at succeeded
        cases succeeded

theorem clean_notices (tx : Nat) (notices : List Notice) :
    Clean (SerialLink.Frame.encodeAll (Peer.noticeFrames tx notices)) := by
  refine ⟨_, rfl, ?_⟩
  induction notices generalizing tx with
  | nil =>
      intro frame member
      exact absurd member List.not_mem_nil
  | cons notice notices induction =>
      intro frame member
      rcases List.mem_cons.mp member with rfl | later
      · refine ⟨⟨notice.known, rfl, notice.bounded⟩, ?_⟩
        intro wrong
        have sound : notice.request.error = .incorrectSequenceNumber := wrong
        rw [notice.sound] at sound
        cases sound
      · exact induction (seqNext tx) frame later

/-- The answers to an accepted command are clean. -/
theorem clean_answers (peer : Peer) (frame : Frame) (reply : Reply) :
    Clean (SerialLink.Frame.encodeAll (peer.answerFrames frame reply)) := by
  rw [Peer.answerFrames, SerialLink.Frame.encodeAll_append]
  apply clean_append _ (clean_notices _ _)
  have ack : Legible (ackFrame frame.rtype frame.seq.toNat .noError) :=
    ⟨frame.rtype_known, rfl, Nat.zero_le _⟩
  have response : Legible (Peer.responseFrame frame.rtype peer.tx
      reply.payload reply.bounded) :=
    ⟨frame.rtype_known, rfl, reply.bounded⟩
  refine ⟨_, rfl, ?_⟩
  intro answer member
  split at member
  all_goals
    simp only [List.mem_cons, List.not_mem_nil, or_false] at member
    rcases member with rfl | rfl
  · exact ⟨ack, ErrorType.noConfusion⟩
  · exact ⟨response, ErrorType.noConfusion⟩
  · exact ⟨response, ErrorType.noConfusion⟩
  · exact ⟨ack, ErrorType.noConfusion⟩

theorem acceptances_write (world : World) (bytes : List UInt8) :
    acceptances (world.write bytes).heard ≤ acceptances world.heard + 1 := by
  unfold write
  split
  · exact Nat.le_succ _
  · rw [Heard.acceptances_append]
    exact Nat.add_le_add_left (Heard.acceptances_one _) _

theorem acceptances_query (world : World) :
    acceptances (world.send (Frame.protocolInfoQuery world.txSeq)).heard =
      acceptances world.heard := by
  rw [send, Frame.protocolInfoQuery,
    @write_host world.drain .protocolInfo rfl world.txSeq [0] (by decide),
    Peer.handle_query rfl]
  exact Heard.acceptances_append _ _

theorem acceptances_readFrame (world : World) :
    acceptances world.readFrame.2.heard = acceptances world.heard :=
  congrArg acceptances (readFrame_same world).heard

/-- `sync` sends no command. -/
theorem acceptances_syncLoop (attempts : Nat) (world : World) :
    acceptances (syncLoop attempts world).2.heard =
      acceptances world.heard := by
  induction attempts generalizing world with
  | zero => rfl
  | succ attempts induction =>
      have asked := acceptances_query world
      have heard := acceptances_readFrame
        (world.send (Frame.protocolInfoQuery world.txSeq))
      rw [syncLoop]
      split
      · next read =>
          rw [read] at heard
          exact heard.trans asked
      · next read =>
          rw [read] at heard
          split
          · exact heard.trans asked
          · exact (induction _).trans (heard.trans asked)

theorem acceptances_sync (world : World) :
    acceptances world.sync.2.heard = acceptances world.heard :=
  acceptances_syncLoop 4 world

/-- The number and the payload a receiver reads of a host frame. -/
theorem parse_encodeHostFrame_same {rtype : SerialType} {seq : UInt8}
    {payload : List UInt8} {frame : Frame}
    (parsed : Frame.parse (Frame.encodeHostFrame rtype seq payload) =
      some frame) :
    frame.seq.toNat = seq.toNat % 16 ∧ frame.payload = payload := by
  have shifted := congrArg UInt8.toNat (low_shifted seq)
  rw [UInt8.toNat_ofNat'] at shifted
  unfold Frame.encodeHostFrame at parsed
  dsimp only [List.cons_append, List.nil_append] at parsed
  rw [Frame.parse_eq] at parsed
  dsimp only at parsed
  split at parsed
  · split at parsed
    · cases parsed
      refine ⟨?_, rfl⟩
      dsimp only [Frame.ofHeader, SerialHeader.decode, Fin.ofNat]
      rw [UInt8.toNat_ofNat', shifted]
      omega
    · cases parsed
  · cases parsed

end World

/-- Before the command is sent again, it has not been accepted, or nothing on
its way rejects it. -/
structure Waiting.Once (waiting : Waiting) : Prop where
  bounded : Heard.acceptances waiting.world.heard ≤ 1
  pending : waiting.retried = false →
    Heard.acceptances waiting.world.heard = 0 ∨
      World.Clean waiting.world.inbound

section Loop

variable {command : Command} {waiting later : Waiting}

theorem Waiting.Once.next (once : waiting.Once)
    (goesOn : Waiting.step command waiting = .next later) : later.Once := by
  have read := World.acceptances_readFrame waiting.world
  rcases Waiting.step_cases command waiting with
    ⟨_, _, -, stopped⟩ | ⟨frame, world, taken, skipped⟩ |
      ⟨frame, world, info, synced, taken, wrong, first, learned, again⟩
  · rw [stopped] at goesOn
    cases goesOn
  · rw [skipped] at goesOn
    cases goesOn
    rw [taken] at read
    refine ⟨read ▸ once.bounded, ?_⟩
    intro first
    rcases once.pending first with none | clean
    · exact .inl (read.trans none)
    · exact .inr (clean.readFrame taken).2
  · rw [again] at goesOn
    cases goesOn
    refine ⟨?_, nofun⟩
    rcases once.pending first with none | clean
    · have silent := World.acceptances_sync world
      have sent := World.acceptances_write
        (World.drain { synced with txSeq := (info.nextSeq + 1) &&& 0x0F })
        (Frame.encodeHostFrame command.rtype info.nextSeq command.payload)
      rw [learned] at silent
      rw [taken] at read
      have before : Heard.acceptances synced.heard = 0 :=
        silent.trans (read.trans none)
      exact Nat.le_trans sent (Nat.le_of_eq (congrArg (· + 1) before))
    · exact absurd wrong (clean.readFrame taken).1

theorem Waiting.Once.stop (once : waiting.Once)
    (stops : Waiting.step command waiting = .stop later) :
    Heard.acceptances later.world.heard ≤ 1 := by
  have read := World.acceptances_readFrame waiting.world
  rcases Waiting.step_cases command waiting with
    ⟨world, result, reached, stopped⟩ | ⟨_, _, -, skipped⟩ |
      ⟨_, _, _, _, -, -, -, -, again⟩
  · rw [stopped] at stops
    cases stops
    rcases reached with rfl | rfl
    · exact read ▸ once.bounded
    · exact (World.acceptances_sync _).trans read ▸ once.bounded
  · rw [skipped] at stops
    cases stops
  · rw [again] at stops
    cases stops

/-- The command is sent for the first time. -/
theorem World.once_begin {world : World} {exchange : Exchange}
    (allowed : world.NoLateRejection exchange) :
    ((world.prepare exchange).begin exchange.command).Once := by
  have sent := World.acceptances_write
    (World.drain { world.prepare exchange with
      txSeq := (world.txSeq + 1) &&& 0x0F })
    (Frame.encodeHostFrame exchange.command.rtype world.txSeq
      exchange.command.payload)
  refine ⟨sent, ?_⟩
  intro _
  dsimp only [World.begin, World.send, World.write, World.drain,
    World.prepare]
  split
  · exact .inl rfl
  · next frame parsed =>
      obtain ⟨number, payload⟩ := World.parse_encodeHostFrame_same parsed
      by_cases query : frame.rtype = .protocolInfo
      · rw [Peer.handle_query query]
        exact .inl rfl
      by_cases empty : frame.payload = []
      · rw [Peer.handle_empty query empty]
        exact .inl rfl
      by_cases expected : frame.seq.toNat = world.peer.rx
      · right
        rw [Peer.handle_accepted query empty expected]
        apply World.clean_append _ (World.clean_answers _ _ _)
        exact allowed (payload ▸ empty) (number ▸ expected)
      · rw [Peer.handle_mismatch query empty expected]
        exact .inl rfl

end Loop

/-- In every conversation whose commands fit and whose calls find no late
rejection, every call has its command accepted at most once; and every further
call returns. -/
theorem conversation_executes_once {world final : World} {calls : List Call}
    (conversation : Conversation
      (fun before exchange => exchange.Fits ∧
        before.NoLateRejection exchange) world calls final) :
    (∀ call ∈ calls, Heard.acceptances call.after.heard ≤ 1) ∧
      ∀ exchange : Exchange, ∃ result later,
        World.Requests exchange.command (final.prepare exchange) result
          later := by
  constructor
  · apply conversation.forall_calls (fun _ => True)
      (fun call => Heard.acceptances call.after.heard ≤ 1)
    · rintro call - allowed ⟨retried, fuel, returned⟩
      refine ⟨?_, trivial⟩
      exact Loop.iterate_ends Waiting.Once
        (fun final => Heard.acceptances final.world.heard ≤ 1)
        (fun _ _ once _ goesOn => once.next goesOn)
        (fun _ _ once _ stops => once.stop stops)
        (fun _ once _ => once.bounded) (World.once_begin allowed.2) returned
    · trivial
  · intro exchange
    exact World.requests_returns _ _

section Trace

/-- A request that gives up at once. -/
def hastyScan : Exchange :=
  { scanExchange false 0 with patience := some 0 }

/-- After a session at 15 has been rejected by a device that expects 3, and
has not waited for the rejection. -/
def World.afterHastyScan : World :=
  { World.start 0 0 with
    inbound := [0x60, 0x30, 0, 0]
    patience := some 0
    heard := [.mismatch] }

theorem World.requests_hastyScan :
    Requests hastyScan.command ((World.start 15 3).prepare hastyScan)
      (.error .timeout) World.afterHastyScan := by
  apply requests_of_request 1
  decide +kernel

/-- The rejection has arrived when the next request drains the port. -/
theorem scan_executed_once :
    ∃ calls final, calls.length = 2 ∧
      Conversation (fun before exchange => exchange.Fits ∧
        before.NoLateRejection exchange) (World.start 15 3) calls final ∧
      ∀ call ∈ calls, Heard.acceptances call.after.heard ≤ 1 := by
  obtain ⟨_, final, second⟩ := World.requests_returns
    (scanExchange false 4).command
    (World.afterHastyScan.prepare (scanExchange false 4))
  have short : (1 : Nat) ≤ 4096 := by decide
  have fits : hastyScan.Fits := short
  have fitsToo : (scanExchange false 4).Fits := short
  have early : (World.start 15 3).NoLateRejection hastyScan := by
    intro _ agree
    cases agree
  have quiet : World.afterHastyScan.NoLateRejection (scanExchange false 4) :=
    fun _ _ => ⟨[], rfl, fun _ member => absurd member List.not_mem_nil⟩
  have conversation : Conversation (fun before exchange =>
      exchange.Fits ∧ before.NoLateRejection exchange)
        (World.start 15 3) _ final :=
    .cons ⟨fits, early⟩ World.requests_hastyScan
      (.cons ⟨fitsToo, quiet⟩ second (.nil final))
  exact ⟨_, final, rfl, conversation,
    (conversation_executes_once conversation).1⟩

/-- A scan whose drain comes before the rejection of the last one, while the
answers to it arrive before the session asks for the number. -/
def overtakenScan : Exchange :=
  { scanExchange false 0 with arrivals := [0, 9] }

theorem scan_executed_twice :
    ∃ calls final, Conversation (fun _ _ => True) (World.start 15 3) calls
        final ∧
      ¬∀ call ∈ calls, Heard.acceptances call.after.heard ≤ 1 := by
  have executed : ((World.afterHastyScan.prepare overtakenScan).request 2
      overtakenScan.command).map (fun final => final.2.heard) =
        some [.accepted, .query, .accepted] := by
    decide +kernel
  obtain ⟨⟨result, later⟩, request, heard⟩ :=
    Option.map_eq_some_iff.mp executed
  refine ⟨_, later, .cons trivial World.requests_hastyScan
    (.cons trivial (World.requests_of_request 2 request) (.nil later)), ?_⟩
  intro once
  have bounded := once _ (List.mem_cons_of_mem _ List.mem_cons_self)
  dsimp only at bounded heard
  rw [heard] at bounded
  exact absurd bounded (by decide)

end Trace

end Protocol

end SerialLink
