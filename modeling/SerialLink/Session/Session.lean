import Mathlib.Control.Monad.Basic
import SerialLink.Library.Loop
import SerialLink.Session.Peer

/-!
# `Session`

The session of `protocol.rs` together with the device it talks to.  The host's
frames reach the device at once, since the device answers them in the order
they were sent, and a delay on the way there delays its answers only.  The
bytes the device has written are in `inbound` until the session has read or
drained them.  How many of them have arrived when the session drains the port,
and how many it reads before its deadline passes, is not up to the session:
`arrivals` and `patience` hold these choices for the calls to come.
-/

namespace SerialLink

namespace Protocol

/-- The errors of `SessionError` that the modelled functions return. -/
inductive SessionError where
  | timeout
  | deviceError (error : ErrorType)
  deriving DecidableEq, Repr

structure World where
  /-- `tx_seq` -/
  txSeq : UInt8
  peer : Peer
  /-- The bytes the device has written, on their way or in the port. -/
  inbound : List UInt8
  /-- How many bytes each of the coming drains finds in the port. -/
  arrivals : List Nat
  /-- How many bytes are read before the deadline passes, if it does. -/
  patience : Option Nat
  /-- What the client of the current command has to say. -/
  reply : Reply
  /-- What the device made of the frames of the current call. -/
  heard : List Heard
  deriving DecidableEq

namespace World

/-- `drain` -/
def drain (world : World) : World :=
  { world with
    inbound := world.inbound.drop (world.arrivals.headD 0)
    arrivals := world.arrivals.tail }

/-- `write_all`: the device receives the frame.  What it makes of one whose
payload is too long is not modelled. -/
def write (world : World) (bytes : List UInt8) : World :=
  match Frame.parse bytes with
  | none => world
  | some frame =>
      let (peer, frames, heard) := world.peer.handle frame world.reply
      { world with
        peer
        inbound := world.inbound ++ SerialLink.Frame.encodeAll frames
        heard := world.heard ++ [heard] }

/-- `send` -/
def send (world : World) (bytes : List UInt8) : World :=
  world.drain.write bytes

/-- The bytes read before the deadline passes. -/
def limit (world : World) (count : Nat) : Nat :=
  match world.patience with
  | none => count
  | some left => min count left

/-- `read_bytes`, which returns fewer bytes only when the deadline passes. -/
def readBytes (world : World) (count : Nat) : List UInt8 × World :=
  let bytes := world.inbound.take (world.limit count)
  (bytes,
    { world with
      inbound := world.inbound.drop (world.limit count)
      patience := if bytes.length < count then some 0
        else world.patience.map (· - count) })

/-- A parsed frame, or the error of one that does not parse. -/
def parsed (bytes : List UInt8) : Except SessionError Frame :=
  match Frame.parse bytes with
  | some frame => .ok frame
  | none => .error .timeout

/-- `read_frame` -/
def readFrame (world : World) : Except SessionError Frame × World :=
  let (header, world) := world.readBytes 4
  match header with
  | [_, _, high, low] =>
      let length := high.toNat * 256 + low.toNat
      if length = 0 then (parsed header, world)
      else if length > maxPayloadLen then (.error .timeout, world)
      else
        let (payload, world) := world.readBytes length
        if payload.length ≠ length then (.error .timeout, world)
        else (parsed (header ++ payload), world)
  | _ => (.error .timeout, world)

/-- The loop of `sync`. -/
def syncLoop : Nat → World → Except SessionError ProtocolInfo × World
  | 0, world => (.error .timeout, world)
  | attempts + 1, world =>
      match (world.send (Frame.protocolInfoQuery world.txSeq)).readFrame with
      | (.error error, world) => (.error error, world)
      | (.ok frame, world) =>
          match ProtocolInfo.tryFrom frame with
          | some info => (.ok info, { world with txSeq := info.nextSeq })
          | none => syncLoop attempts world

/-- `sync` -/
def sync (world : World) : Except SessionError ProtocolInfo × World :=
  syncLoop 4 world

end World

/-- The arguments of `request`, without the deadline. -/
structure Command where
  rtype : SerialType
  payload : List UInt8
  matching : Frame → Bool

/-- The loop of `request`. -/
structure Waiting where
  world : World
  retried : Bool
  result : Option (Except SessionError Frame)

namespace Waiting

def finish (waiting : Waiting) (world : World)
    (result : Except SessionError Frame) : Loop.Outcome Waiting :=
  .stop { waiting with world, result := some result }

/-- The command is sent again with the number learned. -/
def retry (command : Command) (info : ProtocolInfo) (world : World) :
    World :=
  ({ world with txSeq := (info.nextSeq + 1) &&& 0x0F }).send
    (Frame.encodeHostFrame command.rtype info.nextSeq command.payload)

/-- The body of the loop. -/
def step (command : Command) (waiting : Waiting) : Loop.Outcome Waiting :=
  match waiting.world.readFrame with
  | (.error error, world) => waiting.finish world (.error error)
  | (.ok frame, world) =>
      if frame.error ≠ .noError then
        if frame.error = .incorrectSequenceNumber ∧
            waiting.retried = false then
          match world.sync with
          | (.error error, world) => waiting.finish world (.error error)
          | (.ok info, world) =>
              .next { waiting with
                world := retry command info world
                retried := true }
        else waiting.finish world (.error (.deviceError frame.error))
      else if frame.payload = [] then .next { waiting with world }
      else if command.matching frame then waiting.finish world (.ok frame)
      else .next { waiting with world }

end Waiting

namespace World

/-- The first part of `request`. -/
def begin (world : World) (command : Command) : Waiting where
  world := ({ world with txSeq := (world.txSeq + 1) &&& 0x0F }).send
    (Frame.encodeHostFrame command.rtype world.txSeq command.payload)
  retried := false
  result := none

/-- `request` returns. -/
def Requests (command : Command) (world : World)
    (result : Except SessionError Frame) (later : World) : Prop :=
  ∃ retried, Loop.Returns (fun _ => true) (Waiting.step command)
    (world.begin command) { world := later, retried, result := some result }

/-- `request`, in at most `fuel` iterations of its loop. -/
def request (fuel : Nat) (command : Command) (world : World) :
    Option (Except SessionError Frame × World) := do
  let final ← Loop.iterate (fun _ => true) (Waiting.step command) fuel
    (world.begin command)
  let result ← final.result
  pure (result, final.world)

variable {world later : World} {frame : SerialLink.Frame}
  {frames : List SerialLink.Frame} {rest : List UInt8}

/-- What reading leaves alone. -/
structure SameSession (world later : World) : Prop where
  txSeq : later.txSeq = world.txSeq
  peer : later.peer = world.peer
  arrivals : later.arrivals = world.arrivals
  reply : later.reply = world.reply
  heard : later.heard = world.heard

theorem SameSession.trans {middle : World} (first : SameSession world middle)
    (second : SameSession middle later) : SameSession world later where
  txSeq := second.txSeq.trans first.txSeq
  peer := second.peer.trans first.peer
  arrivals := second.arrivals.trans first.arrivals
  reply := second.reply.trans first.reply
  heard := second.heard.trans first.heard

theorem readBytes_same (world : World) (count : Nat) :
    SameSession world (world.readBytes count).2 :=
  ⟨rfl, rfl, rfl, rfl, rfl⟩

theorem readFrame_same (world : World) :
    SameSession world world.readFrame.2 := by
  have header := readBytes_same world 4
  unfold readFrame
  dsimp only
  split
  · split
    · exact header
    · split
      · exact header
      · split <;> exact header.trans (readBytes_same _ _)
  · exact header

/-- A frame the parser accepts. -/
structure Legible (frame : SerialLink.Frame) : Prop where
  known : frame.header.type.known = true
  reserved : frame.header.reserved = 0
  bounded : frame.payload.length ≤ maxPayloadLen

/-- The frame as it is read. -/
def Legible.read (legible : Legible frame) : Frame :=
  .ofHeader frame.header legible.known frame.payload

theorem Legible.parsed (legible : Legible frame) :
    World.parsed frame.encode = .ok legible.read := by
  rw [World.parsed, Frame.parse_encode frame legible.known legible.reserved
    legible.bounded]
  rfl

theorem readBytes_enough {bytes : List UInt8}
    (inbound : world.inbound = bytes ++ rest)
    (enough : world.limit bytes.length = bytes.length) :
    world.readBytes bytes.length =
      (bytes,
        { world with
          inbound := rest
          patience := world.patience.map (· - bytes.length) }) := by
  simp [readBytes, enough, inbound]

theorem readBytes_short {count : Nat} (short : world.limit count < count) :
    (world.readBytes count).1.length < count := by
  simp only [readBytes, List.length_take]
  omega

theorem readFrame_of_short (short : (world.readBytes 4).1.length < 4) :
    world.readFrame.1 = .error .timeout := by
  unfold readFrame
  dsimp only
  split
  · next header => simp [header] at short
  · rfl

/-- The deadline does not pass within the next `count` bytes. -/
def Patient (world : World) (count : Nat) : Prop :=
  ∀ left, world.patience = some left → count ≤ left

theorem Patient.limit_eq {count fewer : Nat} (patient : Patient world count)
    (below : fewer ≤ count) : world.limit fewer = fewer := by
  unfold limit
  split
  · rfl
  · next left given =>
      have enough := patient left given
      omega

private theorem length_bytes (header : SerialHeader) :
    header.lengthHigh.toNat * 256 + header.lengthLow.toNat =
      header.length.val := by
  have high := header.lengthHigh.toNat_lt
  have low := header.lengthLow.toNat_lt
  have decoded := congrArg (fun one => one.length.val)
    (SerialHeader.decode_encode header)
  dsimp only [SerialHeader.decode, Fin.ofNat] at decoded
  omega

/-- `read_frame` once the header has been read. -/
theorem readFrame_of_header (bounded : frame.payload.length ≤ maxPayloadLen)
    {behind : World}
    (header : world.readBytes 4 = (frame.header.encode, behind)) :
    world.readFrame =
      if frame.payload = [] then (parsed frame.encode, behind)
      else if (behind.readBytes frame.payload.length).1.length ≠
          frame.payload.length then
        (.error .timeout, (behind.readBytes frame.payload.length).2)
      else
        (parsed (frame.header.encode ++
            (behind.readBytes frame.payload.length).1),
          (behind.readBytes frame.payload.length).2) := by
  have length : frame.header.lengthHigh.toNat * 256 +
      frame.header.lengthLow.toNat = frame.payload.length :=
    (length_bytes frame.header).trans frame.length_eq
  have short : ¬frame.payload.length > maxPayloadLen :=
    Nat.not_lt.mpr bounded
  unfold readFrame
  simp only [header, SerialHeader.encode, length, short, if_false,
    List.length_eq_zero_iff]
  split
  · next empty =>
      rw [SerialLink.Frame.encode, empty, List.append_nil]
      rfl
  · rfl

private theorem encode_split (frame : SerialLink.Frame) (rest : List UInt8) :
    frame.encode ++ rest = frame.header.encode ++ (frame.payload ++ rest) ∧
      frame.encode.length = 4 + frame.payload.length := by
  simp [SerialLink.Frame.encode]

/-- A frame that arrives before the deadline is read as a whole. -/
theorem readFrame_whole (bounded : frame.payload.length ≤ maxPayloadLen)
    (inbound : world.inbound = frame.encode ++ rest)
    (patient : Patient world frame.encode.length) :
    world.readFrame =
      (parsed frame.encode,
        { world with
          inbound := rest
          patience := world.patience.map (· - frame.encode.length) }) := by
  obtain ⟨split, total⟩ := encode_split frame rest
  rw [split] at inbound
  have header := readBytes_enough inbound
    (patient.limit_eq (by rw [SerialHeader.length_encode]; omega))
  rw [SerialHeader.length_encode] at header
  rw [readFrame_of_header bounded header]
  split
  · next empty =>
      rw [total, empty]
      rfl
  · have left : Patient
        { world with
          inbound := frame.payload ++ rest
          patience := world.patience.map (· - 4) } frame.payload.length := by
      intro remaining given
      obtain ⟨before, had, rfl⟩ := Option.map_eq_some_iff.mp given
      have enough := patient before had
      omega
    have payload := readBytes_enough rfl (left.limit_eq (Nat.le_refl _))
    rw [payload, if_neg (by simp), total, Option.map_map]
    simp [Function.comp_def, Nat.sub_sub, SerialLink.Frame.encode]

/-- Without a deadline the next frame is read. -/
theorem readFrame_parsed (bounded : frame.payload.length ≤ maxPayloadLen)
    (inbound : world.inbound = frame.encode ++ rest)
    (unlimited : world.patience = none) :
    world.readFrame =
      (parsed frame.encode, { world with inbound := rest }) := by
  have patient : Patient world frame.encode.length := by
    intro left given
    rw [unlimited] at given
    cases given
  rw [readFrame_whole bounded inbound patient, unlimited, Option.map_none]

section Boundary

variable (legible : Legible frame)
  (inbound : world.inbound = frame.encode ++ rest)

include legible inbound

theorem readFrame_patient (patient : Patient world frame.encode.length) :
    world.readFrame =
      (.ok legible.read,
        { world with
          inbound := rest
          patience := world.patience.map (· - frame.encode.length) }) := by
  rw [readFrame_whole legible.bounded inbound patient, legible.parsed]

/-- A deadline that passes first is a timeout. -/
theorem readFrame_impatient
    (impatient : ¬Patient world frame.encode.length) :
    world.readFrame.1 = .error .timeout := by
  obtain ⟨split, total⟩ := encode_split frame rest
  rw [split] at inbound
  obtain ⟨left, given, few⟩ : ∃ left, world.patience = some left ∧
      left < frame.encode.length := by
    simpa [Patient] using impatient
  by_cases begun : 4 ≤ left
  · have patient : Patient world 4 := by
      intro other same
      rw [given] at same
      cases same
      exact begun
    have header := readBytes_enough inbound
      (patient.limit_eq (Nat.le_refl 4))
    rw [SerialHeader.length_encode] at header
    have short : (readBytes
        { world with
          inbound := frame.payload ++ rest
          patience := world.patience.map (· - 4) }
        frame.payload.length).1.length < frame.payload.length := by
      apply readBytes_short
      simp only [limit, given, Option.map_some]
      omega
    rw [readFrame_of_header legible.bounded header]
    split
    · next empty =>
        rw [empty] at total
        simp at total
        omega
    · rw [if_pos (Nat.ne_of_lt short)]
  · apply readFrame_of_short
    apply readBytes_short
    simp only [limit, given]
    omega

end Boundary

theorem readFrame_empty (empty : world.inbound = []) :
    world.readFrame.1 = .error .timeout := by
  apply readFrame_of_short
  simp [readBytes, empty]

/-- The device receives a host frame. -/
theorem write_host {rtype : SerialType} (known : rtype.known = true)
    (seq : UInt8) {payload : List UInt8}
    (bounded : payload.length ≤ maxPayloadLen) :
    world.write (Frame.encodeHostFrame rtype seq payload) =
      let handled := world.peer.handle
        (Frame.ofHost rtype known seq payload) world.reply
      { world with
        peer := handled.1
        inbound := world.inbound ++
          SerialLink.Frame.encodeAll handled.2.1
        heard := world.heard ++ [handled.2.2] } := by
  rw [write, Frame.parse_encodeHostFrame known seq bounded]

theorem requests_of_request {command : Command} (fuel : Nat)
    {result : Except SessionError Frame}
    (returned : world.request fuel command = some (result, later)) :
    Requests command world result later := by
  obtain ⟨⟨_, retried, _⟩, iterated, ended⟩ :=
    Option.bind_eq_some_iff.mp returned
  obtain ⟨_, rfl, same⟩ := Option.bind_eq_some_iff.mp ended
  cases same
  exact ⟨retried, fuel, iterated⟩

theorem Requests.unique {command : Command} {left right : World}
    {first second : Except SessionError Frame}
    (one : Requests command world first left)
    (other : Requests command world second right) :
    first = second ∧ left = right := by
  obtain ⟨_, firstReturns⟩ := one
  obtain ⟨_, secondReturns⟩ := other
  cases firstReturns.unique secondReturns
  exact ⟨rfl, rfl⟩

theorem readBytes_length (world : World) (count : Nat) :
    (world.readBytes count).1.length +
        (world.readBytes count).2.inbound.length = world.inbound.length := by
  simp only [readBytes, List.length_take, List.length_drop]
  omega

/-- A frame that is read has been taken from the port. -/
theorem readFrame_shrinks {read : Frame}
    (succeeded : world.readFrame = (.ok read, later)) :
    later.inbound.length < world.inbound.length := by
  have header := readBytes_length world 4
  have after := congrArg Prod.snd succeeded
  unfold readFrame at succeeded after
  dsimp only at succeeded after
  split at succeeded
  · next high low bytes =>
      simp only [bytes] at header after
      simp only [List.length_cons, List.length_nil] at header
      have payload := readBytes_length (world.readBytes 4).2
        (high.toNat * 256 + low.toNat)
      split at succeeded
      · next empty =>
          rw [if_pos empty] at after
          dsimp only at after
          subst after
          omega
      · next some =>
          rw [if_neg some] at after
          split at succeeded
          · cases succeeded
          · next short =>
              rw [if_neg short] at after
              split at succeeded
              · cases succeeded
              · next whole =>
                  rw [if_neg whole] at after
                  dsimp only at after
                  subst after
                  omega
  · cases succeeded

end World

namespace Waiting

variable {command : Command} {waiting : Waiting}

/-- Everything an iteration can do: return, skip a frame, or send the command
again, which it does once, after a rejection. -/
theorem step_cases (command : Command) (waiting : Waiting) :
    (∃ world result, (world = waiting.world.readFrame.2 ∨
        world = waiting.world.readFrame.2.sync.2) ∧
      step command waiting =
        .stop { waiting with world, result := some result }) ∨
    (∃ frame world, waiting.world.readFrame = (.ok frame, world) ∧
      step command waiting = .next { waiting with world }) ∨
    (∃ frame world info later,
      waiting.world.readFrame = (.ok frame, world) ∧
      frame.error = .incorrectSequenceNumber ∧ waiting.retried = false ∧
      world.sync = (.ok info, later) ∧
      step command waiting =
        .next { waiting with
          world := retry command info later
          retried := true }) := by
  rcases read : waiting.world.readFrame with ⟨error | frame, world⟩
  · left
    refine ⟨world, .error error, .inl rfl, ?_⟩
    simp only [step, read, finish]
  · by_cases failed : frame.error ≠ .noError
    · by_cases mismatch : frame.error = .incorrectSequenceNumber ∧
          waiting.retried = false
      · rcases synced : world.sync with ⟨error | info, later⟩
        · left
          refine ⟨later, .error error, .inr rfl, ?_⟩
          simp only [step, read, if_pos failed, if_pos mismatch, synced,
            finish]
        · right
          right
          refine ⟨frame, world, info, later, rfl, mismatch.1, mismatch.2,
            synced, ?_⟩
          simp only [step, read, if_pos failed, if_pos mismatch, synced]
      · left
        refine ⟨world, .error (.deviceError frame.error), .inl rfl, ?_⟩
        simp only [step, read, if_pos failed, if_neg mismatch, finish]
    · by_cases empty : frame.payload = []
      · right
        left
        refine ⟨frame, world, rfl, ?_⟩
        simp only [step, read, if_neg failed, if_pos empty]
      · by_cases wanted : command.matching frame = true
        · left
          refine ⟨world, .ok frame, .inl rfl, ?_⟩
          simp only [step, read, if_neg failed, if_neg empty, if_pos wanted,
            finish]
        · right
          left
          refine ⟨frame, world, rfl, ?_⟩
          simp only [step, read, if_neg failed, if_neg empty, if_neg wanted]

/-- The frames still to be read bound the iterations that follow, if the loop
also returns from where the command has been sent again. -/
theorem returns_of_resent
    (resent : waiting.retried = false → ∀ world, ∃ final,
      Loop.Returns (fun _ => true) (step command)
        { waiting with world, retried := true } final ∧
      final.result.isSome = true) :
    ∃ final, Loop.Returns (fun _ => true) (step command) waiting final ∧
      final.result.isSome = true := by
  induction bound : waiting.world.inbound.length using Nat.strongRecOn
    generalizing waiting with
  | ind bound induction =>
      rcases step_cases command waiting with
        ⟨world, result, -, stopped⟩ | ⟨frame, world, read, skipped⟩ |
          ⟨_, _, _, _, -, -, first, -, again⟩
      · exact ⟨_, Loop.returns_of_stop rfl stopped, rfl⟩
      · have fewer := World.readFrame_shrinks read
        rw [bound] at fewer
        obtain ⟨final, returns, ended⟩ := @induction _ fewer
          { waiting with world } resent rfl
        exact ⟨final, Loop.returns_of_next rfl skipped returns, ended⟩
      · obtain ⟨final, returns, ended⟩ := resent first _
        exact ⟨final, Loop.returns_of_next rfl again returns, ended⟩

theorem returns (command : Command) (waiting : Waiting) :
    ∃ final, Loop.Returns (fun _ => true) (step command) waiting final ∧
      final.result.isSome = true := by
  apply returns_of_resent
  intro _ world
  apply returns_of_resent
  intro again
  cases again

end Waiting

/-- `request` always returns. -/
theorem World.requests_returns (command : Command) (world : World) :
    ∃ result later, Requests command world result later := by
  obtain ⟨final, returns, ended⟩ :=
    Waiting.returns command (world.begin command)
  obtain ⟨result, same⟩ := Option.isSome_iff_exists.mp ended
  refine ⟨result, final.world, final.retried, ?_⟩
  rw [← same]
  exact returns

/-- A call of `request` and the choices of the device and the line that
concern it. -/
structure Exchange where
  command : Command
  reply : Reply
  arrivals : List Nat
  patience : Option Nat

/-- The world in which the call is made. -/
def World.prepare (world : World) (exchange : Exchange) : World :=
  { world with
    arrivals := exchange.arrivals
    patience := exchange.patience
    reply := exchange.reply
    heard := [] }

/-- A call that has returned. -/
structure Call where
  before : World
  exchange : Exchange
  result : Except SessionError Frame
  after : World

/-- A run of calls, each of which meets `guard` when it is made. -/
inductive Conversation (guard : World → Exchange → Prop) :
    World → List Call → World → Prop where
  | nil (world : World) : Conversation guard world [] world
  | cons {world later final : World} {exchange : Exchange}
      {result : Except SessionError Frame} {calls : List Call} :
      guard world exchange →
      World.Requests exchange.command (world.prepare exchange) result later →
      Conversation guard later calls final →
      Conversation guard world
        ({ before := world, exchange, result, after := later } :: calls) final

/-- The rule for conversations: an invariant that every call keeps, together
with what it gives of the call. -/
theorem Conversation.forall_calls {guard : World → Exchange → Prop}
    (invariant : World → Prop) (property : Call → Prop)
    (one : ∀ call : Call, invariant call.before →
      guard call.before call.exchange →
      World.Requests call.exchange.command
        (call.before.prepare call.exchange) call.result call.after →
      property call ∧ invariant call.after)
    {world final : World} {calls : List Call}
    (conversation : Conversation guard world calls final)
    (holds : invariant world) : ∀ call ∈ calls, property call := by
  induction conversation with
  | nil =>
      intro call member
      exact absurd member List.not_mem_nil
  | cons allowed returned _ induction =>
      obtain ⟨first, kept⟩ := one ⟨_, _, _, _⟩ holds allowed returned
      intro call member
      rcases List.mem_cons.mp member with rfl | later
      · exact first
      · exact induction kept call later

end Protocol

end SerialLink
