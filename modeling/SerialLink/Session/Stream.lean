import SerialLink.Session.Session

/-!
# The reads of a session

`read_bytes` and `read_frame` as loops of calls of the port.  A `Port` answers
each of them with some of the bytes that are still to come, with none, or with
a timeout; how it cuts the bytes up is arbitrary.  A call of `read_frame` that
returns with its deadline ahead has read what `World.readFrame` reads, so that
successive calls read one frame after the other.
-/

namespace SerialLink

namespace Protocol

/-- What a call of the port's `read` comes to. -/
inductive PortRead where
  /-- `Ok`, with as many of `count` bytes as the buffer has room for -/
  | bytes (count : Nat)
  /-- `ErrorKind::TimedOut` -/
  | timedOut
  /-- Any other error. -/
  | failed
  deriving DecidableEq, Repr

/-- The errors of `SessionError` that `read_frame` returns. -/
inductive ReadError where
  | io
  | timeout
  deriving DecidableEq, Repr

/-- The port of a session, with the clock that its loops consult. -/
structure Port where
  /-- The bytes the port has not handed out. -/
  stream : List UInt8
  /-- How often the deadline has been tested. -/
  rounds : Nat
  /-- `Instant::now` at each of these tests -/
  now : Nat → Nat
  /-- The answer of the port to the read that follows the test. -/
  read : Nat → PortRead
  advances : ∀ bound, ∃ index, ∀ later, index ≤ later → bound < now later

/-- The state of the loop of `read_bytes`. -/
structure Filling where
  port : Port
  /-- The first `total` bytes of `buf`. -/
  buffer : List UInt8
  failed : Bool

namespace Filling

/-- `total < buf.len()` -/
def wanting (want : Nat) (filling : Filling) : Bool :=
  filling.buffer.length < want

/-- The body of the loop. -/
def body (deadline want : Nat) (filling : Filling) : Loop.Outcome Filling :=
  let port := filling.port
  let tested := { port with rounds := port.rounds + 1 }
  if port.now port.rounds ≥ deadline then
    .stop { filling with port := tested }
  else
    match port.read port.rounds with
    | .bytes count =>
        let n := min count (want - filling.buffer.length)
        .next
          { filling with
            port := { tested with stream := port.stream.drop n }
            buffer := filling.buffer ++ port.stream.take n }
    | .timedOut => .next { filling with port := tested }
    | .failed => .stop { filling with port := tested, failed := true }

end Filling

namespace Port

/-- `read_bytes`, for at most `fuel` tests of the loop's condition. -/
def readBytes (fuel deadline want : Nat) (port : Port) :
    Option (Except ReadError (List UInt8) × Port) := do
  let filled ← Loop.iterate (Filling.wanting want)
    (Filling.body deadline want) fuel { port, buffer := [], failed := false }
  pure (if filled.failed then .error .io else .ok filled.buffer, filled.port)

/-- A parsed frame, or the error of one that does not parse. -/
def parsed (bytes : List UInt8) : Except ReadError Frame :=
  match Frame.parse bytes with
  | some frame => .ok frame
  | none => .error .timeout

/-- `read_frame` once it has read the header. -/
def readPayload (fuel deadline : Nat) (port : Port) :
    List UInt8 → Option (Except ReadError Frame × Port)
  | [byte0, byte1, high, low] =>
      let length := high.toNat * 256 + low.toNat
      if length = 0 then some (parsed [byte0, byte1, high, low], port)
      else if length > maxPayloadLen then some (.error .timeout, port)
      else
        match port.readBytes fuel deadline length with
        | none => none
        | some (.error error, port) => some (.error error, port)
        | some (.ok payload, port) =>
            if payload.length ≠ length then some (.error .timeout, port)
            else some (parsed ([byte0, byte1, high, low] ++ payload), port)
  | _ => some (.error .timeout, port)

/-- `read_frame` -/
def readFrame (fuel deadline : Nat) (port : Port) :
    Option (Except ReadError Frame × Port) :=
  match port.readBytes fuel deadline 4 with
  | none => none
  | some (.error error, port) => some (.error error, port)
  | some (.ok header, port) => port.readPayload fuel deadline header

/-- A call of `read_frame` that has returned. -/
structure Reading where
  deadline : Nat
  /-- The rounds of the port before and after the call. -/
  start : Nat
  finish : Nat
  result : Except ReadError Frame

/-- Successive calls of `read_frame`, each with its own deadline. -/
def readFrames (fuel : Nat) : List Nat → Port → Option (List Reading × Port)
  | [], port => some ([], port)
  | deadline :: deadlines, port => do
      let (result, middle) ← port.readFrame fuel deadline
      let (readings, later) ← readFrames fuel deadlines middle
      pure ({ deadline, start := port.rounds, finish := middle.rounds, result }
        :: readings, later)

/-- The deadline is ahead at every test from `start` up to `finish`. -/
def Ahead (now : Nat → Nat) (deadline start finish : Nat) : Prop :=
  ∀ index, start ≤ index → index < finish → now index < deadline

/-- The call does not reach its deadline. -/
def Reading.InTime (now : Nat → Nat) (reading : Reading) : Prop :=
  Ahead now reading.deadline reading.start reading.finish

/-- No read fails but by a timeout. -/
def Working (port : Port) : Prop :=
  ∀ index, port.read index ≠ .failed

/-- The same line and clock, at a later time. -/
structure Continues (port later : Port) : Prop where
  now : later.now = port.now
  read : later.read = port.read
  rounds : port.rounds ≤ later.rounds

variable {port middle later : Port} {fuel more deadline want : Nat}

theorem Continues.refl (port : Port) : Continues port port :=
  ⟨rfl, rfl, Nat.le_refl _⟩

theorem Continues.trans (first : Continues port middle)
    (second : Continues middle later) : Continues port later where
  now := second.now.trans first.now
  read := second.read.trans first.read
  rounds := Nat.le_trans first.rounds second.rounds

theorem Continues.working (continues : Continues port later)
    (working : Working port) : Working later := by
  intro index
  rw [continues.read]
  exact working index

section ReadBytes

/-- What the loop of `read_bytes` keeps: the bytes of the buffer are the first
ones of the stream. -/
structure Filled (port : Port) (want : Nat) (filling : Filling) : Prop where
  continues : Continues port filling.port
  whole : filling.buffer ++ filling.port.stream = port.stream
  bounded : filling.buffer.length ≤ want
  sound : filling.failed = false

theorem Filled.next {filling next : Filling} (filled : Filled port want filling)
    (entered : Filling.wanting want filling = true)
    (outcome : Filling.body deadline want filling = .next next) :
    Filled port want next ∧ next.port.rounds = filling.port.rounds + 1 ∧
      filling.port.now filling.port.rounds < deadline := by
  have room : filling.buffer.length < want := of_decide_eq_true entered
  have further : ∀ stream, Continues port
      { filling.port with stream, rounds := filling.port.rounds + 1 } := by
    intro stream
    exact ⟨filled.continues.now, filled.continues.read,
      Nat.le_succ_of_le filled.continues.rounds⟩
  rw [Filling.body] at outcome
  dsimp only at outcome
  split at outcome
  · cases outcome
  · rename_i ahead
    refine ⟨?_, ?_, Nat.lt_of_not_le ahead⟩
    · split at outcome
      · cases outcome
        refine ⟨further _, ?_, ?_, filled.sound⟩
        · rw [List.append_assoc, List.take_append_drop]
          exact filled.whole
        · rw [List.length_append, List.length_take]
          omega
      · cases outcome
        exact ⟨further _, filled.whole, filled.bounded, filled.sound⟩
      · cases outcome
    · split at outcome <;> cases outcome <;> rfl

/-- The loop is left early only when its deadline has been reached. -/
theorem Filled.stop {filling final : Filling}
    (filled : Filled port want filling) (working : Working port)
    (outcome : Filling.body deadline want filling = .stop final) :
    Filled port want final ∧
      ¬Ahead port.now deadline port.rounds final.port.rounds := by
  rw [Filling.body] at outcome
  dsimp only at outcome
  split at outcome
  · rename_i reached
    cases outcome
    constructor
    · exact ⟨⟨filled.continues.now, filled.continues.read,
        Nat.le_succ_of_le filled.continues.rounds⟩, filled.whole,
        filled.bounded, filled.sound⟩
    · intro ahead
      have early := ahead filling.port.rounds filled.continues.rounds
        (Nat.lt_succ_self _)
      rw [filled.continues.now] at reached
      exact absurd reached (Nat.not_le.mpr early)
  · split at outcome
    · cases outcome
    · cases outcome
    · rename_i failure
      rw [filled.continues.read] at failure
      exact absurd failure (working _)

/-- `read_bytes` takes the bytes of its buffer from the stream and no others,
and fills the buffer unless it reaches its deadline. -/
theorem readBytes_spec (working : Working port)
    {result : Except ReadError (List UInt8)}
    (returned : port.readBytes fuel deadline want = some (result, later)) :
    Continues port later ∧ ∃ bytes, result = .ok bytes ∧
      bytes ++ later.stream = port.stream ∧
      (Ahead port.now deadline port.rounds later.rounds →
        bytes.length = want) := by
  simp only [readBytes, Option.bind_eq_bind, Option.pure_def,
    Option.bind_eq_some_iff, Option.some.injEq, Prod.mk.injEq] at returned
  obtain ⟨final, iterated, rfl, rfl⟩ := returned
  have begun : Filled port want { port, buffer := [], failed := false } :=
    ⟨.refl port, rfl, Nat.zero_le _, rfl⟩
  have ended : Filled port want final ∧
      (Ahead port.now deadline port.rounds final.port.rounds →
        final.buffer.length = want) := by
    refine Loop.iterate_ends (Filled port want) (fun final =>
      Filled port want final ∧
        (Ahead port.now deadline port.rounds final.port.rounds →
          final.buffer.length = want)) ?_ ?_ ?_ begun iterated
    · intro filling next filled entered outcome
      exact (filled.next entered outcome).1
    · intro filling last filled _ outcome
      obtain ⟨kept, reached⟩ := filled.stop working outcome
      exact ⟨kept, fun ahead => absurd ahead reached⟩
    · intro filling filled left
      refine ⟨filled, fun _ => ?_⟩
      have full : ¬filling.buffer.length < want := by
        simpa [Filling.wanting] using left
      exact Nat.le_antisymm filled.bounded (Nat.le_of_not_lt full)
  obtain ⟨filled, enough⟩ := ended
  refine ⟨filled.continues, final.buffer, ?_, filled.whole, enough⟩
  rw [filled.sound]
  rfl

theorem readBytes_mono (enough : fuel ≤ more)
    {returned : Except ReadError (List UInt8) × Port}
    (reads : port.readBytes fuel deadline want = some returned) :
    port.readBytes more deadline want = some returned := by
  simp only [readBytes, Option.bind_eq_bind, Option.pure_def,
    Option.bind_eq_some_iff] at reads ⊢
  obtain ⟨final, iterated, result⟩ := reads
  exact ⟨final, Loop.iterate_mono enough iterated, result⟩

/-- Every call of `read_bytes` returns, by its deadline at the latest. -/
theorem exists_readBytes (port : Port) (deadline want : Nat) :
    ∃ fuel returned, port.readBytes fuel deadline want = some returned := by
  obtain ⟨bound, late⟩ := port.advances deadline
  have lowered : ∀ filling next, Filled port want filling →
      Filling.wanting want filling = true →
      Filling.body deadline want filling = .next next →
      Filled port want next ∧
        bound - next.port.rounds < bound - filling.port.rounds := by
    intro filling next filled entered outcome
    obtain ⟨kept, tested, ahead⟩ := filled.next entered outcome
    refine ⟨kept, ?_⟩
    rw [filled.continues.now] at ahead
    have before : filling.port.rounds < bound := by
      rcases Nat.lt_or_ge filling.port.rounds bound with before | after
      · exact before
      · have passed := late filling.port.rounds after
        omega
    omega
  have begun : Filled port want { port, buffer := [], failed := false } :=
    ⟨.refl port, rfl, Nat.zero_le _, rfl⟩
  obtain ⟨final, fuel, iterated⟩ := Loop.returns_of_measure
    (fun filling : Filling => bound - filling.port.rounds) (Filled port want)
    lowered begun
  exact ⟨fuel, (if final.failed then .error .io else .ok final.buffer,
    final.port), by rw [readBytes, iterated]; rfl⟩

end ReadBytes

section ReadFrame

variable {result : Except ReadError Frame} {header : List UInt8}

theorem readPayload_continues (working : Working port)
    (returned : port.readPayload fuel deadline header = some (result, later)) :
    Continues port later := by
  unfold readPayload at returned
  split at returned
  · dsimp only at returned
    split at returned
    · cases returned
      exact .refl port
    · split at returned
      · cases returned
        exact .refl port
      · split at returned
        · cases returned
        · rename_i reads
          cases returned
          exact (readBytes_spec working reads).1
        · rename_i reads
          split at returned <;> cases returned <;>
            exact (readBytes_spec working reads).1
  · cases returned
    exact .refl port

/-- A call reads the header first. -/
theorem readFrame_split (working : Working port)
    (returned : port.readFrame fuel deadline = some (result, later)) :
    ∃ header middle,
      port.readBytes fuel deadline 4 = some (.ok header, middle) ∧
      middle.readPayload fuel deadline header = some (result, later) ∧
      Continues port middle ∧ Continues middle later := by
  rw [readFrame] at returned
  split at returned
  · cases returned
  · rename_i reads
    obtain ⟨-, _, impossible, -⟩ := readBytes_spec working reads
    cases impossible
  · rename_i header middle reads
    have first := (readBytes_spec working reads).1
    exact ⟨header, middle, reads, returned, first,
      readPayload_continues (first.working working) returned⟩

theorem toOption_parsed (bytes : List UInt8) :
    (parsed bytes).toOption = (World.parsed bytes).toOption := by
  rw [parsed, World.parsed]
  cases Frame.parse bytes <;> rfl

variable {world behind : World}

/-- The session gives up on a header that is cut short. -/
theorem world_readFrame_of_short
    (read : world.readBytes 4 = (header, behind))
    (short : ∀ byte0 byte1 high low, header ≠ [byte0, byte1, high, low]) :
    world.readFrame = (.error .timeout, behind) := by
  unfold World.readFrame
  rw [read]
  dsimp only
  split
  · exact absurd rfl (short _ _ _ _)
  · rfl

theorem readPayload_world (working : Working port)
    (returned : port.readPayload fuel deadline header = some (result, later))
    (ahead : Ahead port.now deadline port.rounds later.rounds)
    (read : world.readBytes 4 = (header, behind))
    (inbound : behind.inbound = port.stream)
    (unlimited : behind.patience = none) :
    result.toOption = world.readFrame.1.toOption ∧
      later.stream = world.readFrame.2.inbound := by
  unfold readPayload at returned
  split at returned
  · unfold World.readFrame
    simp only [read]
    dsimp only at returned ⊢
    split at returned
    · rename_i empty
      cases returned
      rw [if_pos empty]
      exact ⟨toOption_parsed _, inbound.symm⟩
    · rename_i nonempty
      rw [if_neg nonempty]
      split at returned
      · rename_i long
        cases returned
        rw [if_pos long]
        exact ⟨rfl, inbound.symm⟩
      · rename_i fits
        rw [if_neg fits]
        split at returned
        · cases returned
        · rename_i reads
          obtain ⟨-, _, impossible, -⟩ := readBytes_spec working reads
          cases impossible
        · rename_i payload last reads
          have same : last = later := by
            split at returned <;> cases returned <;> rfl
          subst same
          obtain ⟨-, bytes, ok, whole, full⟩ := readBytes_spec working reads
          cases ok
          have length := full ahead
          have limited : behind.limit payload.length = payload.length := by
            rw [World.limit, unlimited]
          have taken := World.readBytes_enough
            (inbound.trans whole.symm) limited
          rw [if_neg (not_not_intro length)] at returned
          cases returned
          rw [← length, taken]
          rw [if_neg (not_not_intro rfl)]
          exact ⟨toOption_parsed _, rfl⟩
  · rename_i short
    cases returned
    rw [world_readFrame_of_short read short]
    exact ⟨rfl, inbound.symm⟩

/-- A call that does not reach its deadline reads what the session reads when
all bytes arrive in time. -/
theorem readFrame_world (working : Working port)
    (returned : port.readFrame fuel deadline = some (result, later))
    (ahead : Ahead port.now deadline port.rounds later.rounds)
    (inbound : world.inbound = port.stream)
    (unlimited : world.patience = none) :
    result.toOption = world.readFrame.1.toOption ∧
      later.stream = world.readFrame.2.inbound := by
  obtain ⟨header, middle, reads, rest, first, second⟩ :=
    readFrame_split working returned
  obtain ⟨-, bytes, ok, whole, full⟩ := readBytes_spec working reads
  cases ok
  have length : header.length = 4 := by
    apply full
    intro index start finish
    exact ahead index start (Nat.lt_of_lt_of_le finish second.rounds)
  have remaining :
      Ahead middle.now deadline middle.rounds later.rounds := by
    intro index start finish
    rw [first.now]
    exact ahead index (Nat.le_trans first.rounds start) finish
  have limited : world.limit header.length = header.length := by
    rw [World.limit, unlimited]
  have taken := World.readBytes_enough (inbound.trans whole.symm) limited
  rw [length] at taken
  exact readPayload_world (first.working working) rest remaining taken rfl
    (by rw [unlimited]; rfl)

/-- Bytes that are all there are read at once. -/
theorem readBytes_unlimited (bytes rest : List UInt8)
    (inbound : world.inbound = bytes ++ rest)
    (unlimited : world.patience = none) :
    world.readBytes bytes.length =
      (bytes, { world with inbound := rest }) := by
  have limited : world.limit bytes.length = bytes.length := by
    rw [World.limit, unlimited]
  rw [World.readBytes_enough inbound limited, unlimited]
  rfl

/-- What the parser accepts is read as a whole. -/
theorem readFrame_accepted {data rest : List UInt8} {frame : Frame}
    (accepted : Frame.parse data = some frame)
    (inbound : world.inbound = data ++ rest)
    (unlimited : world.patience = none) :
    world.readFrame = (.ok frame, { world with inbound := rest }) := by
  match data with
  | byte0 :: byte1 :: high :: low :: payload =>
      have ⟨length, bounded⟩ : high.toNat * 256 + low.toNat = payload.length ∧
          payload.length ≤ maxPayloadLen := by
        rw [Frame.parse] at accepted
        split at accepted
        · cases accepted
        · omega
      have decoded : World.parsed (byte0 :: byte1 :: high :: low :: payload) =
          .ok frame := by
        rw [World.parsed, accepted]
      have header : world.readBytes 4 = ([byte0, byte1, high, low],
          { world with inbound := payload ++ rest }) :=
        readBytes_unlimited [byte0, byte1, high, low] (payload ++ rest)
          inbound unlimited
      have behind :
          World.readBytes { world with inbound := payload ++ rest }
              payload.length =
            (payload, { world with inbound := rest }) :=
        readBytes_unlimited payload rest rfl unlimited
      unfold World.readFrame
      simp only [header, length, behind]
      by_cases empty : payload.length = 0
      · obtain rfl := List.length_eq_zero_iff.mp empty
        rw [if_pos empty, decoded]
        rfl
      · rw [if_neg empty, if_neg (Nat.not_lt.mpr bounded),
          if_neg (not_not_intro rfl)]
        exact Prod.ext decoded rfl
  | [] | [_] | [_, _] | [_, _, _] => cases accepted

end ReadFrame

section ReadFrames

theorem readPayload_mono (enough : fuel ≤ more) {header : List UInt8}
    {returned : Except ReadError Frame × Port}
    (reads : port.readPayload fuel deadline header = some returned) :
    port.readPayload more deadline header = some returned := by
  unfold readPayload at reads ⊢
  split at reads
  · dsimp only at reads ⊢
    split at reads
    · rename_i empty
      rwa [if_pos empty]
    · rename_i nonempty
      rw [if_neg nonempty]
      split at reads
      · rename_i long
        rwa [if_pos long]
      · rename_i fits
        rw [if_neg fits]
        split at reads
        · cases reads
        · rename_i payload
          rw [readBytes_mono enough payload]
          exact reads
        · rename_i payload
          rw [readBytes_mono enough payload]
          exact reads
  · exact reads

theorem readFrame_mono (enough : fuel ≤ more)
    {returned : Except ReadError Frame × Port}
    (reads : port.readFrame fuel deadline = some returned) :
    port.readFrame more deadline = some returned := by
  unfold readFrame at reads ⊢
  split at reads
  · cases reads
  · rename_i header
    rw [readBytes_mono enough header]
    exact reads
  · rename_i header
    rw [readBytes_mono enough header]
    exact readPayload_mono enough reads

theorem readFrames_mono (enough : fuel ≤ more) {deadlines : List Nat}
    {returned : List Reading × Port}
    (reads : port.readFrames fuel deadlines = some returned) :
    port.readFrames more deadlines = some returned := by
  induction deadlines generalizing port returned with
  | nil => exact reads
  | cons deadline deadlines induction =>
      simp only [readFrames, Option.bind_eq_bind, Option.pure_def,
        Option.bind_eq_some_iff] at reads ⊢
      obtain ⟨first, firstReads, rest, restReads, result⟩ := reads
      exact ⟨first, readFrame_mono enough firstReads, rest,
        induction restReads, result⟩

theorem exists_readPayload (port : Port) (deadline : Nat)
    (header : List UInt8) :
    ∃ fuel returned,
      port.readPayload fuel deadline header = some returned := by
  unfold readPayload
  split
  · rename_i byte0 byte1 high low
    obtain ⟨fuel, ⟨payload, later⟩, reads⟩ := exists_readBytes port deadline
      (high.toNat * 256 + low.toNat)
    refine ⟨fuel, ?_⟩
    dsimp only
    rw [reads]
    split
    · exact ⟨_, rfl⟩
    · split
      · exact ⟨_, rfl⟩
      · cases payload with
        | error error => exact ⟨_, rfl⟩
        | ok payload =>
            dsimp only
            split <;> exact ⟨_, rfl⟩
  · exact ⟨0, _, rfl⟩

theorem exists_readFrame (port : Port) (deadline : Nat) :
    ∃ fuel returned, port.readFrame fuel deadline = some returned := by
  obtain ⟨fuel, ⟨header, middle⟩, reads⟩ := exists_readBytes port deadline 4
  cases header with
  | error error =>
      exact ⟨fuel, (.error error, middle), by rw [readFrame, reads]⟩
  | ok header =>
      obtain ⟨more, returned, rest⟩ :=
        exists_readPayload middle deadline header
      refine ⟨max fuel more, returned, ?_⟩
      rw [readFrame, readBytes_mono (Nat.le_max_left fuel more) reads]
      exact readPayload_mono (Nat.le_max_right fuel more) rest

/-- Every call returns, whatever its deadline. -/
theorem exists_readFrames (deadlines : List Nat) (port : Port) :
    ∃ fuel returned, port.readFrames fuel deadlines = some returned := by
  induction deadlines generalizing port with
  | nil => exact ⟨0, _, rfl⟩
  | cons deadline deadlines induction =>
      obtain ⟨fuel, ⟨result, middle⟩, first⟩ := exists_readFrame port deadline
      obtain ⟨more, ⟨readings, later⟩, rest⟩ := induction middle
      refine ⟨max fuel more,
        ({ deadline, start := port.rounds, finish := middle.rounds, result } ::
          readings, later), ?_⟩
      simp only [readFrames, Option.bind_eq_bind, Option.pure_def,
        readFrame_mono (Nat.le_max_left fuel more) first,
        readFrames_mono (Nat.le_max_right fuel more) rest, Option.bind_some]

/-- A world that only has the bytes of the stream to read. -/
def world (port : Port) : World where
  txSeq := 0
  peer := { rx := 0, tx := 0, supportedTypesMask := 0 }
  inbound := port.stream
  arrivals := []
  patience := none
  reply :=
    { payload := [0], nonempty := by decide, bounded := by decide
      ackFirst := false, notices := [] }
  heard := []

/-- One call on a stream that begins with what the parser accepts. -/
theorem readFrame_exact {data rest : List UInt8} {frame : Frame}
    (accepted : Frame.parse data = some frame)
    (stream : port.stream = data ++ rest) (working : Working port)
    {result : Except ReadError Frame}
    (returned : port.readFrame fuel deadline = some (result, later))
    (ahead : Ahead port.now deadline port.rounds later.rounds) :
    result = .ok frame ∧ later.stream = rest := by
  have read : port.world.readFrame =
      (.ok frame, { port.world with inbound := rest }) :=
    readFrame_accepted accepted stream rfl
  have inbound : port.world.inbound = port.stream := rfl
  obtain ⟨same, left⟩ := readFrame_world working returned ahead inbound rfl
  rw [read] at same left
  cases result with
  | ok one => exact ⟨congrArg Except.ok (Option.some.inj same), left⟩
  | error error => cases same

theorem readFrame_continues (working : Working port)
    {result : Except ReadError Frame}
    (returned : port.readFrame fuel deadline = some (result, later)) :
    Continues port later := by
  obtain ⟨header, middle, -, -, first, second⟩ :=
    readFrame_split working returned
  exact first.trans second

/-- Successive calls read the frames of the stream one after the other, and
leave what follows them. -/
theorem readFrames_exact {datas : List (List UInt8)} {frames : List Frame}
    (wellFormed : datas.map Frame.parse = frames.map some)
    {rest : List UInt8} (stream : port.stream = datas.flatten ++ rest)
    (working : Working port) {deadlines : List Nat}
    (few : deadlines.length ≤ frames.length) :
    (∃ fuel returned, port.readFrames fuel deadlines = some returned) ∧
      ∀ fuel readings later,
        port.readFrames fuel deadlines = some (readings, later) →
        (∀ reading ∈ readings, reading.InTime port.now) →
        readings.map Reading.result =
            (frames.take deadlines.length).map .ok ∧
          later.stream = (datas.drop deadlines.length).flatten ++ rest := by
  refine ⟨exists_readFrames deadlines port, ?_⟩
  intro fuel readings later returned inTime
  induction deadlines generalizing port datas frames readings with
  | nil =>
      cases returned
      exact ⟨rfl, stream⟩
  | cons deadline deadlines induction =>
      simp only [readFrames, Option.bind_eq_bind, Option.pure_def,
        Option.bind_eq_some_iff, Option.some.injEq, Prod.mk.injEq] at returned
      obtain ⟨⟨result, middle⟩, first, ⟨others, last⟩, onward, rfl, rfl⟩ :=
        returned
      match datas, frames, wellFormed, few with
      | [], [], _, few => exact absurd few (Nat.not_succ_le_zero _)
      | [], _ :: _, wellFormed, _ => cases wellFormed
      | _ :: _, [], wellFormed, _ => cases wellFormed
      | data :: datas, frame :: frames, wellFormed, few =>
          obtain ⟨accepted, wellFormed⟩ := List.cons.inj wellFormed
          rw [List.flatten_cons, List.append_assoc] at stream
          obtain ⟨rfl, left⟩ := readFrame_exact accepted stream working first
            (inTime _ List.mem_cons_self)
          have continues := readFrame_continues working first
          have behind := induction wellFormed left
            (continues.working working) (Nat.le_of_succ_le_succ few) others
            onward (by
              intro reading member
              rw [continues.now]
              exact inTime reading (List.mem_cons_of_mem _ member))
          refine ⟨?_, behind.2⟩
          exact congrArg (Except.ok frame :: ·) behind.1

/-- An acknowledgement, an event and the first byte of another frame, handed
out in pieces. -/
def choppy : Port where
  stream := [0x20, 0x10, 0, 0] ++ [0x23, 0x20, 0, 2, 0x04, 0x0E] ++ [0x20]
  rounds := 0
  now := id
  read := fun index =>
    if index % 3 = 0 then .bytes (index + 1)
    else if index % 3 = 1 then .timedOut
    else .bytes 0
  advances := fun bound => ⟨bound + 1, fun _ after => after⟩

def choppyAck : Frame where
  rtype := .wifiMgmt
  rtype_known := rfl
  noAck := false
  host := true
  error := .noError
  seq := 1
  payload := []

def choppyEvent : Frame where
  rtype := .hci
  rtype_known := rfl
  noAck := false
  host := true
  error := .noError
  seq := 2
  payload := [0x04, 0x0E]

theorem readFrames_choppy :
    ∃ readings later, choppy.readFrames 10 [10, 10] = some (readings, later) ∧
      (∀ reading ∈ readings, reading.InTime choppy.now) ∧
      readings.map Reading.result = [.ok choppyAck, .ok choppyEvent] ∧
      later.stream = [0x20] := by
  have working : Working choppy := by
    intro index failed
    simp only [choppy] at failed
    split at failed
    · cases failed
    · split at failed <;> cases failed
  have accepted : [[0x20, 0x10, 0, 0], [0x23, 0x20, 0, 2, 0x04, 0x0E]].map
      Frame.parse = [choppyAck, choppyEvent].map some := by
    decide
  have stream : choppy.stream =
      [[0x20, 0x10, 0, 0], [0x23, 0x20, 0, 2, 0x04, 0x0E]].flatten ++
        [0x20] := rfl
  have few : [10, 10].length ≤ [choppyAck, choppyEvent].length := by decide
  obtain ⟨-, exact⟩ := readFrames_exact accepted stream working few
  obtain ⟨readings, later, run, finish⟩ : ∃ readings later,
      choppy.readFrames 10 [10, 10] = some (readings, later) ∧
        readings.map (fun reading => (reading.deadline, reading.finish)) =
          [(10, 4), (10, 10)] := ⟨_, _, rfl, rfl⟩
  have inTime : ∀ reading ∈ readings, reading.InTime choppy.now := by
    intro reading member index _ before
    have listed := List.mem_map_of_mem
      (f := fun reading => (reading.deadline, reading.finish)) member
    rw [finish] at listed
    simp only [List.mem_cons, Prod.mk.injEq, List.not_mem_nil, or_false]
      at listed
    show index < reading.deadline
    omega
  obtain ⟨results, left⟩ := exact 10 readings later run inTime
  exact ⟨readings, later, run, inTime, results, left⟩

end ReadFrames

end Port

end Protocol

end SerialLink
