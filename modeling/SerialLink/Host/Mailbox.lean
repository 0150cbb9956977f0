import SerialLink.Host.Thread

/-!
# The mailbox between `bus_rx_work` and the waiting thread

`last_hdr`, `rx_buf` and `rx_sem` hold one frame.  As long as no frame comes
while the thread is about to read another one, each valid data frame meets
exactly one fate, in the order of arrival.
-/

namespace SerialLink

/-- The thread has taken `rx_sem` and is about to read `last_hdr`. -/
def Thread.inspecting : Thread → Bool
  | .requestInspect _ _ _ => true
  | .syncInspect _ _ => true
  | _ => false

/-- The type and length of the frame that the thread is about to read from
`rx_buf`. -/
def Thread.reading : Thread → Option (SerialType × Nat)
  | .requestFrame _ _ _ last => some (last.type, last.length.val)
  | .syncAccept _ => some (.protocolInfo, 4)
  | .syncResponse _ => some (.protocolInfo, 4)
  | _ => none

/-- The thread reads neither `last_hdr` nor `rx_buf`. -/
def Thread.Plain (thread : Thread) : Prop :=
  thread.inspecting = false ∧ thread.reading = none

theorem Thread.reading_of_inspecting {thread : Thread}
    (inspecting : thread.inspecting = true) : thread.reading = none := by
  cases thread <;> first | rfl | cases inspecting

/-- A fate is what it says. -/
def Fate.Fits (fate : Fate) (handler : SerialType → Bool)
    (type : SerialType) : Prop :=
  match fate with
  | .returned call => call.type = type
  | .handled => handler type = true
  | .unhandled => handler type = false
  | .synced => True

namespace Bus

/-- The data frame `last_hdr` and `rx_buf` describe, if there is one. -/
def lastFrame (bus : Bus) : List (SerialType × List UInt8) :=
  if bus.lastHdr.length.val = 0 then []
  else [(bus.lastHdr.type, bus.rxPayload bus.lastHdr.length.val)]

/-- The frame on its way to the thread, if there is one. -/
def inMailbox (bus : Bus) : List (SerialType × List UInt8) :=
  match bus.thread.reading with
  | some (type, len) => [(type, bus.rxPayload len)]
  | none =>
      if bus.thread.inspecting = true ∨ bus.rxSem = true then bus.lastFrame
      else []

/-- A frame comes only while the thread is not about to read `last_hdr`, and
either to an empty mailbox or without a payload while `rx_buf` is read.  Part
of a payload comes to an empty mailbox. -/
def Undisturbed (bus : Bus) : Label → Prop
  | .receive frame =>
      bus.thread.inspecting = false ∧
        (bus.inMailbox = [] ∨
          bus.thread.reading ≠ none ∧ frame.header.length.val = 0)
  | .readPart _ _ => bus.inMailbox = []
  | _ => True

instance (bus : Bus) : (label : Label) → Decidable (Undisturbed bus label)
  | .receive _ => inferInstanceAs (Decidable (_ ∧ (_ ∨ _)))
  | .readPart _ _ => inferInstanceAs (Decidable (_ = _))
  | .advance | .expire | .busRequest _ | .busOpen =>
      inferInstanceAs (Decidable True)

/-- The results and the returned frames a list of fates stands for. -/
def returns (disposals : List (Fate × SerialType × List UInt8)) :
    List (Call × Result) :=
  disposals.filterMap fun (fate, _, payload) =>
    match fate with
    | .returned call =>
        some (call, .success (if call.resp then some payload else none))
    | _ => none

/-- The results of the calls that return 0. -/
def successes (results : List (Call × Result)) : List (Call × Result) :=
  results.filter fun (_, result) =>
    match result with
    | .success _ => true
    | .failure _ => false

/-- The result the thread is about to return. -/
def returning : Thread → List (Call × Result)
  | .requestReturn call result => successes [(call, result)]
  | _ => []

/-- Every valid data frame has met exactly one fate, or is the one frame on
its way to the thread. -/
structure Accounted (bus : Bus) : Prop where
  exactlyOnce : bus.received = bus.disposals.map Prod.snd ++ bus.inMailbox
  returned : returns bus.disposals =
    successes bus.results ++ returning bus.thread
  fits : ∀ fate type payload, (fate, type, payload) ∈ bus.disposals →
    fate.Fits bus.handler type

variable {bus later : Bus} {label : Label} {frame : Frame}

/-- What the thread finds in the mailbox while it holds the token. -/
structure Mail (bus : Bus) : Prop where
  exactlyOnce : bus.received = bus.disposals.map Prod.snd ++ bus.inMailbox
  inspected : bus.thread.inspecting = true → bus.rxSem = false
  read : bus.thread.reading ≠ none → bus.rxSem = true →
    bus.lastHdr.length.val = 0

/-- The mailbox of a thread that is not reading. -/
theorem inMailbox_of_plain (plain : bus.thread.Plain) :
    bus.inMailbox = if bus.rxSem then bus.lastFrame else [] := by
  simp [inMailbox, plain.1, plain.2]

theorem lastFrame_of_empty (empty : bus.lastHdr.length.val = 0) :
    bus.lastFrame = [] := if_pos empty

theorem mail_of_plain (plain : bus.thread.Plain)
    (exactlyOnce : bus.received = bus.disposals.map Prod.snd ++
      if bus.rxSem then bus.lastFrame else []) : Mail bus := by
  refine ⟨?_, ?_, ?_⟩
  · rw [inMailbox_of_plain plain]
    exact exactlyOnce
  · intro inspected
    rw [plain.1] at inspected
    cases inspected
  · intro reading
    exact absurd plain.2 reading

theorem mail_finishSync {outcome : Except Errno Unit} {caller : SyncCaller}
    (exactlyOnce : bus.received = bus.disposals.map Prod.snd ++
      if bus.rxSem then bus.lastFrame else []) :
    Mail (bus.finishSync outcome caller) := by
  cases caller with
  | busOpen => exact mail_of_plain ⟨rfl, rfl⟩ exactlyOnce
  | busRequest call attempt =>
      cases outcome with
      | ok _ => exact mail_of_plain ⟨rfl, rfl⟩ exactlyOnce
      | error _ => exact mail_of_plain ⟨rfl, rfl⟩ exactlyOnce

/-- The thread stands at a point at which it reads nothing. -/
theorem Mail.plain {thread : Thread} (mail : Mail bus)
    (position : bus.thread = thread) (plain : thread.Plain) :
    bus.received = bus.disposals.map Prod.snd ++
      if bus.rxSem then bus.lastFrame else [] := by
  rw [← inMailbox_of_plain (position ▸ plain)]
  exact mail.exactlyOnce

theorem inMailbox_of_inspecting (inspecting : bus.thread.inspecting = true) :
    bus.inMailbox = bus.lastFrame := by
  simp [inMailbox, inspecting, Thread.reading_of_inspecting inspecting]

theorem mail_of_inspecting (inspecting : bus.thread.inspecting = true)
    (taken : bus.rxSem = false)
    (exactlyOnce : bus.received =
      bus.disposals.map Prod.snd ++ bus.lastFrame) : Mail bus := by
  refine ⟨?_, fun _ => taken, ?_⟩
  · rw [inMailbox_of_inspecting inspecting]
    exact exactlyOnce
  · intro _ given
    rw [taken] at given
    cases given

theorem Mail.unread (mail : Mail bus)
    (inspecting : bus.thread.inspecting = true) :
    bus.received = bus.disposals.map Prod.snd ++ bus.lastFrame := by
  rw [← inMailbox_of_inspecting inspecting]
  exact mail.exactlyOnce

theorem inMailbox_of_reading {type : SerialType} {len : Nat}
    (reading : bus.thread.reading = some (type, len)) :
    bus.inMailbox = [(type, bus.rxPayload len)] := by
  simp only [inMailbox, reading]

theorem mail_of_reading {type : SerialType} {len : Nat}
    (reading : bus.thread.reading = some (type, len))
    (empty : bus.rxSem = true → bus.lastHdr.length.val = 0)
    (exactlyOnce : bus.received =
      bus.disposals.map Prod.snd ++ [(type, bus.rxPayload len)]) :
    Mail bus := by
  refine ⟨?_, ?_, fun _ => empty⟩
  · rw [inMailbox_of_reading reading]
    exact exactlyOnce
  · intro inspecting
    rw [Thread.reading_of_inspecting inspecting] at reading
    cases reading

/-- The frame that has been read is disposed of, and the mailbox is empty. -/
theorem Mail.disposed {type : SerialType} {len : Nat} (mail : Mail bus)
    (reading : bus.thread.reading = some (type, len)) (fate : Fate) :
    bus.received = (bus.disposals ++
        [(fate, type, bus.rxPayload len)]).map Prod.snd ++
      if bus.rxSem then bus.lastFrame else [] := by
  have rest : (if bus.rxSem then bus.lastFrame else []) = [] := by
    split
    · rename_i given
      apply lastFrame_of_empty
      exact mail.read (by rw [reading]; simp) given
    · rfl
  rw [rest, List.append_nil, List.map_append, List.map_singleton,
    ← inMailbox_of_reading reading]
  exact mail.exactlyOnce

/-- An acknowledgement leaves the mailbox empty. -/
theorem Mail.acknowledged (mail : Mail bus)
    (inspecting : bus.thread.inspecting = true)
    (empty : bus.lastHdr.length.val = 0) :
    bus.received = bus.disposals.map Prod.snd ++
      if bus.rxSem then bus.lastFrame else [] := by
  have unread := mail.unread inspecting
  rw [lastFrame_of_empty empty] at unread ⊢
  rw [unread, ite_self]

theorem discardFrame_disposals (bus : Bus) :
    bus.discardFrame.disposals.map Prod.snd =
      bus.disposals.map Prod.snd ++ bus.lastFrame := by
  unfold discardFrame lastFrame
  split
  · exact (List.append_nil _).symm
  · exact List.map_append

theorem mail_advances (mail : Mail bus) (advances : Advances bus later) :
    Mail later := by
  cases advances with
  | takeAnswer position given =>
      have plain := mail.plain position ⟨rfl, rfl⟩
      rw [if_pos given] at plain
      exact mail_of_inspecting rfl rfl plain
  | takeResponse position given =>
      have plain := mail.plain position ⟨rfl, rfl⟩
      rw [if_pos given] at plain
      exact mail_of_inspecting rfl rfl plain
  | inspectRejection position empty _ =>
      exact mail_of_plain ⟨rfl, rfl⟩
        (mail.acknowledged (position ▸ rfl) empty)
  | inspectAck position empty =>
      exact mail_of_plain ⟨rfl, rfl⟩
        (mail.acknowledged (position ▸ rfl) empty)
  | inspectData position nonempty =>
      have inspecting : bus.thread.inspecting = true := position ▸ rfl
      have unread := mail.unread inspecting
      rw [lastFrame, if_neg nonempty] at unread
      exact mail_of_reading rfl
        (fun given => absurd (mail.inspected inspecting)
          (Bool.not_eq_false _ ▸ given)) unread
  | copyResponse position same =>
      exact mail_of_plain ⟨rfl, rfl⟩ (mail.disposed (position ▸ rfl) _)
  | passOn position other =>
      exact mail_of_plain ⟨rfl, rfl⟩ (mail.disposed (position ▸ rfl) _)
  | endQueries position =>
      exact mail_finishSync
        (mail.plain position ⟨rfl, rfl⟩)
  | drainToken position given =>
      have plain := mail.plain position ⟨rfl, rfl⟩
      rw [if_pos given, ← discardFrame_disposals] at plain
      rw [discardFrame_eq]
      apply mail_of_plain
      · rw [takeToken, position]
        exact ⟨rfl, rfl⟩
      · exact plain.trans (List.append_nil _).symm
  | acceptResponse position fits =>
      have inspecting : bus.thread.inspecting = true := position ▸ rfl
      have unread := mail.unread inspecting
      simp only [answersQuery, decide_eq_true_eq] at fits
      obtain ⟨type, length⟩ := fits
      rw [lastFrame, if_neg (by omega), type, length] at unread
      exact mail_of_reading rfl
        (fun given => absurd (mail.inspected inspecting)
          (Bool.not_eq_false _ ▸ given)) unread
  | rejectResponse position =>
      have inspecting : bus.thread.inspecting = true := position ▸ rfl
      have unread := mail.unread inspecting
      rw [← discardFrame_disposals] at unread
      rw [discardFrame_eq]
      apply mail_of_plain ⟨rfl, rfl⟩
      rw [moveTo, mail.inspected inspecting]
      exact unread.trans (List.append_nil _).symm
  | clearAccepted position =>
      have reading : bus.thread.reading = some (.protocolInfo, 4) :=
        position ▸ rfl
      have kept := mail.exactlyOnce
      rw [inMailbox_of_reading reading] at kept
      exact mail_of_reading rfl (mail.read (by rw [reading]; simp)) kept
  | readResponse position =>
      have reading : bus.thread.reading = some (.protocolInfo, 4) :=
        position ▸ rfl
      have disposed := mail.disposed reading .synced
      rw [readResponse]
      split
      · exact mail_finishSync disposed
      · exact mail_finishSync disposed
  | _ position =>
      have plain := mail.plain position ⟨rfl, rfl⟩
      exact mail_of_plain ⟨rfl, rfl⟩ plain

theorem reading_of_empty_mailbox (empty : bus.inMailbox = []) :
    bus.thread.reading = none := by
  cases reading : bus.thread.reading with
  | none => rfl
  | some described =>
      obtain ⟨type, len⟩ := described
      rw [inMailbox_of_reading reading] at empty
      cases empty

theorem lastHdr_of_empty_mailbox (empty : bus.inMailbox = [])
    (unread : bus.thread.inspecting = true ∨ bus.rxSem = true) :
    bus.lastHdr.length.val = 0 := by
  rw [inMailbox, reading_of_empty_mailbox empty] at empty
  simp only [if_pos unread, lastFrame] at empty
  split at empty
  · assumption
  · cases empty

theorem lastFrame_receive (last : (bus.receive frame).lastHdr = frame.header) :
    (bus.receive frame).lastFrame = frameData frame := by
  have payload : (bus.receive frame).rxPayload frame.header.length.val =
      frame.payload := by
    rw [rxPayload, receive_rxBuf]
    exact rxPayload_holding bus frame
  rw [lastFrame, frameData, last, payload]

/-- A frame that comes to an empty mailbox. -/
theorem mail_receive_empty (mail : Mail bus)
    (inspecting : bus.thread.inspecting = false)
    (empty : bus.inMailbox = []) : Mail (bus.receive frame) := by
  have reading := reading_of_empty_mailbox empty
  have thread := (receive_sameThread bus frame).thread
  have settled : bus.received = bus.disposals.map Prod.snd := by
    rw [mail.exactlyOnce, empty, List.append_nil]
  apply mail_of_plain
  · rw [thread]
    exact ⟨inspecting, reading⟩
  -- What stays in `last_hdr` behind an unread token is an acknowledgement.
  have stays : (bus.receive frame).rxSem = bus.rxSem →
      (bus.receive frame).lastHdr = bus.lastHdr →
      (if (bus.receive frame).rxSem then (bus.receive frame).lastFrame
        else []) = [] := by
    intro sem last
    split
    · rename_i given
      apply lastFrame_of_empty
      rw [last]
      exact lastHdr_of_empty_mailbox empty (.inr (sem.symm.trans given))
    · rfl
  cases receives bus frame with
  | ignored _ sem last received disposals =>
      rw [stays sem last, List.append_nil, received, disposals]
      exact settled
  | woken _ _ sem last received disposals =>
      rw [if_pos sem, lastFrame_receive last, received, disposals, settled]
  | passedOn _ _ nonempty sem last received disposals =>
      have one : frameData frame = [(frame.header.type, frame.payload)] :=
        if_neg nonempty
      rw [stays sem last, List.append_nil, received, disposals, settled, one,
        List.map_append, List.map_singleton]

/-- A frame without a payload that comes while `rx_buf` is read. -/
theorem mail_receive_reading (mail : Mail bus)
    (reading : bus.thread.reading ≠ none)
    (empty : frame.header.length.val = 0) : Mail (bus.receive frame) := by
  obtain ⟨⟨type, len⟩, described⟩ := Option.ne_none_iff_exists'.mp reading
  have thread := (receive_sameThread bus frame).thread
  have noBytes : frame.payload = [] :=
    List.length_eq_zero_iff.mp (frame.length_eq.symm.trans empty)
  have buffer : (bus.receive frame).rxBuf = bus.rxBuf := by
    rw [receive_rxBuf, noBytes, Region.store_nil]
  have none : frameData frame = [] := if_pos empty
  have kept := mail.exactlyOnce
  rw [inMailbox_of_reading described] at kept
  have same : (bus.receive frame).rxPayload len = bus.rxPayload len := by
    rw [rxPayload, buffer, rxPayload]
  have still : (bus.receive frame).thread.reading = some (type, len) := by
    rw [thread]
    exact described
  cases receives bus frame with
  | ignored _ sem last received disposals =>
      refine mail_of_reading still ?_ ?_
      · rw [sem, last]
        exact mail.read reading
      · rw [received, disposals, same]
        exact kept
  | woken _ _ sem last received disposals =>
      refine mail_of_reading still ?_ ?_
      · rw [last]
        exact fun _ => empty
      · rw [received, disposals, same, none, List.append_nil]
        exact kept
  | passedOn _ _ nonempty => exact absurd empty nonempty

/-- Part of a payload that comes to an empty mailbox leaves it empty. -/
theorem mail_readPart (mail : Mail bus) (empty : bus.inMailbox = [])
    (count : Nat) : Mail (bus.readPart frame count) := by
  have reading := reading_of_empty_mailbox empty
  have still : (bus.readPart frame count).inMailbox = [] := by
    have same : (bus.readPart frame count).thread.reading = none := reading
    rw [inMailbox, same]
    dsimp only
    split
    · next unread =>
        have acknowledged := lastHdr_of_empty_mailbox empty unread
        exact lastFrame_of_empty acknowledged
    · rfl
  refine ⟨?_, mail.inspected, fun read => absurd reading read⟩
  rw [still, ← empty]
  exact mail.exactlyOnce

theorem mail_step (mail : Mail bus) (undisturbed : Undisturbed bus label)
    (stepped : bus.step label = some later) : Mail later := by
  cases steps_of_step stepped with
  | advance advances => exact mail_advances mail advances
  | receive frame =>
      obtain ⟨inspecting, empty | ⟨reading, short⟩⟩ := undisturbed
      · exact mail_receive_empty mail inspecting empty
      · exact mail_receive_reading mail reading short
  | readPart frame count => exact mail_readPart mail undisturbed count
  | _ position =>
      exact mail_of_plain ⟨rfl, rfl⟩ (mail.plain position ⟨rfl, rfl⟩)

/-- The records say what has happened. -/
structure Truthful (bus : Bus) : Prop where
  lastShort : bus.lastHdr.length.val ≤ busRxBufSize
  readShort : ∀ type len, bus.thread.reading = some (type, len) →
    len ≤ busRxBufSize
  returned : returns bus.disposals =
    successes bus.results ++ returning bus.thread
  fits : ∀ fate type payload, (fate, type, payload) ∈ bus.disposals →
    fate.Fits bus.handler type

theorem successes_append (first second : List (Call × Result)) :
    successes (first ++ second) = successes first ++ successes second :=
  List.filter_append ..

theorem returns_append (first second : List (Fate × SerialType × List UInt8)) :
    returns (first ++ second) = returns first ++ returns second :=
  List.filterMap_append ..

theorem successes_failure (results : List (Call × Result)) (call : Call)
    (errno : Errno) :
    successes (results ++ [(call, .failure errno)]) = successes results := by
  rw [successes_append]
  exact List.append_nil _

/-- A step that records nothing, to a point at which nothing is read. -/
theorem Truthful.silent {thread : Thread} (truthful : Truthful bus)
    (position : bus.thread = thread) (returned : returning thread = [])
    (last : later.lastHdr.length.val ≤ busRxBufSize)
    (disposals : later.disposals = bus.disposals)
    (handler : later.handler = bus.handler)
    (reading : later.thread.reading = none)
    (results : successes later.results ++ returning later.thread =
      successes bus.results) : Truthful later := by
  refine ⟨last, ?_, ?_, ?_⟩
  · intro type len read
    rw [reading] at read
    cases read
  · rw [disposals, results, truthful.returned, position, returned,
      List.append_nil]
  · rw [disposals, handler]
    exact truthful.fits

theorem fits_append {disposals : List (Fate × SerialType × List UInt8)}
    {handler : SerialType → Bool} {fate : Fate} {type : SerialType}
    {payload : List UInt8}
    (fits : ∀ fate type payload, (fate, type, payload) ∈ disposals →
      fate.Fits handler type) (new : fate.Fits handler type) :
    ∀ other type' payload',
      (other, type', payload') ∈ disposals ++ [(fate, type, payload)] →
        other.Fits handler type' := by
  intro other type' payload' member
  rcases List.mem_append.mp member with earlier | last
  · exact fits other type' payload' earlier
  · cases List.mem_singleton.mp last
    exact new

/-- A frame that is not returned is disposed of. -/
theorem Truthful.dispose {fate : Fate} {type : SerialType}
    {payload : List UInt8} (truthful : Truthful bus)
    (new : fate.Fits bus.handler type)
    (kept : returns [(fate, type, payload)] = []) :
    Truthful (bus.dispose fate type payload) := by
  refine ⟨truthful.lastShort, truthful.readShort, ?_,
    fits_append truthful.fits new⟩
  show returns (bus.disposals ++ _) = _
  rw [returns_append, kept, List.append_nil]
  exact truthful.returned

theorem Truthful.discardFrame (truthful : Truthful bus) :
    Truthful bus.discardFrame := by
  rw [Bus.discardFrame]
  split
  · exact truthful
  · exact truthful.dispose trivial rfl

theorem Truthful.callHandler (truthful : Truthful bus) (type : SerialType)
    (payload : List UInt8) : Truthful (bus.callHandler type payload) := by
  rw [Bus.callHandler]
  split
  · rename_i registered
    exact truthful.dispose registered rfl
  · rename_i missing
    exact truthful.dispose (Bool.eq_false_iff.mpr missing) rfl

theorem Truthful.finishSync {outcome : Except Errno Unit} {caller : SyncCaller}
    {thread : Thread} (truthful : Truthful bus)
    (position : bus.thread = thread) (returned : returning thread = []) :
    Truthful (bus.finishSync outcome caller) := by
  cases caller with
  | busOpen =>
      exact truthful.silent position returned truthful.lastShort rfl rfl rfl
        (List.append_nil _)
  | busRequest call attempt =>
      cases outcome with
      | ok _ =>
          exact truthful.silent position returned truthful.lastShort rfl rfl rfl
            (List.append_nil _)
      | error _ =>
          exact truthful.silent position returned truthful.lastShort rfl rfl rfl
            ((List.append_nil _).trans (successes_failure _ _ _))

theorem truthful_advances (truthful : Truthful bus)
    (advances : Advances bus later) : Truthful later := by
  cases advances with
  | inspectData position nonempty =>
      refine ⟨truthful.lastShort, ?_, ?_, truthful.fits⟩
      · rintro _ _ ⟨rfl, rfl⟩
        exact truthful.lastShort
      · have returned := truthful.returned
        rw [position] at returned
        exact returned
  | @copyResponse call _ _ last position same =>
      have short : last.length.val ≤ busRxBufSize :=
        truthful.readShort last.type last.length.val (by rw [position]; rfl)
      have returned := truthful.returned
      rw [position, show returning (.requestFrame call _ _ last) = [] from rfl,
        List.append_nil] at returned
      refine ⟨truthful.lastShort, nofun, ?_,
        fits_append truthful.fits same.symm⟩
      show returns (bus.disposals ++ [(.returned call, _, _)]) =
        successes bus.results ++ [(call, bus.copyResponse call last)]
      rw [returns_append, returned, Bus.copyResponse, Nat.min_eq_left short]
      rfl
  | passOn position other =>
      exact (truthful.callHandler _ _).silent position rfl truthful.lastShort
        rfl rfl rfl (List.append_nil _)
  | leaveRequest position =>
      refine ⟨truthful.lastShort, nofun, ?_, truthful.fits⟩
      have returned := truthful.returned
      rw [position] at returned
      show returns bus.disposals = successes (bus.results ++ [_]) ++ []
      rw [List.append_nil, successes_append]
      exact returned
  | endQueries position =>
      exact truthful.finishSync position rfl
  | drainToken position given =>
      have discarded := truthful.discardFrame
      exact ⟨discarded.lastShort, discarded.readShort, discarded.returned,
        discarded.fits⟩
  | acceptResponse position fits =>
      refine ⟨truthful.lastShort, ?_, ?_, truthful.fits⟩
      · rintro _ _ ⟨rfl, rfl⟩
        decide
      · have returned := truthful.returned
        rw [position] at returned
        exact returned
  | rejectResponse position =>
      have discarded := truthful.discardFrame
      exact discarded.silent ((discardFrame_thread bus).trans position) rfl
        discarded.lastShort rfl rfl rfl (List.append_nil _)
  | clearAccepted position =>
      refine ⟨truthful.lastShort, ?_, ?_, truthful.fits⟩
      · rintro _ _ ⟨rfl, rfl⟩
        decide
      · have returned := truthful.returned
        rw [position] at returned
        exact returned
  | readResponse position =>
      have disposed : Truthful
          (bus.dispose .synced .protocolInfo (bus.rxPayload 4)) :=
        truthful.dispose trivial rfl
      rw [readResponse]
      split
      · exact disposed.finishSync position rfl
      · have learnt : Truthful
            (bus.dispose .synced .protocolInfo (bus.rxPayload 4)).learn :=
          ⟨disposed.lastShort, disposed.readShort, disposed.returned,
            disposed.fits⟩
        exact learnt.finishSync position rfl
  | _ position =>
      exact truthful.silent position rfl truthful.lastShort rfl rfl rfl
        (List.append_nil _)

theorem truthful_receive (truthful : Truthful bus) (frame : Frame) :
    Truthful (bus.receive frame) := by
  have same := receive_sameThread bus frame
  have readShort : ∀ type len,
      (bus.receive frame).thread.reading = some (type, len) →
        len ≤ busRxBufSize := by
    rw [same.thread]
    exact truthful.readShort
  have returned := truthful.returned
  rw [← same.thread, ← same.results] at returned
  have fits := truthful.fits
  rw [← same.handler] at fits
  cases receives bus frame with
  | ignored _ _ last _ disposals =>
      rw [← disposals] at returned fits
      exact ⟨last ▸ truthful.lastShort, readShort, returned, fits⟩
  | woken valid _ _ last _ disposals =>
      rw [← disposals] at returned fits
      exact ⟨last ▸ length_of_valid valid, readShort, returned, fits⟩
  | passedOn _ _ _ _ last _ disposals =>
      have passed := truthful.callHandler frame.header.type frame.payload
      refine ⟨last ▸ truthful.lastShort, readShort, ?_, ?_⟩
      · rw [disposals, same.thread, same.results]
        exact passed.returned
      · rw [disposals, same.handler]
        exact passed.fits

theorem truthful_step (truthful : Truthful bus)
    (stepped : bus.step label = some later) : Truthful later := by
  cases steps_of_step stepped with
  | advance advances => exact truthful_advances truthful advances
  | receive frame => exact truthful_receive truthful frame
  | readPart frame count =>
      exact ⟨truthful.lastShort, truthful.readShort, truthful.returned,
        truthful.fits⟩
  | refuseRequest position =>
      exact truthful.silent position rfl truthful.lastShort rfl rfl rfl
        ((List.append_nil _).trans (successes_failure _ _ _))
  | _ position =>
      exact truthful.silent position rfl truthful.lastShort rfl rfl rfl
        (List.append_nil _)

theorem truthful_boot (handler : SerialType → Bool) :
    Truthful (boot handler) where
  lastShort := Nat.zero_le _
  readShort _ _ reading := nomatch reading
  returned := rfl
  fits _ _ _ member := absurd member List.not_mem_nil

/-- As long as no frame disturbs the reading of another one, every valid data
frame is, in the order of arrival and exactly once, the result of a
`bus_request`, passed to the handler of its type, without a handler, or taken
by `bus_sync`; or it is the one frame in the mailbox. -/
theorem accounted_of_undisturbed (handler : SerialType → Bool)
    (labels : List Label) (final : Bus)
    (run : Run.GuardedRun step Undisturbed (boot handler) labels final) :
    Accounted final := by
  have mailStart : Mail (boot handler) := mail_of_plain ⟨rfl, rfl⟩ rfl
  have mail := run.preserves
    (fun _ _ _ mail undisturbed stepped => mail_step mail undisturbed stepped)
    mailStart
  have truthful := run.preserves
    (fun _ _ _ truthful _ stepped => truthful_step truthful stepped)
    (truthful_boot handler)
  exact ⟨mail.exactlyOnce, truthful.returned, truthful.fits⟩

/-- Opening the bus. -/
def openLabels : List Label :=
  [.busOpen, .advance, .advance, .advance, .receive (information 3), .advance,
    .advance, .advance, .advance]

/-- An acknowledgement of a request. -/
def acknowledgement : Frame where
  header :=
    { type := .wifiMgmt, noAck := false, host := true, error := .noError
      reserved := 0, sequenceNumber := 3, length := 0 }
  payload := []
  length_eq := rfl

def mgmtFrame (byte : UInt8) : Frame where
  header :=
    { type := .wifiMgmt, noAck := false, host := true, error := .noError
      reserved := 0, sequenceNumber := 1, length := 1 }
  payload := [byte]
  length_eq := rfl

/-- A request whose acknowledgement and response both arrive before the thread
looks at them. -/
def requestLabels : List Label :=
  [.busRequest shortCall, .advance, .advance, .receive acknowledgement,
    .receive (mgmtFrame 9), .advance, .advance, .advance, .advance]

theorem accounted_of_undisturbed_request :
    ∃ final, Run.exec step (boot fun _ => true)
        (openLabels ++ requestLabels) = some final ∧
      Accounted final ∧
      final.results = [(shortCall, .success (some [9]))] := by
  have ran : (Run.execGuarded step Undisturbed (boot fun _ => true)
      (openLabels ++ requestLabels)).map (fun final => final.results) =
        some [(shortCall, .success (some [9]))] := by
    decide
  obtain ⟨final, executed, results⟩ := Option.map_eq_some_iff.mp ran
  have run := Run.guardedRun_of_execGuarded executed
  exact ⟨final, run.exec_eq, accounted_of_undisturbed _ _ final run, results⟩

/-- The fates that deliver a frame to a caller or a handler. -/
def delivered (disposals : List (Fate × SerialType × List UInt8)) :
    List (SerialType × List UInt8) :=
  disposals.filterMap fun (fate, frame) =>
    match fate with
    | .returned _ => some frame
    | .handled => some frame
    | _ => none

/-- Every valid data frame has been returned or passed to a handler exactly
once, or is in the mailbox. -/
def NoneLost (bus : Bus) : Prop :=
  bus.received.Perm (delivered bus.disposals ++ bus.inMailbox)

/-- The response to the query of `bus_open` is taken by `bus_sync`. -/
theorem openLabels_lose_response :
    ∃ final, Run.exec step (boot fun _ => true) openLabels = some final ∧
      final.received = [(.protocolInfo, [1, 0, 0, 3])] ∧
      final.disposals = [(.synced, .protocolInfo, [1, 0, 0, 3])] ∧
      ¬NoneLost final := by
  have ran : (Run.exec step (boot fun _ => true) openLabels).map
      (fun final => (final.received, final.disposals, final.inMailbox)) =
        some ([(.protocolInfo, [1, 0, 0, 3])],
          [(.synced, .protocolInfo, [1, 0, 0, 3])], []) := rfl
  obtain ⟨final, executed, outcome⟩ := Option.map_eq_some_iff.mp ran
  simp only [Prod.mk.injEq] at outcome
  obtain ⟨received, disposals, empty⟩ := outcome
  refine ⟨final, executed, received, disposals, ?_⟩
  intro kept
  have lengths := kept.length_eq
  rw [received, disposals, empty] at lengths
  exact absurd lengths (by decide)

end Bus

end SerialLink
