import SerialLink.Library.Run
import SerialLink.Wifi.Operations

/-!
# The life of a scan callback

`virt_wifi_scan` stores its callback before the request is sent, and
`handle_scan_done` calls whatever is stored.  A failed round trip clears the
callback; a rejection by the device does not, and neither does the end of the
scan.

The calls of `virt_wifi_scan` follow one another, and notifications are
handled between any two steps, also while a call waits for its response.
-/

namespace SerialLink

namespace Wifi

/-- What is seen of the scans, which are numbered: the calls of a scan's
callback, without an entry at the end, and the return of the scan. -/
inductive ScanEvent where
  | invoked (scan : Nat) (status : Int) (entry : Option ScanEntry)
  | returned (scan : Nat) (code : Int)
  deriving DecidableEq, Repr

/-- What `bus_request` returns: an error, or 0 and a response. -/
abbrev Transport := Except { rc : Int // rc ≠ 0 } (List UInt8)

def Transport.busRequest (transport : Transport) (_ : List UInt8) :
    Except Int (List UInt8) :=
  match transport with
  | .error rc => .error rc.val
  | .ok response => .ok response

/-- What has become of a request. -/
inductive Verdict where
  /-- `mgmt_roundtrip` failed -/
  | failed
  /-- the device did not report success -/
  | rejected
  | accepted
  deriving DecidableEq, Repr

def Transport.verdict (codec : MgmtCodec) (params : ScanParams)
    (transport : Transport) : Verdict :=
  match mgmtRoundtrip codec transport.busRequest params.request with
  | .error _ => .failed
  | .ok response =>
      if decodeStatus response = 0 then .accepted else .rejected

/-- `virt_wifi_scan` and `wifi_mgmt_notify` on the stored callback. -/
structure ScanCallback where
  /-- the scan whose callback `scan_cb` is, if it is set -/
  scanCb : Option Nat
  /-- the number of the last scan -/
  scan : Nat
  /-- its parameters, until it returns -/
  running : Option ScanParams
  /-- what has become of its request, once it has returned -/
  verdict : Option Verdict
  /-- the notifications of the end of a scan since it was called -/
  announced : Nat
  history : List ScanEvent

namespace ScanCallback

inductive Label where
  /-- `virt_wifi_scan` is called with a callback or with `NULL`. -/
  | scan (params : ScanParams) (cb : Bool)
  /-- `bus_request` returns, and `virt_wifi_scan` with it. -/
  | answer (transport : Transport)
  /-- `wifi_mgmt_notify` -/
  | notify (payload : List UInt8)

/-- The calls of a scan's callback among what the host raises. -/
def invocations (scan : Nat) (events : List HostEvent) : List ScanEvent :=
  events.filterMap fun
    | .scanResult status entry => some (.invoked scan status (some entry))
    | .scanDone status => some (.invoked scan status none)
    | _ => none

def called (codec : Codec) (scanCb : Option Nat) (payload : List UInt8) :
    List ScanEvent :=
  match scanCb with
  | none => []
  | some scan => invocations scan (wifiMgmtNotify codec true payload)

/-- The payload is a `ScanDoneEvent`. -/
def announcesScan (codec : Codec) (payload : List UInt8) : Bool :=
  match codec.decode payload with
  | some { event := .scanDone _ _, .. } => true
  | _ => false

def step (mgmtCodec : MgmtCodec) (codec : Codec) (state : ScanCallback) :
    Label → Option ScanCallback
  | .scan params cb =>
      if state.running = none then
        some
          { state with
            scanCb := if cb then some (state.scan + 1) else none
            scan := state.scan + 1
            running := some params
            verdict := none
            announced := 0 }
      else none
  | .answer transport =>
      match state.running with
      | none => none
      | some params =>
          let result := virtWifiScan mgmtCodec transport.busRequest params
          some
            { state with
              scanCb := if result.2 then state.scanCb else none
              running := none
              verdict := some (transport.verdict mgmtCodec params)
              history := state.history ++ [.returned state.scan result.1] }
  | .notify payload =>
      some
        { state with
          announced :=
            if announcesScan codec payload then state.announced + 1
            else state.announced
          history := state.history ++ called codec state.scanCb payload }

/-- `scan_cb` is 0 initially. -/
def start : ScanCallback where
  scanCb := none
  scan := 0
  running := none
  verdict := none
  announced := 0
  history := []

/-- No callback of a scan behind its failure. -/
def Silenced : ScanEvent → ScanEvent → Prop
  | .returned scan code, .invoked other _ _ => code ≠ 0 → other ≠ scan
  | _, _ => True

/-- No callback of a scan behind its end. -/
def Finished (scan : Nat) : ScanEvent → ScanEvent → Prop
  | .invoked first _ none, .invoked second _ _ =>
      first = scan → second ≠ scan
  | _, _ => True

/-- The callback of a scan that failed is not called any more, and that of
one that succeeded is not called behind the end of the scan. -/
structure Lawful (history : List ScanEvent) : Prop where
  silenced : history.Pairwise Silenced
  finished : ∀ scan, .returned scan 0 ∈ history →
    history.Pairwise (Finished scan)

/-- The condition on a step while a callback is stored: no end of a scan is
announced to a scan that was rejected, and no second one to a scan that is
accepted. -/
def Timely (mgmtCodec : MgmtCodec) (codec : Codec) (state : ScanCallback) :
    Label → Prop
  | .scan _ _ => True
  | .answer transport =>
      ∀ params, state.running = some params →
        transport.verdict mgmtCodec params = .accepted →
        state.scanCb ≠ none → state.announced ≤ 1
  | .notify payload =>
      announcesScan codec payload = true → state.scanCb ≠ none →
        state.verdict = none ∨
          state.verdict = some .accepted ∧ state.announced = 0

/-- The calls `handle_scan_done` makes for an announced scan. -/
def batch (scan : Nat) (status : Int) (results : List ScanResult) :
    List ScanEvent :=
  results.map (fun result => .invoked scan status (some result.toEntry)) ++
    [.invoked scan status none]

theorem invocations_scanDone (scan : Nat) (status : Int)
    (results : List ScanResult) :
    invocations scan (handleScanDone true status results) =
      batch scan status results := by
  induction results with
  | nil => rfl
  | cons result results induction =>
      exact congrArg (.invoked scan status (some result.toEntry) :: ·)
        induction

theorem called_eq_batch {codec : Codec} {payload : List UInt8}
    (announces : announcesScan codec payload = true) (scan : Nat) :
    ∃ status results,
      called codec (some scan) payload = batch scan status results := by
  unfold announcesScan at announces
  split at announces
  · rename_i ifaceIndex status results decoded
    refine ⟨status, results, ?_⟩
    rw [called, wifiMgmtNotify, decoded]
    exact invocations_scanDone scan status results
  · cases announces

theorem called_of_silent {codec : Codec} {payload : List UInt8}
    (silent : announcesScan codec payload = false) (scanCb : Option Nat) :
    called codec scanCb payload = [] := by
  cases scanCb with
  | none => rfl
  | some scan =>
      rw [called, wifiMgmtNotify]
      cases decoded : codec.decode payload with
      | none => rfl
      | some notification =>
          obtain ⟨ifaceIndex, event⟩ := notification
          cases event <;> simp_all [announcesScan, raiseEvent, invocations]

section Verdict

variable (codec : MgmtCodec) (params : ScanParams) (transport : Transport)

theorem mgmtRoundtrip_error_ne {rc : Int} {request : MgmtRequest}
    (failed : mgmtRoundtrip codec transport.busRequest request = .error rc) :
    rc ≠ 0 := by
  unfold mgmtRoundtrip at failed
  split at failed
  · cases failed
    decide
  · cases transport with
    | error code =>
        cases failed
        exact code.property
    | ok response =>
        dsimp only [Transport.busRequest] at failed
        split at failed
        · cases failed
          decide
        · cases failed

theorem virtWifiScan_eq_zero_iff :
    (virtWifiScan codec transport.busRequest params).1 = 0 ↔
      transport.verdict codec params = .accepted := by
  unfold virtWifiScan Transport.verdict
  cases outcome : mgmtRoundtrip codec transport.busRequest params.request with
  | error rc =>
      have failed := mgmtRoundtrip_error_ne codec transport outcome
      simp [failed]
  | ok response =>
      by_cases accepted : decodeStatus response = 0
      · simp [accepted]
      · simp [accepted]

end Verdict

section Histories

variable {history : List ScanEvent} {scan : Nat} {status : Int}
  {results : List ScanResult}

theorem mem_batch {event : ScanEvent}
    (member : event ∈ batch scan status results) :
    ∃ entry, event = .invoked scan status entry := by
  rcases List.mem_append.mp member with result | last
  · obtain ⟨found, -, rfl⟩ := List.mem_map.mp result
    exact ⟨_, rfl⟩
  · exact ⟨none, List.mem_singleton.mp last⟩

theorem returned_mem_before {other : Nat} {code : Int}
    (member : .returned other code ∈ history ++ batch scan status results) :
    .returned other code ∈ history := by
  rcases List.mem_append.mp member with before | last
  · exact before
  · obtain ⟨entry, impossible⟩ := mem_batch last
    cases impossible

theorem completion_mem_batch :
    .invoked scan status none ∈ batch scan status results :=
  List.mem_append_right _ List.mem_cons_self

theorem silenced_batch_iff :
    (history ++ batch scan status results).Pairwise Silenced ↔
      history.Pairwise Silenced ∧
        ∀ code, .returned scan code ∈ history → code = 0 := by
  have alone : (batch scan status results).Pairwise Silenced := by
    apply List.pairwise_of_forall_mem_list
    intro earlier first later _
    obtain ⟨entry, rfl⟩ := mem_batch first
    trivial
  rw [List.pairwise_append]
  constructor
  · rintro ⟨before, -, across⟩
    refine ⟨before, fun code returned => ?_⟩
    have silent : Silenced (.returned scan code) (.invoked scan status none) :=
      across _ returned _ completion_mem_batch
    by_cases zero : code = 0
    · exact zero
    · exact absurd rfl (silent zero)
  · rintro ⟨before, accepted⟩
    refine ⟨before, alone, ?_⟩
    intro earlier member later inBatch
    obtain ⟨entry, rfl⟩ := mem_batch inBatch
    cases earlier with
    | invoked other status entry => trivial
    | returned other code =>
        intro failed same
        subst same
        exact failed (accepted code member)

/-- Only the end of a scan forbids anything. -/
theorem finished_of_ne {earlier : ScanEvent}
    (other : ∀ status, earlier ≠ .invoked scan status none)
    (later : ScanEvent) : Finished scan earlier later := by
  match earlier, later with
  | .invoked first status none, .invoked second _ _ =>
      rintro rfl
      exact absurd rfl (other status)
  | .invoked _ _ (some _), _ => trivial
  | .invoked _ _ none, .returned _ _ => trivial
  | .returned _ _, _ => trivial

theorem finished_of_unended
    (unended : ∀ status, .invoked scan status none ∉ history) :
    history.Pairwise (Finished scan) := by
  apply List.pairwise_of_forall_mem_list
  intro earlier member later _
  apply finished_of_ne
  rintro status rfl
  exact unended status member

/-- Only the last call of a batch ends the scan. -/
theorem finished_batch (other : Nat) :
    (batch scan status results).Pairwise (Finished other) := by
  refine List.pairwise_append.mpr ⟨?_, List.pairwise_singleton _ _, ?_⟩
  · apply List.pairwise_of_forall_mem_list
    intro earlier first later _
    obtain ⟨result, -, rfl⟩ := List.mem_map.mp first
    trivial
  · intro earlier first later _
    obtain ⟨result, -, rfl⟩ := List.mem_map.mp first
    trivial

theorem finished_batch_iff :
    (history ++ batch scan status results).Pairwise (Finished scan) ↔
      history.Pairwise (Finished scan) ∧
        ∀ status, .invoked scan status none ∉ history := by
  rw [List.pairwise_append]
  constructor
  · rintro ⟨before, -, across⟩
    refine ⟨before, fun other ended => ?_⟩
    have further : Finished scan (.invoked scan other none)
        (.invoked scan status none) :=
      across _ ended _ completion_mem_batch
    exact further rfl rfl
  · rintro ⟨before, unended⟩
    refine ⟨before, finished_batch scan, ?_⟩
    intro earlier member later _
    apply finished_of_ne
    rintro other rfl
    exact unended other member

theorem finished_batch_other {other : Nat} (different : scan ≠ other) :
    (history ++ batch scan status results).Pairwise (Finished other) ↔
      history.Pairwise (Finished other) := by
  rw [List.pairwise_append]
  refine ⟨And.left, fun before => ⟨before, finished_batch other, ?_⟩⟩
  intro earlier _ later inBatch
  obtain ⟨entry, rfl⟩ := mem_batch inBatch
  match earlier with
  | .invoked first _ none => exact fun _ => different
  | .invoked _ _ (some _) => trivial
  | .returned _ _ => trivial

theorem pairwise_returned {relation : ScanEvent → ScanEvent → Prop}
    (code : Int)
    (free : ∀ earlier, relation earlier (.returned scan code)) :
    (history ++ [ScanEvent.returned scan code]).Pairwise relation ↔
      history.Pairwise relation := by
  rw [List.pairwise_append]
  refine ⟨And.left, fun before => ⟨before, List.pairwise_singleton _ _, ?_⟩⟩
  intro earlier _ later last
  rw [List.mem_singleton.mp last]
  exact free earlier

theorem silenced_returned (code : Int) (earlier : ScanEvent) :
    Silenced earlier (.returned scan code) := by
  cases earlier <;> trivial

theorem finished_returned (other : Nat) (code : Int) (earlier : ScanEvent) :
    Finished other earlier (.returned scan code) := by
  match earlier with
  | .invoked _ _ none => trivial
  | .invoked _ _ (some _) => trivial
  | .returned _ _ => trivial

end Histories

/-- The scan an event belongs to. -/
def number : ScanEvent → Nat
  | .invoked scan _ _ => scan
  | .returned scan _ => scan

/-- What the state tells about the last scan. -/
structure Tracked (state : ScanCallback) : Prop where
  bounded : ∀ event ∈ state.history, number event ≤ state.scan
  own : ∀ scan, state.scanCb = some scan → scan = state.scan
  waiting : state.running ≠ none → state.verdict = none
  returned : ∀ code, .returned state.scan code ∈ state.history →
    ∃ verdict, state.verdict = some verdict ∧
      (code = 0 ↔ verdict = .accepted)
  reported : ∀ verdict, state.verdict = some verdict →
    ∃ code, .returned state.scan code ∈ state.history ∧
      (code = 0 ↔ verdict = .accepted)
  unended : state.scanCb ≠ none →
    ((∀ status, .invoked state.scan status none ∉ state.history) ↔
      state.announced = 0)
  finished : state.running ≠ none →
    (state.history.Pairwise (Finished state.scan) ↔
      (state.scanCb ≠ none → state.announced ≤ 1))

theorem tracked_start : Tracked start where
  bounded := nofun
  own := nofun
  waiting := fun _ => rfl
  returned := nofun
  reported := nofun
  unended := fun set => absurd rfl set
  finished := fun running => absurd rfl running

section Steps

variable {mgmtCodec : MgmtCodec} {codec : Codec} {state later : ScanCallback}

theorem Tracked.scan (tracked : Tracked state) {params : ScanParams} {cb : Bool}
    (stepped : step mgmtCodec codec state (.scan params cb) = some later) :
    Tracked later ∧ later.history = state.history := by
  rw [step] at stepped
  split at stepped
  · cases stepped
    -- No event belongs to a scan that has just begun.
    have fresh : ∀ event ∈ state.history,
        number event ≠ state.scan + 1 := by
      intro event member same
      have bounded := tracked.bounded event member
      omega
    have unended : ∀ status,
        .invoked (state.scan + 1) status none ∉ state.history :=
      fun status member => fresh _ member rfl
    refine ⟨?_, rfl⟩
    constructor
    case bounded =>
      intro event member
      exact Nat.le_succ_of_le (tracked.bounded event member)
    case own =>
      intro scan set
      cases cb
      · cases set
      · exact (Option.some.inj set).symm
    case waiting => exact fun _ => rfl
    case returned => exact fun code member => absurd rfl (fresh _ member)
    case reported => exact nofun
    case unended => exact fun _ => ⟨fun _ => rfl, fun _ => unended⟩
    case finished =>
      exact fun _ => ⟨fun _ _ => Nat.zero_le 1,
        fun _ => finished_of_unended unended⟩
  · cases stepped

theorem Tracked.returns (tracked : Tracked state)
    (busy : state.running ≠ none) {code : Int} {verdict : Verdict}
    (same : code = 0 ↔ verdict = .accepted) (keeps : Bool) :
    Tracked
      { state with
        scanCb := if keeps then state.scanCb else none
        running := none
        verdict := some verdict
        history := state.history ++ [.returned state.scan code] } := by
  constructor
  case bounded =>
    intro event member
    rcases List.mem_append.mp member with before | last
    · exact tracked.bounded event before
    · rw [List.mem_singleton.mp last]
      exact Nat.le_refl _
  case own =>
    intro scan set
    cases keeps
    · cases set
    · exact tracked.own scan set
  case waiting => exact fun busy => absurd rfl busy
  case returned =>
    intro other member
    rcases List.mem_append.mp member with before | last
    · obtain ⟨earlier, known, -⟩ := tracked.returned other before
      cases (tracked.waiting busy).symm.trans known
    · cases List.mem_singleton.mp last
      exact ⟨verdict, rfl, same⟩
  case reported =>
    rintro _ ⟨⟩
    exact ⟨code, List.mem_append_right _ List.mem_cons_self, same⟩
  case unended =>
    intro set
    have stored : state.scanCb ≠ none := by
      cases keeps
      · exact absurd rfl set
      · exact set
    simpa using tracked.unended stored
  case finished => exact fun busy => absurd rfl busy

theorem Tracked.lawful_returned_iff (tracked : Tracked state)
    (busy : state.running ≠ none) (code : Int) :
    Lawful (state.history ++ [.returned state.scan code]) ↔
      Lawful state.history ∧
        (code = 0 → state.scanCb ≠ none → state.announced ≤ 1) := by
  have finishedIff (scan : Nat) :
      (state.history ++ [ScanEvent.returned state.scan code]).Pairwise
          (Finished scan) ↔ state.history.Pairwise (Finished scan) :=
    pairwise_returned code (finished_returned scan code)
  constructor
  · rintro ⟨silenced, finished⟩
    refine ⟨⟨(pairwise_returned code (silenced_returned code)).mp silenced,
      fun scan member => ?_⟩, ?_⟩
    · exact (finishedIff scan).mp
        (finished scan (List.mem_append_left _ member))
    · rintro rfl
      exact (tracked.finished busy).mp ((finishedIff state.scan).mp
        (finished state.scan (List.mem_append_right _ List.mem_cons_self)))
  · rintro ⟨⟨silenced, finished⟩, once⟩
    refine ⟨(pairwise_returned code (silenced_returned code)).mpr silenced,
      fun scan member => (finishedIff scan).mpr ?_⟩
    rcases List.mem_append.mp member with before | last
    · exact finished scan before
    · cases List.mem_singleton.mp last
      exact (tracked.finished busy).mpr (once rfl)

theorem Tracked.answer (tracked : Tracked state) {transport : Transport}
    (stepped : step mgmtCodec codec state (.answer transport) = some later) :
    Tracked later ∧
      (Lawful later.history ↔
        Lawful state.history ∧
          Timely mgmtCodec codec state (.answer transport)) := by
  rw [step] at stepped
  cases running : state.running with
  | none => simp [running] at stepped
  | some params =>
      simp only [running, Option.some.injEq] at stepped
      have busy : state.running ≠ none := by simp [running]
      have accepted := virtWifiScan_eq_zero_iff mgmtCodec params transport
      subst stepped
      refine ⟨tracked.returns busy accepted _, ?_⟩
      rw [tracked.lawful_returned_iff busy, accepted]
      apply and_congr_right
      intro _
      constructor
      · rintro once other known
        cases running.symm.trans known
        exact once
      · intro timely
        exact timely params running

/-- A notification makes no call. -/
theorem Tracked.unheard (tracked : Tracked state) {payload : List UInt8}
    (unheard : announcesScan codec payload = false ∨ state.scanCb = none)
    (stepped : step mgmtCodec codec state (.notify payload) = some later) :
    Tracked later ∧ later.history = state.history := by
  cases stepped
  have silent : called codec state.scanCb payload = [] := by
    rcases unheard with other | unset
    · exact called_of_silent other _
    · rw [unset]
      rfl
  rw [silent, List.append_nil]
  refine ⟨?_, rfl⟩
  rcases unheard with other | unset
  · rw [if_neg (by simp [other])]
    exact tracked
  · exact
      { tracked with
        unended := fun set => absurd unset set
        finished := fun busy => ⟨fun _ set => absurd unset set, fun _ =>
          (tracked.finished busy).mpr fun set => absurd unset set⟩ }

theorem Tracked.announces (tracked : Tracked state)
    (set : state.scanCb ≠ none) (status : Int) (results : List ScanResult) :
    Tracked
      { state with
        announced := state.announced + 1
        history := state.history ++ batch state.scan status results } := by
  constructor
  case bounded =>
    intro event member
    rcases List.mem_append.mp member with before | last
    · exact tracked.bounded event before
    · obtain ⟨entry, rfl⟩ := mem_batch last
      exact Nat.le_refl _
  case own => exact tracked.own
  case waiting => exact tracked.waiting
  case returned =>
    intro code member
    exact tracked.returned code (returned_mem_before member)
  case reported =>
    intro verdict known
    obtain ⟨code, member, same⟩ := tracked.reported verdict known
    exact ⟨code, List.mem_append_left _ member, same⟩
  case unended =>
    intro _
    constructor
    · intro none
      exact absurd (List.mem_append_right _ completion_mem_batch)
        (none status)
    · exact nofun
  case finished =>
    intro busy
    show (state.history ++ batch state.scan status results).Pairwise
      (Finished state.scan) ↔ _
    rw [finished_batch_iff, tracked.unended set, tracked.finished busy]
    constructor
    · rintro ⟨-, first⟩ -
      show state.announced + 1 ≤ 1
      omega
    · intro once
      have first : state.announced + 1 ≤ 1 := once set
      exact ⟨fun _ => by omega, by omega⟩

theorem Tracked.lawful_batch_iff (tracked : Tracked state)
    (set : state.scanCb ≠ none) (status : Int) (results : List ScanResult) :
    Lawful (state.history ++ batch state.scan status results) ↔
      Lawful state.history ∧
        (state.verdict = none ∨
          state.verdict = some .accepted ∧ state.announced = 0) := by
  have unended := tracked.unended set
  constructor
  · rintro ⟨silenced, finished⟩
    obtain ⟨before, zero⟩ := silenced_batch_iff.mp silenced
    refine ⟨⟨before, fun scan member => ?_⟩, ?_⟩
    · exact (List.pairwise_append.mp
        (finished scan (List.mem_append_left _ member))).1
    · cases known : state.verdict with
      | none => exact .inl rfl
      | some verdict =>
          obtain ⟨code, member, same⟩ := tracked.reported verdict known
          obtain rfl := zero code member
          obtain rfl := same.mp rfl
          refine .inr ⟨rfl, unended.mp ?_⟩
          exact (finished_batch_iff.mp
            (finished state.scan (List.mem_append_left _ member))).2
  · rintro ⟨⟨silenced, finished⟩, timely⟩
    -- A scan that has returned is the one that is accepted.
    have settled : ∀ code, .returned state.scan code ∈ state.history →
        code = 0 ∧ state.announced = 0 := by
      intro code member
      obtain ⟨verdict, known, same⟩ := tracked.returned code member
      rcases timely with waiting | ⟨accepted, first⟩
      · cases waiting.symm.trans known
      · cases accepted.symm.trans known
        exact ⟨same.mpr rfl, first⟩
    refine ⟨silenced_batch_iff.mpr
      ⟨silenced, fun code member => (settled code member).1⟩,
      fun scan member => ?_⟩
    have before := returned_mem_before member
    by_cases own : state.scan = scan
    · subst own
      exact finished_batch_iff.mpr
        ⟨finished _ before, unended.mpr (settled 0 before).2⟩
    · exact (finished_batch_other own).mpr (finished scan before)

theorem Tracked.announce (tracked : Tracked state) {payload : List UInt8}
    (announces : announcesScan codec payload = true)
    (set : state.scanCb ≠ none)
    (stepped : step mgmtCodec codec state (.notify payload) = some later) :
    Tracked later ∧
      (Lawful later.history ↔
        Lawful state.history ∧
          Timely mgmtCodec codec state (.notify payload)) := by
  cases stepped
  obtain ⟨scan, stored⟩ := Option.ne_none_iff_exists'.mp set
  obtain rfl := tracked.own scan stored
  obtain ⟨status, results, batched⟩ := called_eq_batch announces state.scan
  rw [← stored] at batched
  rw [batched, if_pos announces]
  refine ⟨tracked.announces set status results, ?_⟩
  rw [tracked.lawful_batch_iff set]
  exact and_congr_right fun _ =>
    ⟨fun timely _ _ => timely, fun timely => timely announces set⟩

theorem Tracked.step (tracked : Tracked state) {label : Label}
    (stepped : step mgmtCodec codec state label = some later) :
    Tracked later ∧
      (Lawful later.history ↔
        Lawful state.history ∧ Timely mgmtCodec codec state label) := by
  cases label with
  | scan params cb =>
      obtain ⟨next, same⟩ := tracked.scan stepped
      rw [same]
      exact ⟨next, ⟨fun lawful => ⟨lawful, trivial⟩, And.left⟩⟩
  | answer transport => exact tracked.answer stepped
  | notify payload =>
      by_cases heard : announcesScan codec payload = true ∧
          state.scanCb ≠ none
      · exact tracked.announce heard.1 heard.2 stepped
      · have unheard : announcesScan codec payload = false ∨
            state.scanCb = none := by
          rcases Classical.em (state.scanCb = none) with unset | set
          · exact .inr unset
          · exact .inl (Bool.eq_false_iff.mpr fun announces =>
              heard ⟨announces, set⟩)
        obtain ⟨next, same⟩ := tracked.unheard unheard stepped
        rw [same]
        exact ⟨next, ⟨fun lawful => ⟨lawful, fun announces set =>
          absurd ⟨announces, set⟩ heard⟩, And.left⟩⟩

end Steps

/-- A run keeps to the life of its callbacks just when its steps are
timely. -/
theorem lawful_iff (mgmtCodec : MgmtCodec) (codec : Codec)
    {labels : List Label} {final : ScanCallback}
    (executed : Run.exec (step mgmtCodec codec) start labels = some final) :
    Lawful final.history ↔
      Run.GuardedRun (step mgmtCodec codec) (Timely mgmtCodec codec) start
        labels final := by
  have initially : Lawful start.history := ⟨.nil, nofun⟩
  have kept := Run.exec_iff_guarded
    (fun _ _ _ tracked stepped => (Tracked.step tracked stepped).1)
    (fun _ _ _ tracked stepped => (Tracked.step tracked stepped).2)
    executed tracked_start
  rw [kept]
  exact ⟨And.right, fun run => ⟨initially, run⟩⟩

section Examples

instance (mgmtCodec : MgmtCodec) (codec : Codec) (state : ScanCallback) :
    (label : Label) → Decidable (Timely mgmtCodec codec state label)
  | .scan _ _ => .isTrue trivial
  | .answer transport =>
      inferInstanceAs (Decidable (∀ params ∈ state.running,
        transport.verdict mgmtCodec params = .accepted →
        state.scanCb ≠ none → state.announced ≤ 1))
  | .notify _ => inferInstanceAs (Decidable (_ → _ → _ ∨ _ ∧ _))

def passiveScan : ScanParams where
  scanType := .passive
  bands := 0
  dwellTimeActive := 0
  dwellTimePassive := 0
  maxBssCnt := 0

/-- The bytes of the request and of a response. -/
def statusCodec (status : StatusResponse) (received : List UInt8) :
    MgmtCodec :=
  .single passiveScan.request [0x08, 0x03, 0x22, 0x04, 0x08, 0x01, 0x12, 0x00]
    { requestId := .scan, payload := some (.statusResp status) } received

def scanDonePayload : List UInt8 := [0x0A, 0x04, 0x08, 0x01, 0x12, 0x00]

/-- The end of a scan without results. -/
def scanDoneCodec : Codec where
  encode notification :=
    if notification = ⟨1, .scanDone 0 []⟩ then some scanDonePayload else none
  decode bytes :=
    if bytes = scanDonePayload then some ⟨1, .scanDone 0 []⟩ else none

def acceptedBytes : List UInt8 := [0x08, 0x03, 0x12, 0x02, 0x08, 0x01]

def acceptingCodec : MgmtCodec :=
  statusCodec { success := true, errorCode := 0, errorMessage := "" }
    acceptedBytes

/-- A scan that is accepted and ends. -/
theorem accepted_scan_lawful :
    ∃ final, Run.exec (step acceptingCodec scanDoneCodec) start
        [.scan passiveScan true, .answer (.ok acceptedBytes),
          .notify scanDonePayload] = some final ∧
      final.history = [.returned 1 0, .invoked 1 0 none] ∧
      Lawful final.history := by
  have seen : (Run.execGuarded (step acceptingCodec scanDoneCodec)
      (Timely acceptingCodec scanDoneCodec) start
      [.scan passiveScan true, .answer (.ok acceptedBytes),
        .notify scanDonePayload]).map history =
      some [.returned 1 0, .invoked 1 0 none] := by
    decide
  obtain ⟨final, executed, history⟩ := Option.map_eq_some_iff.mp seen
  have run := Run.guardedRun_of_execGuarded executed
  exact ⟨final, run.exec_eq, history,
    (lawful_iff acceptingCodec scanDoneCodec run.exec_eq).mpr run⟩

/-- A status of `-EBUSY`. -/
def busyBytes : List UInt8 :=
  [0x08, 0x03, 0x12, 0x26, 0x10, 0xF0, 0xFF, 0xFF, 0xFF, 0xFF, 0xFF, 0xFF,
    0xFF, 0xFF, 0x01, 0x1A, 0x19] ++
      "Wi-Fi scan request failed".toUTF8.data.toList

def busyCodec : MgmtCodec :=
  statusCodec
    { success := false, errorCode := -16
      errorMessage := "Wi-Fi scan request failed" }
    busyBytes

/-- The device rejects a scan, and the end of an earlier one is announced
behind it. -/
theorem rejected_scan_called :
    ∃ final, Run.exec (step busyCodec scanDoneCodec) start
        [.scan passiveScan true, .answer (.ok busyBytes),
          .notify scanDonePayload] = some final ∧
      final.history = [.returned 1 (-16), .invoked 1 0 none] ∧
      ¬Lawful final.history := by
  have seen : (Run.exec (step busyCodec scanDoneCodec) start
      [.scan passiveScan true, .answer (.ok busyBytes),
        .notify scanDonePayload]).map history =
      some [.returned 1 (-16), .invoked 1 0 none] := by
    decide
  obtain ⟨final, executed, history⟩ := Option.map_eq_some_iff.mp seen
  refine ⟨final, executed, history, fun lawful => ?_⟩
  have silenced := lawful.silenced
  rw [history] at silenced
  have silent : Silenced (.returned 1 (-16)) (.invoked 1 0 none) :=
    (List.pairwise_cons.mp silenced).1 _ List.mem_cons_self
  exact silent (by decide) rfl

end Examples

end ScanCallback

end Wifi

end SerialLink
