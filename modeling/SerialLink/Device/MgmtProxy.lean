import SerialLink.Library.Run
import SerialLink.Device.WholeFrame

/-!
# The hand-over between the serial layer and a management thread

`message_length` and the `DATA_COMPLETE_EVENT` bit carry a request from the
work queue to the thread of the Wi-Fi or of the network interface proxy.  Both
proxies have the same callbacks and the same thread, so that `client` stands
for either.

The steps of the serial layer for a whole frame and those of the thread may
come in any order.  `k_event_wait` with its reset argument clears the tracked
events before it waits.
-/

namespace SerialLink

/-- Where the serial layer stands with the frame it is delivering. -/
inductive Delivery where
  | none
  /-- `acquire_buffer` has designated the offset `base`. -/
  | acquired (payload : List UInt8) (base : Nat)
  | stored (payload : List UInt8)
  | committed (payload : List UInt8)
  deriving DecidableEq, Repr

/-- Where the thread stands in its loop. -/
inductive ThreadPhase where
  /-- About to call `k_event_wait`. -/
  | start
  /-- Inside `k_event_wait`, the events cleared. -/
  | waiting
  | woken
  | processed
  | responded
  deriving DecidableEq, Repr

/-- A management proxy.  `accepted` lists the payloads for which
`message_complete` was called, and `processed` the byte strings handed to
`process_wifi_mgmt_request` or `process_net_if_request`. -/
structure MgmtProxy where
  state : ClientState
  delivery : Delivery
  thread : ThreadPhase
  accepted : List (List UInt8)
  processed : List (List UInt8)

namespace MgmtProxy

inductive Label where
  | acquireBuffer (payload : List UInt8)
  | store
  | commitData
  | messageComplete
  | beginWait
  | wake
  | process
  | respond
  | resetLength
  deriving DecidableEq, Repr

/-- A refused frame is answered with an error and not accepted. -/
def acquire (build : Build) (client : Client) (proxy : MgmtProxy)
    (payload : List UInt8) : MgmtProxy :=
  match client.acquireBuffer build proxy.state payload.length with
  | .granted (some base) => { proxy with delivery := .acquired payload base }
  | _ => proxy

def step (build : Build) (client : Client) (proxy : MgmtProxy) :
    Label → Option MgmtProxy
  | .acquireBuffer payload =>
      if proxy.delivery = .none ∧ payload ≠ [] ∧
          payload.length ≤ serialMaxPayloadLen then
        some (proxy.acquire build client payload)
      else none
  | .store =>
      match proxy.delivery with
      | .acquired payload base =>
          some { proxy with
            state := { proxy.state with
              buffer := Region.store proxy.state.buffer base payload }
            delivery := .stored payload }
      | _ => none
  | .commitData =>
      match proxy.delivery with
      | .stored payload =>
          some { proxy with
            state := client.commitData proxy.state payload.length
            delivery := .committed payload }
      | _ => none
  | .messageComplete =>
      match proxy.delivery with
      | .committed payload =>
          some { proxy with
            state := client.messageComplete build proxy.state
            delivery := .none
            accepted := proxy.accepted ++ [payload] }
      | _ => none
  | .beginWait =>
      if proxy.thread = .start then
        some { proxy with
          state := { proxy.state with dataComplete := false }
          thread := .waiting }
      else none
  | .wake =>
      if proxy.thread = .waiting ∧ proxy.state.dataComplete = true then
        some { proxy with thread := .woken }
      else none
  | .process =>
      if proxy.thread = .woken then
        some { proxy with
          processed := proxy.processed ++
            [Region.slice proxy.state.buffer 0 proxy.state.accumulated]
          thread := .processed }
      else none
  | .respond =>
      if proxy.thread = .processed then
        some { proxy with thread := .responded }
      else none
  | .resetLength =>
      if proxy.thread = .responded then
        some { proxy with
          state := { proxy.state with accumulated := 0 }
          thread := .start }
      else none

/-- After boot, the thread not yet started. -/
def initial : MgmtProxy where
  state := { buffer := fun _ => 0, accumulated := 0, dataComplete := false }
  delivery := .none
  thread := .start
  accepted := []
  processed := []

/-- The thread is going to process `request`. -/
structure Pending (proxy : MgmtProxy) (request : List UInt8) : Prop where
  signalled : proxy.thread = .waiting ∧ proxy.state.dataComplete = true ∨
    proxy.thread = .woken
  contents : Region.slice proxy.state.buffer 0 proxy.state.accumulated =
    request

/-- Every accepted request has been processed once, as it was sent, except
that the last one may still be waiting for the thread. -/
def NoneLost (proxy : MgmtProxy) : Prop :=
  proxy.accepted = proxy.processed ∨
    ∃ request, proxy.accepted = proxy.processed ++ [request] ∧
      Pending proxy request

/-- `acquire_buffer` finds the counter at 0, and `message_complete` finds the
thread inside `k_event_wait`. -/
def Exclusive (proxy : MgmtProxy) : Label → Prop
  | .acquireBuffer _ => proxy.state.accumulated = 0
  | .messageComplete => proxy.thread = .waiting
  | _ => True

instance (proxy : MgmtProxy) : (label : Label) →
    Decidable (Exclusive proxy label)
  | .acquireBuffer _ => inferInstanceAs (Decidable (_ = _))
  | .messageComplete => inferInstanceAs (Decidable (_ = _))
  | .store | .commitData | .beginWait | .wake | .process | .respond
  | .resetLength => inferInstanceAs (Decidable True)

/-- The thread has nothing to do, and will not start before it is signalled. -/
def Unsignalled (proxy : MgmtProxy) : Prop :=
  proxy.thread = .start ∨
    proxy.thread = .waiting ∧ proxy.state.dataComplete = false

/-- The phases of a run in which the two sides exclude each other. -/
inductive Phase (build : Build) (client : Client) (proxy : MgmtProxy) :
    Prop where
  | idle (delivery : proxy.delivery = .none)
      (unsignalled : Unsignalled proxy)
      (empty : proxy.state.accumulated = 0)
      (settled : proxy.accepted = proxy.processed)
  | acquired (payload : List UInt8)
      (delivery : proxy.delivery = .acquired payload 0)
      (fits : payload.length ≤ client.capacity build)
      (nonempty : payload ≠ [])
      (unsignalled : Unsignalled proxy)
      (empty : proxy.state.accumulated = 0)
      (settled : proxy.accepted = proxy.processed)
  | stored (payload : List UInt8)
      (delivery : proxy.delivery = .stored payload)
      (fits : payload.length ≤ client.capacity build)
      (nonempty : payload ≠ [])
      (unsignalled : Unsignalled proxy)
      (empty : proxy.state.accumulated = 0)
      (contents : Region.slice proxy.state.buffer 0 payload.length = payload)
      (settled : proxy.accepted = proxy.processed)
  | committed (payload : List UInt8)
      (delivery : proxy.delivery = .committed payload)
      (nonempty : payload ≠ [])
      (unsignalled : Unsignalled proxy)
      (counted : proxy.state.accumulated = payload.length)
      (contents : Region.slice proxy.state.buffer 0 payload.length = payload)
      (settled : proxy.accepted = proxy.processed)
  | pending (request : List UInt8)
      (delivery : proxy.delivery = .none)
      (signalled : Pending proxy request)
      (occupied : proxy.state.accumulated ≠ 0)
      (outstanding : proxy.accepted = proxy.processed ++ [request])
  | finishing (delivery : proxy.delivery = .none)
      (thread : proxy.thread = .processed ∨ proxy.thread = .responded)
      (occupied : proxy.state.accumulated ≠ 0)
      (settled : proxy.accepted = proxy.processed)

variable {build : Build} {client : Client} {proxy later : MgmtProxy}
  {label : Label}

theorem Phase.noneLost (phase : Phase build client proxy) :
    NoneLost proxy := by
  cases phase with
  | pending request _ signalled _ outstanding =>
      exact Or.inr ⟨request, outstanding, signalled⟩
  | idle _ _ _ settled => exact Or.inl settled
  | acquired _ _ _ _ _ _ settled => exact Or.inl settled
  | stored _ _ _ _ _ _ _ settled => exact Or.inl settled
  | committed _ _ _ _ _ _ settled => exact Or.inl settled
  | finishing _ _ _ settled => exact Or.inl settled

/-- The steps of the thread, as opposed to those of the serial layer. -/
def Label.ofThread : Label → Bool
  | beginWait | wake | process | respond | resetLength => true
  | _ => false

/-- The thread begins to wait, the events cleared. -/
def waits (proxy : MgmtProxy) : MgmtProxy :=
  { proxy with
    state := { proxy.state with dataComplete := false }
    thread := .waiting }

theorem waits_unsignalled (proxy : MgmtProxy) : Unsignalled proxy.waits :=
  Or.inr ⟨rfl, rfl⟩

/-- While it is not signalled, the only thing the thread does is to wait. -/
theorem Unsignalled.step (unsignalled : Unsignalled proxy)
    (ofThread : label.ofThread = true)
    (stepped : step build client proxy label = some later) :
    later = proxy.waits := by
  rcases unsignalled with atStart | ⟨waiting, clear⟩
  · cases label with
    | beginWait =>
        simp only [MgmtProxy.step, atStart, if_true, Option.some.injEq]
          at stepped
        exact stepped.symm
    | wake | process | respond | resetLength =>
        simp [MgmtProxy.step, atStart] at stepped
    | acquireBuffer _ | store | commitData | messageComplete => cases ofThread
  · cases label with
    | wake => simp [MgmtProxy.step, clear] at stepped
    | beginWait | process | respond | resetLength =>
        simp [MgmtProxy.step, waiting] at stepped
    | acquireBuffer _ | store | commitData | messageComplete => cases ofThread

/-- A management client with an empty buffer grants what fits, at its start. -/
theorem acquire_cases (mgmt : client.isMgmt = true)
    (empty : proxy.state.accumulated = 0) {payload : List UInt8}
    (small : payload.length ≤ serialMaxPayloadLen) :
    proxy.acquire build client payload = proxy ∨
      proxy.acquire build client payload =
          { proxy with delivery := .acquired payload 0 } ∧
        payload.length ≤ client.capacity build := by
  have designates : client ≠ .wifiData := by
    rintro rfl
    exact absurd mgmt (by decide)
  have none : client.occupied proxy.state = 0 := by
    simp [Client.occupied, empty]
  unfold serialMaxPayloadLen at small
  by_cases fits : payload.length ≤ client.capacity build
  · right
    have granted : client.acquireBuffer build proxy.state payload.length =
        .granted (some 0) := by
      rw [Client.acquireBuffer_fits designates (by omega), none]
    simp [acquire, granted, fits]
  · left
    have refused : client.acquireBuffer build proxy.state payload.length =
        .refused :=
      Client.acquireBuffer_idle_refused empty (by omega) (by omega)
    simp [acquire, refused]

section Steps

variable (mgmt : client.isMgmt = true)

include mgmt

theorem step_idle (delivery : proxy.delivery = .none)
    (unsignalled : Unsignalled proxy)
    (empty : proxy.state.accumulated = 0)
    (settled : proxy.accepted = proxy.processed)
    (stepped : step build client proxy label = some later) :
    Phase build client later := by
  by_cases ofThread : label.ofThread = true
  · rw [unsignalled.step ofThread stepped]
    exact .idle delivery proxy.waits_unsignalled empty settled
  · cases label with
    | acquireBuffer payload =>
        simp only [step, delivery, true_and, Option.ite_none_right_eq_some,
          Option.some.injEq] at stepped
        obtain ⟨⟨nonempty, small⟩, rfl⟩ := stepped
        rcases acquire_cases mgmt empty small with same | ⟨granted, fits⟩
        · rw [same]
          exact .idle delivery unsignalled empty settled
        · rw [granted]
          exact .acquired payload rfl fits nonempty unsignalled empty settled
    | store | commitData | messageComplete => simp [step, delivery] at stepped
    | beginWait | wake | process | respond | resetLength =>
        exact absurd rfl ofThread

omit mgmt in
theorem step_acquired {payload : List UInt8}
    (delivery : proxy.delivery = .acquired payload 0)
    (fits : payload.length ≤ client.capacity build)
    (nonempty : payload ≠ []) (unsignalled : Unsignalled proxy)
    (empty : proxy.state.accumulated = 0)
    (settled : proxy.accepted = proxy.processed)
    (stepped : step build client proxy label = some later) :
    Phase build client later := by
  by_cases ofThread : label.ofThread = true
  · rw [unsignalled.step ofThread stepped]
    exact .acquired payload delivery fits nonempty proxy.waits_unsignalled
      empty settled
  · cases label with
    | store =>
        simp only [step, delivery, Option.some.injEq] at stepped
        subst stepped
        exact .stored payload rfl fits nonempty unsignalled empty
          (Region.slice_store_self _ 0 payload) settled
    | acquireBuffer _ | commitData | messageComplete =>
        simp [step, delivery] at stepped
    | beginWait | wake | process | respond | resetLength =>
        exact absurd rfl ofThread

theorem step_stored {payload : List UInt8}
    (delivery : proxy.delivery = .stored payload)
    (fits : payload.length ≤ client.capacity build)
    (nonempty : payload ≠ []) (unsignalled : Unsignalled proxy)
    (empty : proxy.state.accumulated = 0)
    (contents : Region.slice proxy.state.buffer 0 payload.length = payload)
    (settled : proxy.accepted = proxy.processed)
    (stepped : step build client proxy label = some later) :
    Phase build client later := by
  by_cases ofThread : label.ofThread = true
  · rw [unsignalled.step ofThread stepped]
    exact .stored payload delivery fits nonempty proxy.waits_unsignalled
      empty contents settled
  · cases label with
    | commitData =>
        simp only [step, delivery, Option.some.injEq] at stepped
        subst stepped
        have keeps : client.keepsLength = true := by
          cases client <;> first | rfl | cases mgmt
        have committed : client.commitData proxy.state payload.length =
            { proxy.state with
              accumulated := sizeAdd proxy.state.accumulated
                payload.length } := by
          simp [Client.commitData, keeps]
        have counted : (client.commitData proxy.state
            payload.length).accumulated = payload.length := by
          have bounded := client.capacity_lt build
          have noWrap : proxy.state.accumulated + payload.length <
              sizeModulus := by omega
          rw [committed, sizeAdd_eq noWrap, empty, Nat.zero_add]
        refine .committed payload rfl nonempty ?_ counted ?_ settled
        · rw [committed]; exact unsignalled
        · rw [committed]; exact contents
    | acquireBuffer _ | store | messageComplete =>
        simp [step, delivery] at stepped
    | beginWait | wake | process | respond | resetLength =>
        exact absurd rfl ofThread

theorem step_committed {payload : List UInt8}
    (delivery : proxy.delivery = .committed payload)
    (nonempty : payload ≠ []) (unsignalled : Unsignalled proxy)
    (counted : proxy.state.accumulated = payload.length)
    (contents : Region.slice proxy.state.buffer 0 payload.length = payload)
    (settled : proxy.accepted = proxy.processed)
    (exclusive : Exclusive proxy label)
    (stepped : step build client proxy label = some later) :
    Phase build client later := by
  by_cases ofThread : label.ofThread = true
  · rw [unsignalled.step ofThread stepped]
    exact .committed payload delivery nonempty proxy.waits_unsignalled counted
      contents settled
  · cases label with
    | messageComplete =>
        simp only [step, delivery, Option.some.injEq] at stepped
        subst stepped
        have told : client.messageComplete build proxy.state =
            { proxy.state with dataComplete := true } := by
          cases client <;> first | rfl | cases mgmt
        have occupied : proxy.state.accumulated ≠ 0 := by
          rw [counted]
          exact fun zero => nonempty (List.length_eq_zero_iff.mp zero)
        rw [told]
        refine .pending payload rfl ⟨Or.inl ⟨exclusive, rfl⟩, ?_⟩ occupied ?_
        · rw [counted]
          exact contents
        · rw [settled]
    | acquireBuffer _ | store | commitData => simp [step, delivery] at stepped
    | beginWait | wake | process | respond | resetLength =>
        exact absurd rfl ofThread

omit mgmt in
theorem step_pending {request : List UInt8}
    (delivery : proxy.delivery = .none) (signalled : Pending proxy request)
    (occupied : proxy.state.accumulated ≠ 0)
    (outstanding : proxy.accepted = proxy.processed ++ [request])
    (exclusive : Exclusive proxy label)
    (stepped : step build client proxy label = some later) :
    Phase build client later := by
  cases label with
  | acquireBuffer payload => exact absurd exclusive occupied
  | store | commitData | messageComplete => simp [step, delivery] at stepped
  | beginWait | respond | resetLength =>
      rcases signalled.signalled with ⟨thread, -⟩ | thread <;>
        simp [step, thread] at stepped
  | wake =>
      simp only [step, Option.ite_none_right_eq_some, Option.some.injEq]
        at stepped
      obtain ⟨-, rfl⟩ := stepped
      exact .pending request delivery ⟨Or.inr rfl, signalled.contents⟩ occupied
        outstanding
  | process =>
      simp only [step, Option.ite_none_right_eq_some, Option.some.injEq]
        at stepped
      obtain ⟨-, rfl⟩ := stepped
      refine .finishing delivery (Or.inl rfl) occupied ?_
      rw [signalled.contents]
      exact outstanding

omit mgmt in
theorem step_finishing (delivery : proxy.delivery = .none)
    (thread : proxy.thread = .processed ∨ proxy.thread = .responded)
    (occupied : proxy.state.accumulated ≠ 0)
    (settled : proxy.accepted = proxy.processed)
    (exclusive : Exclusive proxy label)
    (stepped : step build client proxy label = some later) :
    Phase build client later := by
  cases label with
  | acquireBuffer payload => exact absurd exclusive occupied
  | store | commitData | messageComplete => simp [step, delivery] at stepped
  | beginWait | wake | process =>
      rcases thread with thread | thread <;> simp [step, thread] at stepped
  | respond =>
      simp only [step, Option.ite_none_right_eq_some, Option.some.injEq]
        at stepped
      obtain ⟨-, rfl⟩ := stepped
      exact .finishing delivery (Or.inr rfl) occupied settled
  | resetLength =>
      simp only [step, Option.ite_none_right_eq_some, Option.some.injEq]
        at stepped
      obtain ⟨-, rfl⟩ := stepped
      exact .idle delivery (Or.inl rfl) rfl settled

theorem step_phase (phase : Phase build client proxy)
    (exclusive : Exclusive proxy label)
    (stepped : step build client proxy label = some later) :
    Phase build client later := by
  cases phase with
  | idle delivery unsignalled empty settled =>
      exact step_idle mgmt delivery unsignalled empty settled stepped
  | acquired payload delivery fits nonempty unsignalled empty settled =>
      exact step_acquired delivery fits nonempty unsignalled empty settled
        stepped
  | stored payload delivery fits nonempty unsignalled empty contents settled =>
      exact step_stored mgmt delivery fits nonempty unsignalled empty contents
        settled stepped
  | committed payload delivery nonempty unsignalled counted contents settled =>
      exact step_committed mgmt delivery nonempty unsignalled counted contents
        settled exclusive stepped
  | pending request delivery signalled occupied outstanding =>
      exact step_pending delivery signalled occupied outstanding exclusive
        stepped
  | finishing delivery thread occupied settled =>
      exact step_finishing delivery thread occupied settled exclusive stepped

end Steps

/-- As long as the two sides exclude each other, no accepted request of either
management proxy is lost, merged or processed twice. -/
theorem noneLost_of_exclusive (build : Build) (client : Client)
    (mgmt : client.isMgmt = true) (labels : List Label) (final : MgmtProxy)
    (run : Run.GuardedRun (step build client) Exclusive initial labels
      final) :
    NoneLost final := by
  have start : Phase build client initial :=
    .idle rfl (Or.inl rfl) rfl rfl
  have phase := run.preserves
    (fun _ _ _ phase exclusive stepped =>
      step_phase mgmt phase exclusive stepped) start
  exact phase.noneLost

/-- A request from its arrival to the next wait of the thread. -/
def oneRequest (payload : List UInt8) : List Label :=
  [.beginWait, .acquireBuffer payload, .store, .commitData, .messageComplete,
    .wake, .process, .respond, .resetLength]

/-- Two requests one after the other. -/
def inTurn : List Label :=
  oneRequest [7] ++ oneRequest [8, 9]

theorem noneLost_inTurn :
    ∃ final, Run.exec (step Build.full .wifiMgmt) initial inTurn =
        some final ∧
      final.processed = [[7], [8, 9]] ∧ NoneLost final := by
  have ran : (Run.execGuarded (step Build.full .wifiMgmt) Exclusive initial
      inTurn).map (·.processed) = some [[7], [8, 9]] := by
    decide
  obtain ⟨final, executed, processed⟩ := Option.map_eq_some_iff.mp ran
  have run := Run.guardedRun_of_execGuarded executed
  exact ⟨final, run.exec_eq, processed, noneLost_of_exclusive Build.full
    .wifiMgmt rfl inTurn final run⟩

/-- A second request while the thread is busy with the first one: both are
accepted, and processed as one. -/
def secondWhileBusy : List Label :=
  [.beginWait, .acquireBuffer [1], .store, .commitData, .messageComplete,
    .wake, .acquireBuffer [2], .store, .commitData, .messageComplete, .process]

theorem secondWhileBusy_merged :
    ∃ final, Run.exec (step Build.full .wifiMgmt) initial secondWhileBusy =
        some final ∧
      final.accepted = [[1], [2]] ∧ final.processed = [[1, 2]] ∧
      ¬NoneLost final := by
  have ran : (Run.exec (step Build.full .wifiMgmt) initial
      secondWhileBusy).map (fun final => (final.accepted, final.processed)) =
        some ([[1], [2]], [[1, 2]]) := by
    decide
  obtain ⟨final, executed, outcome⟩ := Option.map_eq_some_iff.mp ran
  have accepted : final.accepted = [[1], [2]] := congrArg Prod.fst outcome
  have processed : final.processed = [[1, 2]] := congrArg Prod.snd outcome
  refine ⟨final, executed, accepted, processed, ?_⟩
  rintro (same | ⟨request, outstanding, -⟩)
  · rw [accepted, processed] at same
    exact absurd same (by decide)
  · rw [accepted, processed] at outstanding
    have first : some ([1] : List UInt8) = some [1, 2] :=
      congrArg List.head? outstanding
    exact absurd first (by decide)

/-- The four steps of the serial layer on an idle proxy leave its state as the
receiver's model does for a whole frame with the expected number. -/
theorem exec_delivery (build : Build) (client : Client)
    (mgmt : client.isMgmt = true) {frame : Frame} {device : Device}
    {rest : List UInt8} {proxy : MgmtProxy}
    (idle : proxy.delivery = .none)
    (shared : proxy.state = device.clients client)
    (empty : proxy.state.accumulated = 0)
    (expected : frame.header.sequenceNumber.val = device.rxSequenceNumber)
    (nonempty : frame.payload ≠ [])
    (fits : frame.payload.length ≤ client.capacity build) :
    ∃ final, Run.exec (step build client) proxy
        [.acquireBuffer frame.payload, .store, .commitData,
          .messageComplete] = some final ∧
      final.state = (device.completed build client (some 0) frame
        rest).clients client ∧
      final.accepted = proxy.accepted ++ [frame.payload] := by
  have designates : client ≠ .wifiData := by
    rintro rfl
    exact absurd mgmt (by decide)
  have none : client.occupied proxy.state = 0 := by
    simp [Client.occupied, empty]
  have granted : client.acquireBuffer build proxy.state
      frame.payload.length = .granted (some 0) := by
    rw [Client.acquireBuffer_fits designates (by omega), none]
  rw [shared] at granted
  have small := Nat.le_trans fits (client.capacity_le build)
  refine ⟨{ proxy with
    state := client.messageComplete build
      (Device.deliveredState client 0 frame device)
    delivery := .none
    accepted := proxy.accepted ++ [frame.payload] }, ?_, ?_, rfl⟩
  · simp [Run.exec, step, acquire, idle, nonempty, small, granted, shared,
      Device.deliveredState]
  · exact (Device.completed_clients build client 0 rest expected).symm

end MgmtProxy

end SerialLink
