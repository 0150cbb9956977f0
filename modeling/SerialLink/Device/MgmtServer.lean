import SerialLink.Library.Server
import SerialLink.Device.MgmtProxy

/-!
# The management threads as servers

Between the wait and the next one a management thread decodes what is in the
receive buffer, calls the network stack, leaves a response in its transmit
buffer and hands it to `serial_mux_send`, unless it is empty.  The serial layer
and the rest of the system go on meanwhile.  As long as the two sides exclude
each other, this is a server that takes whole requests one after the other.

`process` stands for `process_wifi_mgmt_request` or `process_net_if_request`,
`world` for what these read and write of the device.
-/

namespace SerialLink

open Server

/-- A management proxy with its response.  `handed` lists what was passed to
`serial_mux_send`. -/
structure MgmtServer (σ : Type) where
  proxy : MgmtProxy
  world : σ
  txBuffer : List UInt8
  handed : List (List UInt8)

namespace MgmtServer

variable {σ : Type}

inductive Label (σ : Type) where
  | proxy (label : MgmtProxy.Label)
  | change (change : σ → σ)

/-- A response without bytes is not sent. -/
def nonempty (responses : List (List UInt8)) : List (List UInt8) :=
  responses.filter (· ≠ [])

def step (process : σ → List UInt8 → σ × List UInt8) (build : Build)
    (client : Client) (server : MgmtServer σ) :
    Label σ → Option (MgmtServer σ)
  | .change change => some { server with world := change server.world }
  | .proxy label =>
      (server.proxy.step build client label).map fun proxy =>
        match label with
        | .process =>
            let request := Region.slice server.proxy.state.buffer 0
              server.proxy.state.accumulated
            let (world, response) := process server.world request
            { server with proxy, world, txBuffer := response }
        | .respond =>
            { server with
              proxy
              handed := server.handed ++ nonempty [server.txBuffer] }
        | _ => { server with proxy }

def initial (world : σ) : MgmtServer σ where
  proxy := .initial
  world
  txBuffer := []
  handed := []

/-- The two sides exclude each other. -/
def Exclusive (server : MgmtServer σ) : Label σ → Prop
  | .proxy label => server.proxy.Exclusive label
  | .change _ => True

instance (server : MgmtServer σ) : (label : Label σ) →
    Decidable (Exclusive server label)
  | .proxy label => inferInstanceAs (Decidable (server.proxy.Exclusive label))
  | .change _ => isTrue trivial

variable (process : σ → List UInt8 → σ × List UInt8) {build : Build}
  {client : Client} {start : σ} {server later : MgmtServer σ}

/-- The response that has not been handed on yet. -/
def outstanding (server : MgmtServer σ) : List (List UInt8) :=
  if server.proxy.thread = .processed then nonempty [server.txBuffer] else []

/-- The server has done what a sequential one does with this history. -/
structure Follows (start : σ) (history : List (Happening σ (List UInt8)))
    (server : MgmtServer σ) : Prop where
  processed : requests history = server.proxy.processed
  world : (serve process start history).1 = server.world
  responses : nonempty (serve process start history).2 =
    server.handed ++ server.outstanding

theorem nonempty_append (first second : List (List UInt8)) :
    nonempty (first ++ second) = nonempty first ++ nonempty second := by
  simp [nonempty]

/-- Only `process` adds to what has been processed, and only from there does
the thread get behind it. -/
theorem proxy_step_frame {proxy later : MgmtProxy} {label : MgmtProxy.Label}
    (stepped : proxy.step build client label = some later) :
    (label = .process ∧ proxy.thread = .woken ∧ later.thread = .processed ∧
        later.processed = proxy.processed ++
          [Region.slice proxy.state.buffer 0 proxy.state.accumulated]) ∨
      (label = .respond ∧ proxy.thread = .processed ∧
        later.thread = .responded ∧ later.processed = proxy.processed) ∨
      (label ≠ .process ∧ label ≠ .respond ∧
        (later.thread = .processed ↔ proxy.thread = .processed) ∧
        later.processed = proxy.processed) := by
  cases label with
  | acquireBuffer payload =>
      simp only [MgmtProxy.step, Option.ite_none_right_eq_some,
        Option.some.injEq] at stepped
      obtain ⟨-, rfl⟩ := stepped
      unfold MgmtProxy.acquire
      split <;> simp
  | store | commitData | messageComplete =>
      simp only [MgmtProxy.step] at stepped
      split at stepped
      · cases stepped
        simp
      · cases stepped
  | process | respond =>
      simp only [MgmtProxy.step, Option.ite_none_right_eq_some,
        Option.some.injEq] at stepped
      obtain ⟨thread, rfl⟩ := stepped
      simp [thread]
  | beginWait | resetLength =>
      simp only [MgmtProxy.step, Option.ite_none_right_eq_some,
        Option.some.injEq] at stepped
      obtain ⟨thread, rfl⟩ := stepped
      simp [thread]
  | wake =>
      simp only [MgmtProxy.step, Option.ite_none_right_eq_some,
        Option.some.injEq] at stepped
      obtain ⟨⟨thread, -⟩, rfl⟩ := stepped
      simp [thread]

/-- One step of the system is at most one of the sequential server. -/
theorem Follows.step {history : List (Happening σ (List UInt8))}
    (follows : Follows process start history server) {label : Label σ}
    (stepped : server.step process build client label = some later) :
    ∃ history, Follows process start history later := by
  cases label with
  | change change =>
      cases stepped
      refine ⟨history ++ [.change change], ?_, ?_, ?_⟩
      · rw [requests_append]
        exact (List.append_nil _).trans follows.processed
      · rw [serve_append, follows.world]
        rfl
      · rw [serve_append]
        exact (congrArg nonempty (List.append_nil _)).trans follows.responses
  | proxy label =>
      obtain ⟨proxy, moved, rfl⟩ := Option.map_eq_some_iff.mp stepped
      have responses := follows.responses
      unfold outstanding at responses
      rcases proxy_step_frame moved with ⟨rfl, before, thread, processed⟩ |
        ⟨rfl, before, thread, processed⟩ |
          ⟨noProcess, noRespond, same, processed⟩
      · refine ⟨history ++ [.request (Region.slice server.proxy.state.buffer 0
          server.proxy.state.accumulated)], ?_, ?_, ?_⟩
        · rw [requests_append, follows.processed]
          exact processed.symm
        · rw [serve_append, follows.world]
          rfl
        · rw [before, if_neg (by decide), List.append_nil] at responses
          rw [serve_append, nonempty_append, responses, follows.world,
            outstanding, if_pos thread]
          rfl
      · refine ⟨history, follows.processed.trans processed.symm,
          follows.world, ?_⟩
        rw [before, if_pos rfl] at responses
        rw [responses, outstanding, if_neg (by rw [thread]; decide),
          List.append_nil]
      · refine ⟨history, ?_⟩
        cases label with
        | process => exact absurd rfl noProcess
        | respond => exact absurd rfl noRespond
        | acquireBuffer _ | store | commitData | messageComplete | beginWait
        | wake | resetLength =>
            refine ⟨follows.processed.trans processed.symm, follows.world, ?_⟩
            rw [responses, outstanding]
            simp only [same]

/-- The proxy takes the steps that it takes without the server. -/
theorem phase_step (mgmt : client.isMgmt = true)
    (phase : MgmtProxy.Phase build client server.proxy) {label : Label σ}
    (exclusive : Exclusive server label)
    (stepped : server.step process build client label = some later) :
    MgmtProxy.Phase build client later.proxy := by
  cases label with
  | change change =>
      cases stepped
      exact phase
  | proxy label =>
      obtain ⟨proxy, moved, rfl⟩ := Option.map_eq_some_iff.mp stepped
      have behind := MgmtProxy.step_phase mgmt phase exclusive moved
      cases label <;> exact behind

theorem initial_follows (start : σ) :
    Follows process start [] (initial start) :=
  ⟨rfl, rfl, rfl⟩

/-- In every run in which the two sides exclude each other, a management
thread does what a sequential server does with the accepted requests: they
are processed whole and in their order, the last one perhaps not yet, and the
responses handed to `serial_mux_send` are its answers, as far as they are not
empty and but for one that is about to be handed on. -/
theorem exec_sequential (build : Build) (client : Client)
    (mgmt : client.isMgmt = true) (start : σ) (labels : List (Label σ))
    (final : MgmtServer σ)
    (run : Run.GuardedRun (step process build client) Exclusive
      (initial start) labels final) :
    MgmtProxy.NoneLost final.proxy ∧
      ∃ history, requests history = final.proxy.processed ∧
        (serve process start history).1 = final.world ∧
        nonempty (serve process start history).2 =
          final.handed ++ final.outstanding := by
  have started : MgmtProxy.Phase build client MgmtProxy.initial :=
    .idle rfl (Or.inl rfl) rfl rfl
  have kept : MgmtProxy.Phase build client final.proxy ∧
      ∃ history, Follows process start history final := by
    apply run.preserves _ ⟨started, [], initial_follows process start⟩
    rintro server label later ⟨phase, history, follows⟩ exclusive stepped
    refine ⟨phase_step process mgmt phase exclusive stepped, ?_⟩
    exact follows.step process stepped
  obtain ⟨phase, history, follows⟩ := kept
  exact ⟨phase.noneLost, history, follows.processed, follows.world,
    follows.responses⟩

end MgmtServer

end SerialLink
