import SerialLink.Host.Reassembly

/-!
# The virtual HCI driver of the host

`virt_bt_open` registers `hci_rx` for the frames of the HCI type, which copies
each payload into a buffer of the Bluetooth stack and passes it to `bt_recv`.
`virt_bt_close` forgets `bt_recv`, but leaves the handler in place.

The stack is not part of this repository: whether `bt_buf_get_rx` finds a
buffer, what it has put there and how much room is left, is up to it and may
change from call to call.
-/

namespace SerialLink

namespace Bus

theorem parseHeaderByte_sameThread (bus : Bus) (byte : UInt8) :
    SameThread (bus.parseHeaderByte byte) bus := by
  unfold parseHeaderByte
  dsimp only
  split <;> try exact ⟨rfl, rfl, rfl, rfl, rfl, rfl⟩
  split
  · exact ⟨rfl, rfl, rfl, rfl, rfl, rfl⟩
  · split <;> exact ⟨rfl, rfl, rfl, rfl, rfl, rfl⟩

theorem SameThread.trans {first second third : Bus}
    (one : SameThread first second) (other : SameThread second third) :
    SameThread first third where
  thread := one.thread.trans other.thread
  txSeq := one.txSeq.trans other.txSeq
  requestPending := one.requestPending.trans other.requestPending
  results := one.results.trans other.results
  opened := one.opened.trans other.opened
  handler := one.handler.trans other.handler

/-- The receiver leaves the thread where it is. -/
theorem busRxIsr_sameThread (bus : Bus) : SameThread bus.busRxIsr bus := by
  have drained : SameThread (drainHeader bus.rxFifo bus) bus := by
    apply drainHeader_preserves (SameThread · bus)
    · intro later byte same
      exact (later.parseHeaderByte_sameThread byte).trans same
    · intro later fifo same
      exact ⟨same.thread, same.txSeq, same.requestPending, same.results,
        same.opened, same.handler⟩
    · exact ⟨rfl, rfl, rfl, rfl, rfl, rfl⟩
  unfold busRxIsr
  dsimp only
  split
  · exact ⟨drained.thread, drained.txSeq, drained.requestPending,
      drained.results, drained.opened, drained.handler⟩
  · exact drained

theorem busRxWork_sameThread (bus : Bus) : SameThread bus.busRxWork bus := by
  unfold busRxWork completeFrame
  dsimp only
  split
  · exact ⟨rfl, rfl, rfl, rfl, rfl, rfl⟩
  · split
    · exact ⟨rfl, rfl, rfl, rfl, rfl, rfl⟩
    · split
      · split <;> exact ⟨rfl, rfl, rfl, rfl, rfl, rfl⟩
      · rw [dispatchData, deliver, acknowledge]
        split <;> split <;> exact ⟨rfl, rfl, rfl, rfl, rfl, rfl⟩

end Bus

/-- A buffer of `bt_buf_get_rx`. -/
structure RxBuffer where
  contents : List UInt8
  tailroom : Nat

/-- The driver.  `received` lists what `bt_recv` has been called with, the bytes
that were in the buffer and those that `hci_rx` added.  `overrun` records that
`net_buf_add_mem` was given more bytes than there was room for. -/
structure VirtualHci where
  /-- `bt_recv != NULL` -/
  btRecv : Bool
  received : List (List UInt8 × List UInt8)
  overrun : Bool

namespace VirtualHci

/-- `hci_rx`; `getRx` is `bt_buf_get_rx` for the type that an H:4 type byte
stands for. -/
def hciRx (getRx : UInt8 → Option RxBuffer) (driver : VirtualHci)
    (payload : List UInt8) : VirtualHci :=
  match payload with
  | [] => driver
  | h4Type :: _ =>
      if driver.btRecv = false then driver
      else
        match getRx h4Type with
        | none => driver
        | some buffer =>
            { driver with
              received := driver.received ++ [(buffer.contents, payload)]
              overrun := driver.overrun ||
                decide (buffer.tailroom < payload.length) }

end VirtualHci

/-- The receiver of the host and the driver. -/
structure HciHost where
  reassembly : Reassembly
  driver : VirtualHci

namespace HciHost

open Bus

inductive Label where
  /-- The receiver goes on; `getRx` is what `bt_buf_get_rx` does in this step,
  should `hci_rx` be called. -/
  | receive (label : Reassembly.Label) (getRx : UInt8 → Option RxBuffer)
  | virtBtOpen
  | virtBtClose

/-- The frames that a step of the receiver gets past `bus_validate_rx`. -/
def validates (reassembly : Reassembly) : Reassembly.Label → List Accepted
  | .busRxWork => reassembly.bus.takeWork.accepted
  | _ => []

/-- A frame that `bus_rx_work` gives to `hci_rx`. -/
def handed (accepted : Accepted) : Bool :=
  accepted.lookedUp && accepted.handler && accepted.header.type == .hci

/-- The threads leave the handler of the HCI type alone. -/
def keepsHandler (reassembly : Reassembly) : Reassembly.Label → Bool
  | .threads _ handler => handler .hci == reassembly.bus.handler .hci
  | _ => true

def step (host : HciHost) : Label → Option HciHost
  | .receive label getRx =>
      if keepsHandler host.reassembly label then
        (host.reassembly.step label).map fun reassembly =>
          { reassembly
            driver := ((validates host.reassembly label).filter handed).foldl
              (fun driver accepted => driver.hciRx getRx accepted.payload)
              host.driver }
      else none
  | .virtBtOpen =>
      some
        { reassembly := { host.reassembly with
            bus.handler := fun type => if type = .hci then true
              else host.reassembly.bus.handler type }
          driver := { host.driver with btRecv := true } }
  | .virtBtClose =>
      some { host with driver := { host.driver with btRecv := false } }

variable {host later : HciHost} {start : Reassembly} {frames : List Frame}

/-- What a driver has received are some of the packets that it was called
with. -/
theorem received_hciRx (getRx : UInt8 → Option RxBuffer)
    (driver : VirtualHci) (payload : List UInt8) :
    ∃ more, more.Sublist [payload] ∧
      (driver.hciRx getRx payload).received.map Prod.snd =
        driver.received.map Prod.snd ++ more := by
  unfold VirtualHci.hciRx
  split
  · exact ⟨[], List.nil_sublist _, (List.append_nil _).symm⟩
  · split
    · exact ⟨[], List.nil_sublist _, (List.append_nil _).symm⟩
    · split
      · exact ⟨[], List.nil_sublist _, (List.append_nil _).symm⟩
      · refine ⟨_, List.Sublist.refl _, ?_⟩
        rw [List.map_append]
        rfl

theorem received_foldl (getRx : UInt8 → Option RxBuffer)
    (calls : List Accepted) (driver : VirtualHci) :
    ∃ more, more.Sublist (calls.map (·.payload)) ∧
      (calls.foldl (fun driver accepted =>
          driver.hciRx getRx accepted.payload) driver).received.map Prod.snd =
        driver.received.map Prod.snd ++ more := by
  induction calls generalizing driver with
  | nil => exact ⟨[], List.Sublist.refl _, (List.append_nil _).symm⟩
  | cons call calls induction =>
      obtain ⟨first, one, same⟩ := received_hciRx getRx driver call.payload
      obtain ⟨rest, others, more⟩ :=
        induction (driver.hciRx getRx call.payload)
      refine ⟨first ++ rest, one.append others, ?_⟩
      rw [List.foldl_cons, more, same, List.append_assoc]

theorem accepted_of_step {label : Reassembly.Label}
    {reassembly next : Reassembly}
    (stepped : reassembly.step label = some next) :
    next.accepted = reassembly.accepted ++ validates reassembly label := by
  cases label with
  | busRxWork =>
      rw [Reassembly.step] at stepped
      split at stepped
      · cases stepped
        rfl
      · cases stepped
  | arrive _ | busRxIsr | threads _ _ =>
      cases stepped
      exact (List.append_nil _).symm

/-- The receiver makes progress, and the driver is called with nothing else. -/
structure Serves (start : Reassembly) (frames : List Frame)
    (host : HciHost) : Prop where
  progress : Reassembly.Progress start frames host.reassembly
  received : (host.driver.received.map Prod.snd).Sublist
    ((host.reassembly.accepted.filter handed).map (·.payload))

theorem Serves.step {label : Label} (serves : Serves start frames host)
    (stepped : host.step label = some later) : Serves start frames later := by
  cases label with
  | receive label getRx =>
      rw [HciHost.step] at stepped
      split at stepped
      · obtain ⟨reassembly, moved, rfl⟩ := Option.map_eq_some_iff.mp stepped
        refine ⟨serves.progress.step moved, ?_⟩
        obtain ⟨more, some, same⟩ := received_foldl getRx
          ((validates host.reassembly label).filter handed) host.driver
        dsimp only
        rw [same, accepted_of_step moved, List.filter_append, List.map_append]
        exact serves.received.append some
      · cases stepped
  | virtBtOpen =>
      cases stepped
      have opened : host.reassembly.step (.threads
          host.reassembly.bus.requestPending fun type =>
            if type = .hci then true
            else host.reassembly.bus.handler type) = some _ := rfl
      exact ⟨serves.progress.step opened, serves.received⟩
  | virtBtClose =>
      cases stepped
      exact ⟨serves.progress, serves.received⟩

/-- The driver stays open, nobody waits for a response, and the stack has a
buffer. -/
def Attentive : Label → Prop
  | .receive label getRx =>
      (∀ requestPending handler, label = .threads requestPending handler →
        requestPending = false) ∧ ∀ h4Type, getRx h4Type ≠ none
  | .virtBtOpen => True
  | .virtBtClose => False

/-- A packet of the HCI type. -/
def isHci (accepted : Accepted) : Bool :=
  accepted.hasPayload && accepted.header.type == .hci

/-- The driver is open and has received all the packets. -/
structure Open (host : HciHost) : Prop where
  btRecv : host.driver.btRecv = true
  handler : host.reassembly.bus.handler .hci = true
  idle : host.reassembly.bus.requestPending = false
  received : host.driver.received.map Prod.snd =
    (host.reassembly.accepted.filter isHci).map (·.payload)

/-- With a buffer for it, a packet is received. -/
theorem hciRx_of_buffer {getRx : UInt8 → Option RxBuffer}
    {driver : VirtualHci} {payload : List UInt8}
    (opened : driver.btRecv = true)
    (buffers : ∀ h4Type, getRx h4Type ≠ none) (nonempty : payload ≠ []) :
    (driver.hciRx getRx payload).btRecv = true ∧
      (driver.hciRx getRx payload).received.map Prod.snd =
        driver.received.map Prod.snd ++ [payload] := by
  cases payload with
  | nil => exact absurd rfl nonempty
  | cons h4Type rest =>
      obtain ⟨buffer, found⟩ := Option.ne_none_iff_exists'.mp (buffers h4Type)
      simp [VirtualHci.hciRx, opened, found]

/-- What gets past `bus_validate_rx` while nobody waits is looked up. -/
theorem accepted_cases (bus : Bus) :
    bus.accepted = [] ∨ ∃ accepted, bus.accepted = [accepted] ∧
      accepted.requestPending = bus.requestPending ∧
      accepted.handler = bus.handler accepted.header.type ∧
      accepted.payload.length = accepted.header.length.val := by
  unfold Bus.accepted validated
  dsimp only
  split
  · exact .inl rfl
  · split
    · exact .inl rfl
    · refine .inr ⟨_, rfl, rfl, rfl, ?_⟩
      simp [rxPayload]

theorem Open.busRxWork {getRx : UInt8 → Option RxBuffer}
    (isOpen : Open host) (buffers : ∀ h4Type, getRx h4Type ≠ none) :
    Open
      { reassembly := { host.reassembly with
          bus := host.reassembly.bus.takeWork.busRxWork
          accepted := host.reassembly.accepted ++
            host.reassembly.bus.takeWork.accepted }
        driver := (host.reassembly.bus.takeWork.accepted.filter handed).foldl
          (fun driver accepted => driver.hciRx getRx accepted.payload)
          host.driver } := by
  have same := host.reassembly.bus.takeWork.busRxWork_sameThread
  have handler := (congrFun same.handler SerialType.hci).trans isOpen.handler
  have idle := same.requestPending.trans isOpen.idle
  rcases accepted_cases host.reassembly.bus.takeWork with
    none | ⟨accepted, one, pending, looked, filled⟩
  · refine ⟨?_, handler, idle, ?_⟩
    · rw [none]
      exact isOpen.btRecv
    · rw [none, List.append_nil]
      exact isOpen.received
  · have waiting : accepted.requestPending = false :=
      pending.trans isOpen.idle
    by_cases ours : isHci accepted = true
    · have typed : accepted.header.type = .hci := by
        simp only [isHci, Bool.and_eq_true, beq_iff_eq] at ours
        exact ours.2
      have registered : accepted.handler = true := by
        rw [looked, typed]
        exact isOpen.handler
      have called : handed accepted = true := by
        simp only [isHci, Bool.and_eq_true] at ours
        simp [handed, Accepted.lookedUp, ours, waiting, registered]
      have nonempty : accepted.payload ≠ [] := by
        intro empty
        rw [empty] at filled
        simp [isHci, Accepted.hasPayload, ← filled] at ours
      obtain ⟨opened, received⟩ :=
        hciRx_of_buffer isOpen.btRecv buffers nonempty
      refine ⟨?_, handler, idle, ?_⟩
      · simpa [one, called] using opened
      · simpa [one, called, List.filter_append, ours, isOpen.received]
          using received
    · have passed : handed accepted = false := by
        simp only [isHci, Bool.and_eq_true, not_and, Bool.not_eq_true] at ours
        by_cases data : accepted.hasPayload = true
        · simp [handed, ours data]
        · simp [handed, Accepted.lookedUp, data]
      refine ⟨?_, handler, idle, ?_⟩
      · simpa [one, passed] using isOpen.btRecv
      · simpa [one, passed, List.filter_append, ours] using isOpen.received

theorem Open.step {label : Label} (isOpen : Open host)
    (attentive : Attentive label) (stepped : host.step label = some later) :
    Open later := by
  cases label with
  | receive label getRx =>
      obtain ⟨quiet, buffers⟩ := attentive
      rw [HciHost.step] at stepped
      split at stepped
      · rename_i keeps
        obtain ⟨reassembly, moved, rfl⟩ := Option.map_eq_some_iff.mp stepped
        cases label with
        | arrive count =>
            cases moved
            exact ⟨isOpen.btRecv, isOpen.handler, isOpen.idle, isOpen.received⟩
        | busRxIsr =>
            cases moved
            have same := host.reassembly.bus.busRxIsr_sameThread
            exact ⟨isOpen.btRecv,
              (congrFun same.handler SerialType.hci).trans isOpen.handler,
              same.requestPending.trans isOpen.idle, isOpen.received⟩
        | busRxWork =>
            rw [Reassembly.step] at moved
            split at moved
            · cases moved
              exact isOpen.busRxWork buffers
            · cases moved
        | threads requestPending handler =>
            cases moved
            have registered : handler .hci =
                host.reassembly.bus.handler .hci := by
              simpa [keepsHandler] using keeps
            exact ⟨isOpen.btRecv, registered.trans isOpen.handler,
              quiet _ _ rfl, isOpen.received⟩
      · cases stepped
  | virtBtOpen =>
      cases stepped
      exact ⟨rfl, rfl, isOpen.idle, isOpen.received⟩
  | virtBtClose => exact attentive.elim

end HciHost

end SerialLink
