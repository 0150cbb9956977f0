import SerialLink.Device.HciProxy
import SerialLink.Host.Length
import SerialLink.Link.OneWay

/-!
# The packets of the host at the controller

`virt_bt_send` puts every packet of the Bluetooth stack into a frame of its own
with `bus_send`, and gives the stack its buffer back whatever becomes of it.
The device hands the packet of a frame to its controller, or leaves it out if
the number of the frame is not the one it expects.  The driver reports success
in both cases.
-/

namespace SerialLink

namespace VirtualHci

/-- `virt_bt_send`: the result of the call, the bus behind it and how often the
buffer has been released. -/
def virtBtSend (bus : Bus) (data : List UInt8) :
    Except Errno Unit × Bus × Nat :=
  match bus.busSend .hci data with
  | .ok sent => (.ok (), sent, 1)
  | .error errno => (.error errno, bus, 1)

end VirtualHci

namespace OneWay

variable {build : Build} {getTx : HciPacket → Bool} {packet : List UInt8}
  {packets : List (List UInt8)} {outcome : Outcome}
  {outcomes : List (Option Outcome)} {link later final : OneWay}

/-- Calls of `virt_bt_send` one after the other, with any packets.  A call
that fails has no outcome at the device. -/
inductive Sends (build : Build) :
    OneWay → List (List UInt8) → List (Option Outcome) → OneWay → Prop where
  | nil (link : OneWay) : Sends build link [] [] link
  | sent {link later final : OneWay} {packet : List UInt8}
      {packets : List (List UInt8)} {outcome : Outcome}
      {outcomes : List (Option Outcome)} :
      (VirtualHci.virtBtSend link.host packet).1 = .ok () →
      Transfers build .bt .hci packet link outcome later →
      Sends build later packets outcomes final →
      Sends build link (packet :: packets) (some outcome :: outcomes) final
  | failed {link final : OneWay} {packet : List UInt8}
      {packets : List (List UInt8)} {outcomes : List (Option Outcome)}
      {errno : Errno} :
      (VirtualHci.virtBtSend link.host packet).1 = .error errno →
      Sends build link packets outcomes final →
      Sends build link (packet :: packets) (none :: outcomes) final

/-- The proxy has room for the packet, or no frame can hold it.  A packet in
between is sent in a frame whose payload the device then takes for headers. -/
def Manageable (packet : List UInt8) : Prop :=
  packet.length ≤ 512 ∨
    serialMaxPayloadLen < packet.length ∧ packet.length < 65536

instance (packet : List UInt8) : Decidable (Manageable packet) :=
  inferInstanceAs (Decidable (_ ∨ _))

theorem Manageable.held (manageable : Manageable packet) :
    packet.length < 65536 := by
  rcases manageable with fits | ⟨-, held⟩
  · omega
  · exact held

theorem Manageable.fits (manageable : Manageable packet)
    (bounded : packet.length ≤ serialMaxPayloadLen) :
    packet.length ≤ 512 := by
  rcases manageable with fits | ⟨exceeds, -⟩
  · exact fits
  · omega

/-- The packets whose frames have been accepted. -/
def acceptedOf :
    List (List UInt8) → List (Option Outcome) → List (List UInt8)
  | packet :: packets, some .accepted :: outcomes =>
      packet :: acceptedOf packets outcomes
  | _ :: packets, _ :: outcomes => acceptedOf packets outcomes
  | _, _ => []

/-- The buffers passed to `bt_send` are among what has been completed. -/
theorem btSend_of_completions {device served : Device}
    (same : completions served.trace = completions device.trace) :
    Device.btSend getTx served.trace = Device.btSend getTx device.trace := by
  rw [Device.btSend, same, Device.btSend]

theorem callbacks_hci (registered : build.registered .bt = true) :
    serialMuxGetCallbacks build .hci = some .bt := by
  simp [serialMuxGetCallbacks, registered]

section Call

variable (registered : build.registered .bt = true)

include registered

/-- The driver fails for the packets that no frame can hold. -/
theorem virtBtSend_ok_iff (listening : Listening link.host)
    (held : packet.length < 65536) :
    (VirtualHci.virtBtSend link.host packet).1 = .ok () ↔
      0 < packet.length ∧ packet.length ≤ serialMaxPayloadLen := by
  constructor
  · intro reported
    unfold VirtualHci.virtBtSend at reported
    split at reported
    · rename_i sent called
      unfold Bus.busSend at called
      split at called
      · cases called
      · rename_i passed
        obtain ⟨bounded, empty⟩ := Bus.checkRequest_legal passed
        have whole : (Bus.sendCall .hci packet).request.length % 65536 =
            packet.length := Nat.mod_eq_of_lt held
        rw [whole] at bounded empty
        refine ⟨Nat.pos_of_ne_zero ?_, bounded⟩
        intro none
        cases empty none
    · cases reported
  · rintro ⟨positive, bounded⟩
    obtain ⟨sent, called, -⟩ := busSend_frame (callbacks_hci registered)
      positive bounded listening
    rw [VirtualHci.virtBtSend, called]

/-- One call: the packet goes to the controller if the frame is accepted. -/
theorem Transfers.btSend (getsTx : ∀ packet, getTx packet = true)
    (positive : 0 < packet.length)
    (bounded : packet.length ≤ serialMaxPayloadLen)
    (standing : Standing .bt link)
    (transfers : Transfers build .bt .hci packet link outcome later) :
    Device.btSend getTx later.device.trace =
      Device.btSend getTx link.device.trace ++
        (acceptedOf [packet] [some outcome]).filterMap
          (HciProxy.packetWith 1) := by
  have callbacks := callbacks_hci registered
  obtain ⟨-, fits⟩ := transfers.fits callbacks positive bounded standing
  obtain ⟨outcome_eq, -⟩ :=
    transfers.effect callbacks positive bounded standing
  obtain ⟨sent, called, -, -, written⟩ :=
    busSend_frame callbacks positive bounded standing.host
  obtain ⟨calledAgain, serves, -, shows⟩ := transfers
  rw [called] at calledAgain
  cases calledAgain
  rw [written] at serves
  cases outcome with
  | rejected =>
      have same : Device.btSend getTx _ = Device.btSend getTx _ :=
        btSend_of_completions shows.1
      exact same.trans (List.append_nil _).symm
  | accepted =>
      have aligned : Aligned link := by
        apply Classical.byContradiction
        intro misaligned
        rw [outcomeOf, if_neg misaligned] at outcome_eq
        cases outcome_eq
      have expected : (callFrame link.host .hci packet
          bounded).header.sequenceNumber.val = link.device.rxSequenceNumber :=
        (callFrame_expected bounded standing).mpr aligned
      obtain ⟨served, only, handed, -⟩ := Device.serves_hci registered getsTx
        standing.device.atType standing.device.empty standing.device.healthy
        standing.device.idle rfl expected positive fits
      cases (only _).mp serves
      refine handed.trans ?_
      congr 1

end Call

section Run

variable (registered : build.registered .bt = true)

include registered

/-- What the controller gets from a run is what has been accepted. -/
theorem Sends.btSend (getsTx : ∀ packet, getTx packet = true)
    (sends : Sends build link packets outcomes final)
    (standing : Standing .bt link)
    (held : ∀ packet ∈ packets, packet.length < 65536) :
    Device.btSend getTx final.device.trace =
      Device.btSend getTx link.device.trace ++
        (acceptedOf packets outcomes).filterMap (HciProxy.packetWith 1) := by
  induction sends with
  | nil => exact (List.append_nil _).symm
  | @sent link later final packet packets outcome outcomes reported transfers
      _ induction =>
      obtain ⟨positive, bounded⟩ :=
        (virtBtSend_ok_iff registered standing.host
          (held packet List.mem_cons_self)).mp reported
      obtain ⟨-, still, -⟩ := transfers.effect (callbacks_hci registered)
        positive bounded standing
      have others := fun other member =>
        held other (List.mem_cons_of_mem _ member)
      rw [induction still others,
        transfers.btSend registered getsTx positive bounded standing,
        List.append_assoc, ← List.filterMap_append]
      cases outcome <;> rfl
  | failed _ _ induction =>
      exact induction standing
        (fun other member => held other (List.mem_cons_of_mem _ member))

/-- A run exists as long as the proxy has room for the packets that are sent,
and with counters that agree it leaves out only what cannot be sent. -/
theorem exists_sends (standing : Standing .bt link)
    (manageable : ∀ packet ∈ packets, Manageable packet) :
    ∃ outcomes final, Sends build link packets outcomes final ∧
      Standing .bt final ∧
      (Aligned link → Aligned final ∧
        acceptedOf packets outcomes =
          (packets.filter (·.length ≤ 512)).filter (· ≠ [])) := by
  induction packets generalizing link with
  | nil => exact ⟨[], link, .nil link, standing, fun aligned => ⟨aligned, rfl⟩⟩
  | cons packet packets induction =>
      have one := manageable packet List.mem_cons_self
      have others := fun other member =>
        manageable other (List.mem_cons_of_mem _ member)
      by_cases sendable :
        0 < packet.length ∧ packet.length ≤ serialMaxPayloadLen
      · obtain ⟨positive, bounded⟩ := sendable
        have fits := one.fits bounded
        have reported :=
          (virtBtSend_ok_iff registered standing.host one.held).mpr
            ⟨positive, bounded⟩
        obtain ⟨later, transfers, still, sent, received⟩ :=
          transfers_of_fits (callbacks_hci registered) positive bounded
            standing (by decide) fits
        obtain ⟨outcomes, final, sends, standing, agree⟩ :=
          induction still others
        refine ⟨_, final, .sent reported transfers sends, standing, ?_⟩
        intro aligned
        rw [if_pos aligned] at received
        have together : Aligned later := by
          rw [Aligned, sent, received, aligned]
        obtain ⟨aligned', accepted⟩ := agree together
        refine ⟨aligned', ?_⟩
        have nonempty : packet ≠ [] := List.ne_nil_of_length_pos positive
        rw [outcomeOf, if_pos aligned, acceptedOf, accepted,
          List.filter_cons_of_pos (by simpa using fits),
          List.filter_cons_of_pos (by simpa using nonempty)]
      · have failed : ∃ errno,
            (VirtualHci.virtBtSend link.host packet).1 = .error errno := by
          cases reported : (VirtualHci.virtBtSend link.host packet).1 with
          | ok =>
              exact absurd ((virtBtSend_ok_iff registered standing.host
                one.held).mp reported) sendable
          | error errno => exact ⟨errno, rfl⟩
        obtain ⟨errno, reported⟩ := failed
        obtain ⟨outcomes, final, sends, standing, agree⟩ :=
          induction standing others
        refine ⟨_, final, .failed reported sends, standing, ?_⟩
        intro aligned
        obtain ⟨aligned', accepted⟩ := agree aligned
        refine ⟨aligned', ?_⟩
        have left : acceptedOf (packet :: packets) (none :: outcomes) =
            acceptedOf packets outcomes := rfl
        rw [left, accepted]
        by_cases short : packet.length ≤ 512
        · have empty : packet = [] := by
            apply List.eq_nil_of_length_eq_zero
            unfold serialMaxPayloadLen at sendable
            omega
          rw [List.filter_cons_of_pos (by simpa using short),
            List.filter_cons_of_neg (by simp [empty])]
        · rw [List.filter_cons_of_neg (by simpa using short)]

end Run

/-- A packet without bytes is none of either format. -/
theorem filterMap_packetWith_filter (excess : Nat)
    (packets : List (List UInt8)) :
    (packets.filter (· ≠ [])).filterMap (HciProxy.packetWith excess) =
      packets.filterMap (HciProxy.packetWith excess) := by
  rw [List.filterMap_filter]
  congr 1
  funext packet
  cases packet with
  | nil => rfl
  | cons => simp

/-- Every sequence of packets each of which the proxy has room for, or no frame
can hold, can be sent.  The controller gets the packets of the frames that
the device accepts, in their order and as they were sent, and nothing else.
With counters that agree these are all the packets the proxy has room for in
the format that it checks; with packets on which this format and H:4 agree,
all those of H:4. -/
theorem packets_at_controller (build : Build)
    (registered : build.registered .bt = true) (getTx : HciPacket → Bool)
    (getsTx : ∀ packet, getTx packet = true) (link : OneWay)
    (standing : Standing .bt link) (packets : List (List UInt8))
    (manageable : ∀ packet ∈ packets, Manageable packet) :
    (∃ outcomes final, Sends build link packets outcomes final) ∧
      (∀ outcomes final, Sends build link packets outcomes final →
        Device.btSend getTx final.device.trace =
          Device.btSend getTx link.device.trace ++
            (acceptedOf packets outcomes).filterMap
              (HciProxy.packetWith 1)) ∧
      (Aligned link →
        ∃ outcomes final, Sends build link packets outcomes final ∧
          Aligned final ∧
          Device.btSend getTx final.device.trace =
            Device.btSend getTx link.device.trace ++
              (packets.filter (·.length ≤ 512)).filterMap
                (HciProxy.packetWith 1) ∧
          ((∀ packet ∈ packets, ¬HciProxy.Misjudged packet) →
            Device.btSend getTx final.device.trace =
              Device.btSend getTx link.device.trace ++
                (packets.filter (·.length ≤ 512)).filterMap
                  HciProxy.packet)) := by
  have held : ∀ packet ∈ packets, packet.length < 65536 :=
    fun packet member => (manageable packet member).held
  obtain ⟨outcomes, final, sends, -, agree⟩ :=
    exists_sends registered standing manageable
  refine ⟨⟨outcomes, final, sends⟩, ?_, ?_⟩
  · intro outcomes final sends
    exact sends.btSend registered getsTx standing held
  · intro aligned
    obtain ⟨together, accepted⟩ := agree aligned
    have handed : Device.btSend getTx final.device.trace =
        Device.btSend getTx link.device.trace ++
          (packets.filter (·.length ≤ 512)).filterMap
            (HciProxy.packetWith 1) := by
      rw [sends.btSend registered getsTx standing held, accepted,
        filterMap_packetWith_filter]
    refine ⟨outcomes, final, sends, together, handed, ?_⟩
    intro judged
    rw [handed]
    congr 1
    apply List.filterMap_congr
    intro packet member
    have among := List.mem_of_mem_filter member
    exact HciProxy.packetWith_one_iff.mpr (judged packet among)

/-- Three commands reach the controller. -/
theorem commands_at_controller :
    ∃ outcomes final,
      Sends Build.full (between 0 0) commands outcomes final ∧
        Device.btSend (fun _ => true) final.device.trace =
          [{ type := .cmd, bytes := [3, 12, 0] },
            { type := .cmd, bytes := [3, 16, 0] },
            { type := .cmd, bytes := [9, 16, 0] }] := by
  obtain ⟨-, -, all⟩ := packets_at_controller Build.full rfl (fun _ => true)
    (fun _ => rfl) (between 0 0) (between_standing (by decide)) commands
    (by decide)
  obtain ⟨outcomes, final, sends, -, handed, -⟩ := all rfl
  exact ⟨outcomes, final, sends, handed⟩

end OneWay

end SerialLink
