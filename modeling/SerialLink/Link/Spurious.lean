import SerialLink.Device.Preemption
import SerialLink.Host.Preemption

/-!
# Executions of the handlers without a frame

Neither handler looks at the parser's state.  Started while the parser is in
the next header, it acts on the header of the frame it has ended.  It is
started so when the interrupt has queued the work item while the handler was
reading the last of a payload.
-/

namespace SerialLink

/-- On both sides an execution outside a payload does nothing, and every header
parsed leads to one frame ended, along the runs in which no frame is ended with
the work item queued again. -/
theorem spurious_work_harmless (build : Build)
    (handler : SerialType → Bool) :
    (∀ labels work,
      Run.GuardedRun (DeviceWork.step build) (DeviceWork.EndsUnqueued build)
          DeviceWork.boot labels work →
        DeviceWork.Harmless build work) ∧
      ∀ labels work,
        Run.GuardedRun BusWork.step BusWork.EndsUnqueued
            (BusWork.boot handler) labels work →
          BusWork.Harmless work :=
  ⟨fun _ _ run => DeviceWork.harmless_reached run,
    fun _ _ run => BusWork.harmless_reached run⟩

section Traces

instance (build : Build) (work : DeviceWork) :
    (label : DeviceWork.Label) →
      Decidable (DeviceWork.EndsUnqueued build work label)
  | .advance =>
      inferInstanceAs (Decidable (if work.device.parsingState = .data then
        work.ending build = true → work.device.workPending = false
        else work.leaves build = true))
  | .arrive _ | .uart _ | .proxy _ _ | .interrupt | .start
  | .serialSendFrame _ _ _ _ => inferInstanceAs (Decidable True)

instance (work : BusWork) :
    (label : BusWork.Label) → Decidable (BusWork.EndsUnqueued work label)
  | .advance => inferInstanceAs (Decidable (_ = _ → _ = _))
  | .arrive _ | .interrupt | .start | .fail | .thread _ | .busSend _ _ =>
      inferInstanceAs (Decidable True)

def shortPacket : Frame := .ofPayload .hci 0 [7, 8] (by decide)

namespace DeviceWork

/-- A frame that arrives in two pieces.  The callback runs while the handler
is reading the first of them. -/
def piecewise : List Label :=
  [.arrive (shortPacket.encode.take 5), .interrupt, .start, .advance,
    .interrupt, .advance, .advance, .arrive (shortPacket.encode.drop 5),
    .start, .advance, .advance, .advance]

/-- A frame whose end is read behind a callback, and the next header. -/
def requeued : List Label :=
  [.arrive shortPacket.encode, .interrupt, .start, .advance, .interrupt,
    .advance, .advance, .arrive shortPacket.encode, .start, .advance]

end DeviceWork

namespace BusWork

def piecewise : List Label :=
  [.thread .busOpen, .arrive (shortPacket.encode.take 5), .interrupt, .start,
    .interrupt, .advance, .advance, .arrive (shortPacket.encode.drop 5),
    .start, .advance, .advance]

/-- The ACK of a query, whose end is taken behind an interrupt, and the waiting
thread. -/
def requeued : List Label :=
  [.thread .busOpen, .thread .advance, .thread .advance, .thread .advance,
    .arrive (Device.ackHeader .protocolInfo 0 .noError).encode, .interrupt,
    .start, .arrive ((Bus.information 0).encode.take 1), .interrupt, .advance,
    .thread .advance, .start]

end BusWork

theorem spurious_work_harmless_piecewise :
    (∃ work, Run.exec (DeviceWork.step Build.full) DeviceWork.boot
        DeviceWork.piecewise = some work ∧
      work.ended = [shortPacket.header] ∧
      DeviceWork.Harmless Build.full work) ∧
      ∃ work, Run.exec BusWork.step (BusWork.boot fun _ => true)
          BusWork.piecewise = some work ∧
        work.ended = [shortPacket.header] ∧ BusWork.Harmless work := by
  obtain ⟨device, bus⟩ := spurious_work_harmless Build.full fun _ => true
  constructor
  · have ran : (Run.execGuarded (DeviceWork.step Build.full)
        (DeviceWork.EndsUnqueued Build.full) DeviceWork.boot
        DeviceWork.piecewise).map DeviceWork.ended =
          some [shortPacket.header] := by
      decide +kernel
    obtain ⟨work, executed, ended⟩ := Option.map_eq_some_iff.mp ran
    have run := Run.guardedRun_of_execGuarded executed
    exact ⟨work, run.exec_eq, ended, device _ work run⟩
  · have ran : (Run.execGuarded BusWork.step BusWork.EndsUnqueued
        (BusWork.boot fun _ => true) BusWork.piecewise).map BusWork.ended =
          some [shortPacket.header] := by
      decide +kernel
    obtain ⟨work, executed, ended⟩ := Option.map_eq_some_iff.mp ran
    have run := Run.guardedRun_of_execGuarded executed
    exact ⟨work, run.exec_eq, ended, bus _ work run⟩

/-- The device reads the first bytes of a header into the client's buffer and
ends a frame for them; the host gives `rx_sem` a second time for one ACK. -/
theorem requeued_work_harms :
    (∃ work later, Run.exec (DeviceWork.step Build.full) DeviceWork.boot
        DeviceWork.requeued = some work ∧
      work.device.parsingState ≠ .data ∧
      work.step Build.full .advance = some later ∧
      later.device.rxFifo.length < work.device.rxFifo.length ∧
      work.device.trace.length < later.device.trace.length ∧
      ¬later.slot.Balanced) ∧
      ∃ work later, Run.exec BusWork.step (BusWork.boot fun _ => true)
          BusWork.requeued = some work ∧
        work.bus.state ≠ .data ∧ work.step .advance = some later ∧
        work.bus.rxSem = false ∧ later.bus.rxSem = true ∧
        ¬later.slot.Balanced := by
  constructor
  · have ran : ((Run.exec (DeviceWork.step Build.full) DeviceWork.boot
        DeviceWork.requeued).bind fun work =>
          (work.step Build.full .advance).map fun later =>
            (work.device.parsingState,
              [work.device.rxFifo.length, later.device.rxFifo.length,
                work.device.trace.length, later.device.trace.length],
              later.parsed.length, later.ended.length)) =
          some (.type, [6, 4, 3, 4], 1, 2) := by
      decide +kernel
    obtain ⟨work, executed, advanced⟩ := Option.bind_eq_some_iff.mp ran
    obtain ⟨later, stepped, observed⟩ := Option.map_eq_some_iff.mp advanced
    simp only [Prod.mk.injEq, List.cons.injEq, and_true] at observed
    obtain ⟨outside, ⟨before, after, sent, sentLater⟩, parsed, ended⟩ :=
      observed
    refine ⟨work, later, executed, by simp [outside], stepped, by omega,
      by omega, ?_⟩
    intro balanced
    have taken : later.ended.length ≤ later.parsed.length :=
      balanced.takes_le
    omega
  · have ran : ((Run.exec BusWork.step (BusWork.boot fun _ => true)
        BusWork.requeued).bind fun work =>
          (work.step .advance).map fun later =>
            (work.bus.state, work.bus.rxSem, later.bus.rxSem,
              later.parsed.length, later.ended.length)) =
          some (.type, false, true, 1, 2) := by
      decide +kernel
    obtain ⟨work, executed, advanced⟩ := Option.bind_eq_some_iff.mp ran
    obtain ⟨later, stepped, observed⟩ := Option.map_eq_some_iff.mp advanced
    simp only [Prod.mk.injEq] at observed
    obtain ⟨outside, taken, given, parsed, ended⟩ := observed
    refine ⟨work, later, executed, by simp [outside], stepped, taken, given, ?_⟩
    intro balanced
    have taken : later.ended.length ≤ later.parsed.length :=
      balanced.takes_le
    omega

end Traces

end SerialLink
