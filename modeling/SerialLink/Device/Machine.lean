import SerialLink.Library.Run
import SerialLink.Device.Receiver

/-!
# The receiver as a step machine

Bytes may become readable while `serial_work_handler` is running.  Here the
handler is taken apart into its start and the iterations of its loop, between
which the environment can act.  The callback is invoked from work context, so
that it does not interrupt the handler.
-/

namespace SerialLink

/-- The receiver and, while the handler is inside its loop, the `frame_type`
it was started with. -/
structure Receiver where
  device : Device
  handling : Option SerialType

namespace Receiver

inductive Action where
  | callback
  | begin
  | iterate
  deriving DecidableEq, Repr

def begin (build : Build) (device : Device) : Receiver :=
  if device.serialHeader.type = .protocolInfo ∧
      device.serialHeader.length.val = 0 then
    { device := device.answerProtocolInfo build, handling := none }
  else { device, handling := some device.serialHeader.type }

def iterate (build : Build) (frameType : SerialType) (device : Device) :
    Receiver :=
  if device.payloadMissing then
    match device.workStep build frameType with
    | .next later => { device := later, handling := some frameType }
    | .stop final => { device := final, handling := none }
  else { device, handling := none }

def step (build : Build) (receiver : Receiver) :
    Action → Option Receiver
  | .callback =>
      match receiver.handling with
      | none => some { receiver with device := receiver.device.uartIrqCallback }
      | some _ => none
  | .begin =>
      match receiver.handling with
      | none =>
          if receiver.device.workPending then
            some (begin build receiver.device.takeWork)
          else none
      | some _ => none
  | .iterate =>
      match receiver.handling with
      | none => none
      | some frameType => some (iterate build frameType receiver.device)

/-- An iteration leaves the loop, or is an execution of its body. -/
theorem iterate_cases (build : Build) (frameType : SerialType)
    (device : Device) :
    (device.payloadMissing = false ∧
        iterate build frameType device = { device, handling := none }) ∨
      device.payloadMissing = true ∧
        (iterate build frameType device).device =
          (device.workStep build frameType).state ∧
        ((iterate build frameType device).handling = none ∨
          (iterate build frameType device).handling = some frameType) := by
  unfold iterate
  split
  · rename_i missing
    right
    refine ⟨missing, ?_⟩
    split
    · rename_i later outcome
      exact ⟨by rw [outcome]; rfl, .inr rfl⟩
    · rename_i final outcome
      exact ⟨by rw [outcome]; rfl, .inl rfl⟩
  · rename_i complete
    exact .inl ⟨by simpa using complete, rfl⟩

variable {build : Build} {frameType : SerialType} {device final : Device}

theorem iterate_of_next (missing : device.payloadMissing = true)
    (stepped : device.workStep build frameType = .next final) :
    iterate build frameType device =
      { device := final, handling := some frameType } := by
  simp [iterate, missing, stepped]

theorem iterate_of_stop (missing : device.payloadMissing = true)
    (stepped : device.workStep build frameType = .stop final) :
    iterate build frameType device = { device := final, handling := none } := by
  simp [iterate, missing, stepped]

/-- The iterations of a loop that returns are a run of the machine. -/
theorem exec_iterations {fuel : Nat}
    (returned : Loop.iterate Device.payloadMissing
      (Device.workStep build frameType) fuel device = some final) :
    ∃ count, Run.exec (step build)
        { device, handling := some frameType }
        (List.replicate count .iterate) =
      some { device := final, handling := none } := by
  induction fuel generalizing device with
  | zero => simp [Loop.iterate] at returned
  | succ fuel induction =>
      rw [Loop.iterate] at returned
      by_cases missing : device.payloadMissing = true
      · rw [if_pos missing] at returned
        cases outcome : device.workStep build frameType with
        | next later =>
            simp only [outcome] at returned
            obtain ⟨count, executed⟩ := induction returned
            refine ⟨count + 1, ?_⟩
            simpa [List.replicate_succ, Run.exec, step, iterate, missing,
              outcome] using executed
        | stop last =>
            simp only [outcome, Option.some.injEq] at returned
            refine ⟨1, ?_⟩
            simp [Run.exec, step, iterate, missing, outcome, returned]
      · rw [if_neg missing, Option.some.injEq] at returned
        subst returned
        refine ⟨1, ?_⟩
        simp [Run.exec, step, iterate, missing]

/-- Every receive event of the big-step receiver is a run of the machine. -/
theorem exec_serviceRound {fuel : Nat}
    (served : device.serviceRound build fuel = some final) :
    ∃ actions, Run.exec (step build) { device, handling := none } actions =
      some { device := final, handling := none } := by
  unfold Device.serviceRound Device.runWork at served
  by_cases pending : device.uartIrqCallback.workPending = true
  · rw [if_pos pending] at served
    unfold Device.serialWorkHandler at served
    dsimp only at served
    by_cases info : device.uartIrqCallback.takeWork.serialHeader.type =
        .protocolInfo ∧
          device.uartIrqCallback.takeWork.serialHeader.length.val = 0
    · rw [if_pos info, Option.some.injEq] at served
      refine ⟨[.callback, .begin], ?_⟩
      simp [Run.exec, step, begin, pending, info, ← served]
    · rw [if_neg info] at served
      obtain ⟨count, executed⟩ := exec_iterations served
      refine ⟨.callback :: .begin :: List.replicate count .iterate, ?_⟩
      simp only [Run.exec, step, pending, if_true, begin]
      rw [if_neg info]
      exact executed
  · rw [if_neg pending, Option.some.injEq] at served
    refine ⟨[.callback], ?_⟩
    simp [Run.exec, step, served]

end Receiver

end SerialLink
