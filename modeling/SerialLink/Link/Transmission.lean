import SerialLink.Library.Backpressure
import SerialLink.Device.Receiver
import SerialLink.Host.Send

/-!
# Transmission over a FIFO that may refuse bytes

`serial_send_frame` on the device and `bus_send` on the host write a frame in
two calls of `serial_data_tx` or `bus_data_tx`, header first.  Elsewhere a
write is one step and always whole; here the FIFO behind it takes what it
likes, stays full or fails, separately for the two writes.

A function takes the `fuel` of its two loops and is `none` where that is too
little.
-/

namespace SerialLink

/-- The negative results of `serial_data_tx` and `bus_data_tx`. -/
inductive TxError where
  /-- The FIFO stayed full. -/
  | enospc
  /-- The code returned by `uart_fifo_fill`. -/
  | driver (code : Nat)
  deriving DecidableEq, Repr

/-- `SERIAL_TX_TIMEOUT_MS` -/
def serialTxTimeoutMs : Int := 500

/-- `BUS_TX_TIMEOUT_MS` -/
def busTxTimeoutMs : Int := 500

/-- `serial_data_tx` -/
def serialDataTx (fifo : Fifo TxError) (fuel : Nat) (data : List UInt8) :
    Option (Write TxError UInt8) :=
  fifo.write serialTxTimeoutMs .enospc fuel data

/-- `bus_data_tx` -/
def busDataTx (fifo : Fifo TxError) (fuel : Nat) (data : List UInt8) :
    Option (Write TxError UInt8) :=
  fifo.write busTxTimeoutMs .enospc fuel data

/-- What `uart_fifo_fill` and the clock do during the two writes. -/
structure Uart where
  header : Fifo TxError
  payload : Fifo TxError

/-- What a call returns, the sequence counter it leaves, and the bytes the
FIFO has accepted during it. -/
structure Sent where
  result : Except Errno Unit
  counter : Nat
  accepted : List UInt8

/-- A call that returns 0 has written the whole frame; one that has not
returns an error and leaves the counter alone. -/
def Sent.Whole (sent : Sent) (frame : List UInt8) (counter : Nat) : Prop :=
  (sent.result = .ok () → sent.accepted = frame) ∧
    (sent.accepted ≠ frame →
      sent.result ≠ .ok () ∧ sent.counter = counter)

namespace Uart

variable (uart : Uart)

/-- One of the two writes is cut short.  There is no second one for an empty
payload. -/
def CutsShort (timeout : Int) (payload : List UInt8) : Prop :=
  uart.header.CutsShort timeout 4 ∨
    uart.payload.CutsShort timeout payload.length

/-- The two writes of a frame, whose results nobody looks at: the bytes that
were accepted. -/
def writeFrame (dataTx : Fifo TxError → Nat → List UInt8 →
      Option (Write TxError UInt8))
    (fuel : Nat) (header payload : List UInt8) : Option (List UInt8) :=
  match dataTx uart.header fuel header with
  | none => none
  | some first =>
      if payload = [] then some first.accepted
      else
        match dataTx uart.payload fuel payload with
        | none => none
        | some second => some (first.accepted ++ second.accepted)

/-- `serial_send_frame` -/
def serialSendFrame (fuel : Nat) (device : Device) (type : SerialType)
    (error : ErrorType) (noAck : Bool) (payload : List UInt8) :
    Option Sent :=
  if payload.length > serialMaxPayloadLen then
    some
      { result := .error .emsgsize
        counter := device.txSequenceNumber
        accepted := [] }
  else
    let header := Device.frameHeader type error noAck device.txSequenceNumber
      payload.length
    match uart.writeFrame serialDataTx fuel header.encode payload with
    | none => none
    | some accepted =>
        some
          { result := .ok ()
            counter := seqNext device.txSequenceNumber
            accepted }

/-- `bus_send_raw` -/
def busSendRaw (fuel : Nat) (header : SerialHeader) (payload : List UInt8) :
    Option (List UInt8) :=
  uart.writeFrame busDataTx fuel (busHeaderEncode header) payload

/-- `bus_send` -/
def busSend (fuel : Nat) (bus : Bus) (type : SerialType)
    (payload : List UInt8) : Option Sent :=
  match bus.checkRequest (Bus.sendCall type payload) with
  | .error errno =>
      some { result := .error errno, counter := bus.txSeq, accepted := [] }
  | .ok () =>
      let header := bus.requestHeader (Bus.sendCall type payload)
      match uart.busSendRaw fuel header payload with
      | none => none
      | some accepted =>
          some
            { result := .ok ()
              counter := bus.reserveSend.txSeq
              accepted }

variable {uart}

section

variable {timeout : Int} {full : TxError} {fuel : Nat}
  {header payload accepted : List UInt8}

theorem exists_writeFrame (uart : Uart) (timeout : Int) (full : TxError)
    (header payload : List UInt8) :
    ∃ fuel accepted,
      uart.writeFrame (·.write timeout full · ·) fuel header payload =
        some accepted := by
  obtain ⟨firstFuel, first, firstWritten⟩ :=
    uart.header.exists_write timeout full header
  obtain ⟨secondFuel, second, secondWritten⟩ :=
    uart.payload.exists_write timeout full payload
  have firstBoth := Fifo.write_mono
    (Nat.le_max_left firstFuel secondFuel) firstWritten
  have secondBoth := Fifo.write_mono
    (Nat.le_max_right firstFuel secondFuel) secondWritten
  refine ⟨max firstFuel secondFuel, ?_⟩
  by_cases empty : payload = []
  · exact ⟨first.accepted, by simp [writeFrame, firstBoth, empty]⟩
  · exact ⟨first.accepted ++ second.accepted, by
      simp [writeFrame, firstBoth, secondBoth, empty]⟩

/-- What is accepted of two writes is everything exactly if both are whole:
a write that is cut short lacks a byte, and none accepts more than it is
given. -/
theorem append_eq_iff {first second whole rest : List UInt8}
    (firstShort : first.length ≤ whole.length)
    (secondShort : second.length ≤ rest.length) :
    first ++ second = whole ++ rest ↔ first = whole ∧ second = rest := by
  constructor
  · intro same
    have lengths := congrArg List.length same
    simp only [List.length_append] at lengths
    exact List.append_inj same (by omega)
  · rintro ⟨rfl, rfl⟩
    rfl

theorem write_accepted {fifo : Fifo TxError} {items : List UInt8}
    {final : Write TxError UInt8}
    (written : fifo.write timeout full fuel items = some final) :
    final.accepted.length ≤ items.length ∧
      (final.accepted = items ↔ ¬fifo.CutsShort timeout items.length) := by
  rcases Fifo.ended_of_write written with
    ⟨whole, _, accepted⟩ | ⟨short, _, count, less, accepted⟩
  · rw [accepted]
    exact ⟨Nat.le_refl _, iff_of_true rfl whole⟩
  · have lacking : final.accepted.length < items.length := by
      rw [accepted, List.length_take]
      omega
    refine ⟨Nat.le_of_lt lacking, iff_of_false ?_ (not_not_intro short)⟩
    intro same
    rw [same] at lacking
    exact Nat.lt_irrefl _ lacking

theorem writeFrame_eq_iff (bytes : header.length = 4)
    (written : uart.writeFrame (·.write timeout full · ·) fuel header
      payload = some accepted) :
    accepted = header ++ payload ↔ ¬uart.CutsShort timeout payload := by
  rw [writeFrame] at written
  split at written
  · cases written
  · rename_i first firstWritten
    obtain ⟨firstShort, firstWhole⟩ := write_accepted firstWritten
    rw [bytes] at firstWhole
    split at written
    · rename_i empty
      cases written
      have none : ¬uart.payload.CutsShort timeout payload.length := by
        rintro ⟨index, short, _⟩
        simp [empty] at short
      rw [empty, List.append_nil, firstWhole, ← empty]
      simp [CutsShort, none]
    · split at written
      · cases written
      · rename_i second secondWritten
        obtain ⟨secondShort, secondWhole⟩ := write_accepted secondWritten
        cases written
        rw [append_eq_iff firstShort secondShort, firstWhole, secondWhole,
          CutsShort, not_or]

end

/-- A call that reports success whatever was accepted has to get everything
accepted. -/
theorem whole_iff_of_ok {sent : Sent} {frame : List UInt8} {counter : Nat}
    (success : sent.result = .ok ()) :
    sent.Whole frame counter ↔ sent.accepted = frame := by
  constructor
  · intro whole
    exact whole.1 success
  · intro same
    exact ⟨fun _ => same, fun different => absurd same different⟩

/-- A call that fails before it writes has done nothing. -/
theorem whole_of_error {errno : Errno} {frame : List UInt8} {counter : Nat} :
    Sent.Whole { result := .error errno, counter, accepted := [] } frame
      counter := by
  constructor
  · intro success
    cases success
  · intro _
    exact ⟨by simp, rfl⟩

theorem exists_serialSendFrame (uart : Uart) (device : Device)
    (type : SerialType) (error : ErrorType) (noAck : Bool)
    (payload : List UInt8) :
    ∃ fuel sent,
      uart.serialSendFrame fuel device type error noAck payload =
        some sent := by
  by_cases long : payload.length > serialMaxPayloadLen
  · exact ⟨0, _, by rw [serialSendFrame, if_pos long]⟩
  · let header := Device.frameHeader type error noAck
      device.txSequenceNumber payload.length
    obtain ⟨fuel, accepted, written⟩ : ∃ fuel accepted,
        uart.writeFrame serialDataTx fuel header.encode payload =
          some accepted :=
      uart.exists_writeFrame serialTxTimeoutMs .enospc _ _
    refine ⟨fuel, ?_⟩
    rw [serialSendFrame, if_neg long]
    dsimp only
    rw [written]
    exact ⟨_, rfl⟩

theorem exists_busSend (uart : Uart) (bus : Bus) (type : SerialType)
    (payload : List UInt8) :
    ∃ fuel sent, uart.busSend fuel bus type payload = some sent := by
  cases checked : bus.checkRequest (Bus.sendCall type payload) with
  | error errno => exact ⟨0, _, by rw [busSend, checked]⟩
  | ok =>
      let header := bus.requestHeader (Bus.sendCall type payload)
      obtain ⟨fuel, accepted, written⟩ : ∃ fuel accepted,
          uart.busSendRaw fuel header payload = some accepted :=
        uart.exists_writeFrame busTxTimeoutMs .enospc _ _
      refine ⟨fuel, ?_⟩
      rw [busSend, checked]
      dsimp only
      rw [written]
      exact ⟨_, rfl⟩

/-- A frame that is short enough: success is reported in any case. -/
theorem serialSendFrame_eq_some {fuel : Nat} {device : Device}
    {type : SerialType} {error : ErrorType} {noAck : Bool}
    {payload : List UInt8} {sent : Sent}
    (bounded : payload.length ≤ serialMaxPayloadLen)
    (returned : uart.serialSendFrame fuel device type error noAck payload =
      some sent) :
    sent.result = .ok () ∧
      sent.counter = seqNext device.txSequenceNumber ∧
      (sent.accepted = (Device.frameHeader type error noAck
          device.txSequenceNumber payload.length).encode ++ payload ↔
        ¬uart.CutsShort serialTxTimeoutMs payload) := by
  rw [serialSendFrame, if_neg (Nat.not_lt.mpr bounded)] at returned
  dsimp only at returned
  split at returned
  · cases returned
  · rename_i accepted written
    cases returned
    exact ⟨rfl, rfl, writeFrame_eq_iff
      (SerialHeader.length_encode _) written⟩

theorem busSend_eq_some {fuel : Nat} {bus : Bus} {type : SerialType}
    {payload : List UInt8} {sent : Sent}
    (checked : bus.checkRequest (Bus.sendCall type payload) = .ok ())
    (returned : uart.busSend fuel bus type payload = some sent) :
    sent.result = .ok () ∧ sent.counter = seqNext bus.txSeq ∧
      (sent.accepted = busHeaderEncode
          (bus.requestHeader (Bus.sendCall type payload)) ++ payload ↔
        ¬uart.CutsShort busTxTimeoutMs payload) := by
  rw [busSend, checked] at returned
  dsimp only at returned
  split at returned
  · cases returned
  · rename_i accepted written
    cases returned
    exact ⟨rfl, rfl, writeFrame_eq_iff rfl written⟩

/-- A transmission that is not cut short is the single step that stands for
it elsewhere. -/
theorem serialSendFrame_whole {fuel : Nat} {device : Device}
    {type : SerialType} {error : ErrorType} {noAck : Bool}
    {payload : List UInt8} {sent : Sent}
    (bounded : payload.length ≤ serialMaxPayloadLen)
    (whole : ¬uart.CutsShort serialTxTimeoutMs payload)
    (returned : uart.serialSendFrame fuel device type error noAck payload =
      some sent) :
    ∃ header later,
      device.serialSendFrame type error noAck payload = .ok later ∧
      later.trace = device.trace ++ [.send header payload] ∧
      later.txSequenceNumber = sent.counter ∧
      sent.accepted = header.encode ++ payload := by
  obtain ⟨_, counter, accepted⟩ := serialSendFrame_eq_some bounded returned
  refine ⟨_, _, by rw [Device.serialSendFrame,
    if_neg (Nat.not_lt.mpr bounded)], rfl, counter.symm,
    accepted.mpr whole⟩

theorem busSend_whole {fuel : Nat} {bus : Bus} {type : SerialType}
    {payload : List UInt8} {sent : Sent}
    (checked : bus.checkRequest (Bus.sendCall type payload) = .ok ())
    (whole : ¬uart.CutsShort busTxTimeoutMs payload)
    (returned : uart.busSend fuel bus type payload = some sent) :
    ∃ header later, bus.busSend type payload = .ok later ∧
      later.wire = bus.wire ++ [(.request, header, payload)] ∧
      later.txSeq = sent.counter ∧
      sent.accepted = busHeaderEncode header ++ payload := by
  obtain ⟨_, counter, accepted⟩ := busSend_eq_some checked returned
  refine ⟨_, _, by rw [Bus.busSend, checked], rfl, counter.symm,
    accepted.mpr whole⟩

/-- Both functions return, and keep what a return value of 0 promises exactly
if no write of a frame they begin is cut short. -/
theorem sent_whole_iff (uart : Uart) (payload : List UInt8)
    (bounded : payload.length ≤ serialMaxPayloadLen) :
    (∀ device type error noAck,
      (∃ fuel sent, uart.serialSendFrame fuel device type error noAck
        payload = some sent) ∧
      ∀ fuel sent, uart.serialSendFrame fuel device type error noAck
          payload = some sent →
        (sent.Whole ((Device.frameHeader type error noAck
            device.txSequenceNumber payload.length).encode ++ payload)
            device.txSequenceNumber ↔
          ¬uart.CutsShort serialTxTimeoutMs payload)) ∧
    ∀ bus type,
      (∃ fuel sent, uart.busSend fuel bus type payload = some sent) ∧
      ∀ fuel sent, uart.busSend fuel bus type payload = some sent →
        (sent.Whole (busHeaderEncode
            (bus.requestHeader (Bus.sendCall type payload)) ++ payload)
            bus.txSeq ↔
          (bus.checkRequest (Bus.sendCall type payload) = .ok () →
            ¬uart.CutsShort busTxTimeoutMs payload)) := by
  constructor
  · intro device type error noAck
    refine ⟨exists_serialSendFrame uart device type error noAck payload, ?_⟩
    intro fuel sent returned
    obtain ⟨success, _, accepted⟩ := serialSendFrame_eq_some bounded returned
    rw [whole_iff_of_ok success, accepted]
  · intro bus type
    refine ⟨exists_busSend uart bus type payload, ?_⟩
    intro fuel sent returned
    cases checked : bus.checkRequest (Bus.sendCall type payload) with
    | error errno =>
        rw [busSend, checked] at returned
        cases returned
        exact iff_of_true whole_of_error (by simp)
    | ok =>
        obtain ⟨success, _, accepted⟩ := busSend_eq_some checked returned
        rw [whole_iff_of_ok success, accepted]
        simp

/-- A FIFO that gives the same answer to every call, one a millisecond. -/
def steady (answer : Except TxError Nat) : Fifo TxError where
  start := 0
  fill := fun _ => answer
  uptime := fun index => index
  advances := by
    intro bound
    refine ⟨bound.toNat + 1, ?_⟩
    intro later after
    omega

theorem not_cutsShort_steady (count : Nat) (timeout : Int) (length : Nat) :
    ¬(steady (.ok (count + 1))).CutsShort timeout length := by
  rintro ⟨index, _, givesUp⟩
  exact givesUp

/-- Two bytes are accepted by each call. -/
theorem sent_whole_pairs :
    ∃ uart : Uart, ∃ sent,
      uart.serialSendFrame 4 Device.boot .hci .noError false [1, 2, 3] =
        some sent ∧
      sent.accepted = [0x23, 0x00, 0x00, 0x03, 1, 2, 3] ∧
      sent.Whole ((Device.frameHeader .hci .noError false 0 3).encode ++
        [1, 2, 3]) 0 := by
  let uart : Uart :=
    { header := steady (.ok 2), payload := steady (.ok 2) }
  refine ⟨uart, _, rfl, rfl, ?_⟩
  apply ((sent_whole_iff uart [1, 2, 3] (by decide)).1 Device.boot .hci
    .noError false).2 4 _ rfl |>.mpr
  rintro (short | short)
  · exact not_cutsShort_steady 1 _ _ short
  · exact not_cutsShort_steady 1 _ _ short

/-- The driver fails the second write: both sides report success for a
header without its payload, and count the frame. -/
theorem not_whole_driver_error :
    ∃ uart : Uart,
      (∃ sent, uart.serialSendFrame 2 Device.boot .hci .noError false [7] =
          some sent ∧ sent.result = .ok () ∧ sent.counter = 1 ∧
        sent.accepted = (Device.frameHeader .hci .noError false 0 1).encode ∧
        ¬sent.Whole ((Device.frameHeader .hci .noError false 0 1).encode ++
          [7]) 0) ∧
      ∃ sent, uart.busSend 2 Bus.inUse .hci [7] = some sent ∧
        sent.result = .ok () ∧ sent.counter = 1 ∧
        sent.accepted = busHeaderEncode
          (Bus.inUse.requestHeader (Bus.sendCall .hci [7])) ∧
        ¬sent.Whole (busHeaderEncode
          (Bus.inUse.requestHeader (Bus.sendCall .hci [7])) ++ [7]) 0 := by
  refine ⟨{ header := steady (.ok 4)
            payload := steady (.error (.driver 5)) },
    ⟨_, rfl, rfl, rfl, rfl, ?_⟩, ⟨_, rfl, rfl, rfl, rfl, ?_⟩⟩
  · intro whole
    exact absurd (whole.1 rfl) (by decide)
  · intro whole
    exact absurd (whole.1 rfl) (by decide)

end Uart

end SerialLink
