import SerialLink.Device.Receiver

/-!
# Parsing one header

From `PARSING_STATE_TYPE`, the callback consumes the four bytes of a header
whatever `serial_header` held before, and then is in the state that the
declared length and the type select.
-/

namespace SerialLink

/-- The events of the callback: type bytes and the answers to over-long
headers. -/
def Event.OfCallback : Event → Prop
  | .messageComplete _ _ _ => False
  | _ => True

namespace Device

/-- `later` has recorded what `device` has and, behind it, only events that
meet `allowed`. -/
def Records (allowed : Event → Prop) (device later : Device) : Prop :=
  ∃ events, later.trace = device.trace ++ events ∧
    ∀ event ∈ events, allowed event

namespace Records

variable {allowed : Event → Prop} {first second third : Device}

theorem of_trace (same : second.trace = first.trace) :
    Records allowed first second :=
  ⟨[], by simp [same], fun _ member => absurd member List.not_mem_nil⟩

theorem of_log {event : Event} (recorded : second.trace = first.trace ++ [event])
    (permitted : allowed event) : Records allowed first second := by
  refine ⟨[event], recorded, ?_⟩
  intro other member
  rw [List.mem_singleton.mp member]
  exact permitted

theorem trans (left : Records allowed first second)
    (right : Records allowed second third) : Records allowed first third := by
  obtain ⟨earlier, earlierTrace, earlierAllowed⟩ := left
  obtain ⟨later, laterTrace, laterAllowed⟩ := right
  refine ⟨earlier ++ later, ?_, ?_⟩
  · rw [laterTrace, earlierTrace, List.append_assoc]
  · intro event member
    rcases List.mem_append.mp member with inEarlier | inLater
    · exact earlierAllowed event inEarlier
    · exact laterAllowed event inLater

/-- What has been recorded stays recorded. -/
theorem trace_kept (records : Records allowed first second) :
    first.trace <+: second.trace := by
  obtain ⟨events, recorded, -⟩ := records
  exact ⟨events, recorded.symm⟩

/-- A projection that no allowed event contributes to is unchanged. -/
theorem filterMap_eq {α : Type} {project : Event → Option α}
    (records : Records allowed first second)
    (skipped : ∀ event, allowed event → project event = none) :
    second.trace.filterMap project = first.trace.filterMap project := by
  obtain ⟨events, recorded, permitted⟩ := records
  have nothing : events.filterMap project = [] := by
    apply List.filterMap_eq_nil_iff.mpr
    intro event member
    exact skipped event (permitted event member)
  rw [recorded, List.filterMap_append, nothing, List.append_nil]

end Records

/-- The device after it has read the four bytes of `header`. -/
def headerParsed (device : Device) (header : SerialHeader) : Device :=
  let device :=
    { device.log (.typeByte device.consumed) with
      serialHeader := header
      bytesRead := 0
      consumed := device.consumed + 4 }
  if header.length.val = 0 then
    if header.type = .protocolInfo then { device with parsingState := .data }
    else { device with parsingState := .type }
  else if header.length.val > serialMaxPayloadLen then
    { device.sendAck header.type header.sequenceNumber.val .lengthTooLong with
      parsingState := .type }
  else { device with parsingState := .data }

private theorem stored_length (stale : Nat) (high low : UInt8) :
    let wire :=
      (stale / 256 * 256 + high.toNat) % 65536 % 256 + low.toNat * 256
    (wire % 256 * 256 + wire / 256) % 65536 = high.toNat * 256 + low.toNat := by
  have highBound := high.toNat_lt
  have lowBound := low.toNat_lt
  have kept : (stale / 256 * 256 + high.toNat) % 65536 % 256 = high.toNat := by
    rw [Nat.mod_mod_of_dvd _ (by decide : 256 ∣ 65536)]
    omega
  have first : (high.toNat + low.toNat * 256) % 256 = high.toNat := by omega
  have second : (high.toNat + low.toNat * 256) / 256 = low.toNat := by omega
  simp only [kept, first, second]
  omega

private theorem parse_four_bytes (device : Device) (byte0 byte1 high low : UInt8)
    (rest : List UInt8) (atType : device.parsingState = .type) :
    drainHeader (byte0 :: byte1 :: high :: low :: rest) device =
      drainHeader rest
        (device.headerParsed (SerialHeader.decode byte0 byte1 high low)) := by
  have highBound := high.toNat_lt
  have lowBound := low.toNat_lt
  have length := stored_length device.serialHeader.length.val high low
  have small : high.toNat * 256 + low.toNat < 65536 := by omega
  simp only [drainHeader, parseHeaderByte, atType, reduceCtorEq, if_false,
    SerialHeader.setByte0, SerialHeader.setByte1, Fin.ofNat, log, sendAck]
    at length ⊢
  simp only [length]
  congr 1
  simp only [headerParsed, SerialHeader.decode, Fin.ofNat, log, sendAck,
    Nat.mod_eq_of_lt small]
  by_cases empty : high.toNat * 256 + low.toNat = 0
  · by_cases info : SerialType.ofBits byte0.toNat = .protocolInfo
    · simp only [if_pos empty, if_pos info]
    · simp only [if_pos empty, if_neg info]
  · by_cases long : high.toNat * 256 + low.toNat > serialMaxPayloadLen
    · simp only [if_neg empty, if_pos long]
    · simp only [if_neg empty, if_neg long]

theorem drainHeader_encode (device : Device) (header : SerialHeader)
    (rest : List UInt8) (atType : device.parsingState = .type) :
    drainHeader (header.encode ++ rest) device =
      drainHeader rest (device.headerParsed header) := by
  have parsed := parse_four_bytes device header.byte0 header.byte1
    header.lengthHigh header.lengthLow rest atType
  rw [SerialHeader.decode_encode] at parsed
  exact parsed

theorem drainHeader_of_data {device : Device}
    (inData : device.parsingState = .data) (fifo : List UInt8) :
    drainHeader fifo device = { device with rxFifo := fifo } := by
  cases fifo with
  | nil => rfl
  | cons byte rest => simp only [drainHeader, inData, if_true]

/-- The invariant rule of the loop: what every header byte keeps, whatever is
left in the FIFO, the loop keeps. -/
theorem drainHeader_preserves (kept : Device → Prop)
    (byteKept : ∀ device byte, kept device →
      kept { device.parseHeaderByte byte with
        consumed := device.consumed + 1 })
    (fifoKept : ∀ device fifo, kept device →
      kept { device with rxFifo := fifo })
    {device : Device} (holds : kept device) (bytes : List UInt8) :
    kept (drainHeader bytes device) := by
  induction bytes generalizing device with
  | nil => exact fifoKept device [] holds
  | cons byte rest induction =>
      rw [drainHeader]
      split
      · exact fifoKept device (byte :: rest) holds
      · apply induction
        exact byteKept device byte holds

private theorem parseHeaderByte_submitWork (device : Device) (byte : UInt8) :
    device.submitWork.parseHeaderByte byte =
      (device.parseHeaderByte byte).submitWork := by
  unfold parseHeaderByte submitWork
  dsimp only
  split <;> try rfl
  split
  · split <;> rfl
  · split <;> rfl

theorem drainHeader_submitWork (bytes : List UInt8) (device : Device) :
    drainHeader bytes device.submitWork =
      (drainHeader bytes device).submitWork := by
  induction bytes generalizing device with
  | nil => rfl
  | cons byte rest induction =>
      rw [drainHeader, drainHeader, parseHeaderByte_submitWork]
      show (if device.parsingState = .data then _ else _) = _
      split
      · rfl
      · exact induction
          { device.parseHeaderByte byte with consumed := device.consumed + 1 }

private theorem parseHeaderByte_uart (device : Device) (byte : UInt8) :
    (device.parseHeaderByte byte).rxError = device.rxError ∧
      (device.parseHeaderByte byte).workPending = device.workPending := by
  unfold parseHeaderByte
  dsimp only
  split <;> try exact ⟨rfl, rfl⟩
  split
  · split <;> exact ⟨rfl, rfl⟩
  · split <;> exact ⟨rfl, rfl⟩

/-- The loop changes neither the UART's health nor the work queue. -/
theorem drainHeader_uart (bytes : List UInt8) (device : Device) :
    (drainHeader bytes device).rxError = device.rxError ∧
      (drainHeader bytes device).workPending = device.workPending := by
  apply drainHeader_preserves (fun later =>
    later.rxError = device.rxError ∧ later.workPending = device.workPending)
  · intro later byte holds
    have parsed := parseHeaderByte_uart later byte
    exact ⟨parsed.1.trans holds.1, parsed.2.trans holds.2⟩
  · intro later fifo holds
    exact holds
  · exact ⟨rfl, rfl⟩

private theorem parseHeaderByte_records (device : Device) (byte : UInt8) :
    Records Event.OfCallback device (device.parseHeaderByte byte) := by
  unfold parseHeaderByte
  dsimp only
  split <;> try exact .of_trace rfl
  · exact .of_log rfl trivial
  · split
    · split <;> exact .of_trace rfl
    · split
      · exact .of_log rfl trivial
      · exact .of_trace rfl

theorem drainHeader_records (bytes : List UInt8) (device : Device) :
    Records Event.OfCallback device (drainHeader bytes device) := by
  apply drainHeader_preserves (Records Event.OfCallback device)
  · intro later byte recorded
    exact recorded.trans (parseHeaderByte_records later byte)
  · intro later fifo recorded
    exact recorded
  · exact .of_trace rfl

/-- The callback of a healthy UART drains the FIFO and queues the handler if
that ends in a payload. -/
theorem uartIrqCallback_eq {device : Device} (healthy : device.rxError = false) :
    device.uartIrqCallback =
      if (drainHeader device.rxFifo device).parsingState = .data then
        (drainHeader device.rxFifo device).submitWork
      else drainHeader device.rxFifo device := by
  simp only [uartIrqCallback, healthy, Bool.false_eq_true, if_false]

/-- The handler is queued only behind a complete header. -/
theorem drainHeader_queued {device : Device} (bytes : List UInt8)
    (queued : device.workPending = true → device.parsingState = .data) :
    (drainHeader bytes device).workPending = true →
      (drainHeader bytes device).parsingState = .data := by
  intro pending
  have inData := queued ((drainHeader_uart bytes device).2.symm.trans pending)
  rw [drainHeader_of_data inData]
  exact inData

theorem uartIrqCallback_queued {device : Device}
    (queued : device.workPending = true → device.parsingState = .data) :
    device.uartIrqCallback.workPending = true →
      device.uartIrqCallback.parsingState = .data := by
  unfold uartIrqCallback
  dsimp only
  split
  · split
    · next inData => exact fun _ => inData
    · exact queued
  · split
    · next inData => exact fun _ => inData
    · exact drainHeader_queued _ queued

theorem uartIrqCallback_records (device : Device) :
    Records Event.OfCallback device device.uartIrqCallback := by
  have drained := drainHeader_records device.rxFifo device
  unfold uartIrqCallback
  dsimp only
  split
  · split <;> exact .of_trace rfl
  · split <;> exact drained

private theorem parseHeaderByte_rxFifo (device : Device) (byte : UInt8)
    (fifo : List UInt8) :
    ({ device with rxFifo := fifo }).parseHeaderByte byte =
      { device.parseHeaderByte byte with rxFifo := fifo } := by
  unfold parseHeaderByte
  dsimp only
  split <;> try rfl
  split
  · split <;> rfl
  · split <;> rfl

/-- The loop replaces the FIFO, whatever it was. -/
theorem drainHeader_rxFifo (bytes : List UInt8) (device : Device)
    (fifo : List UInt8) :
    drainHeader bytes { device with rxFifo := fifo } =
      drainHeader bytes device := by
  induction bytes generalizing device with
  | nil => rfl
  | cons byte rest induction =>
      rw [drainHeader, drainHeader, parseHeaderByte_rxFifo]
      split
      · rfl
      · exact induction
          { device.parseHeaderByte byte with consumed := device.consumed + 1 }

/-- Bytes that arrive later continue what the earlier ones began. -/
theorem drainHeader_resume (first second : List UInt8) (device : Device) :
    drainHeader ((drainHeader first device).rxFifo ++ second)
        (drainHeader first device) =
      drainHeader (first ++ second) device := by
  induction first generalizing device with
  | nil => exact drainHeader_rxFifo second device []
  | cons byte rest induction =>
      rw [drainHeader, List.cons_append, drainHeader]
      by_cases inData : device.parsingState = .data
      · rw [if_pos inData, if_pos inData]
        rw [drainHeader_rxFifo, drainHeader_of_data inData]
        rfl
      · rw [if_neg inData, if_neg inData]
        exact induction _

/-- The device after a header that announces a payload, with `rest` behind it
in the FIFO. -/
def payloadExpected (device : Device) (header : SerialHeader)
    (rest : List UInt8) : Device :=
  { device.log (.typeByte device.consumed) with
    rxFifo := rest
    parsingState := .data
    serialHeader := header
    bytesRead := 0
    consumed := device.consumed + 4 }

theorem drainHeader_of_header {device : Device} {header : SerialHeader}
    (rest : List UInt8) (atType : device.parsingState = .type)
    (positive : 0 < header.length.val)
    (bounded : header.length.val ≤ serialMaxPayloadLen) :
    drainHeader (header.encode ++ rest) device =
      device.payloadExpected header rest := by
  have announced : device.headerParsed header =
      device.payloadExpected header device.rxFifo := by
    have notEmpty : ¬header.length.val = 0 := by omega
    have notLong : ¬header.length.val > serialMaxPayloadLen := by omega
    simp only [headerParsed, notEmpty, notLong, if_false]
    rfl
  have inData :
      (device.payloadExpected header device.rxFifo).parsingState = .data := rfl
  rw [drainHeader_encode device header rest atType, announced,
    drainHeader_of_data inData]
  rfl

/-- The callback reads a header that announces a payload and queues the
handler, whatever stands behind the header. -/
theorem uartIrqCallback_of_header (device : Device) (header : SerialHeader)
    (rest : List UInt8) (atType : device.parsingState = .type)
    (healthy : device.rxError = false)
    (fifo : device.rxFifo = header.encode ++ rest)
    (positive : 0 < header.length.val)
    (bounded : header.length.val ≤ serialMaxPayloadLen) :
    device.uartIrqCallback =
      (device.payloadExpected header rest).submitWork := by
  have drained := drainHeader_of_header rest atType positive bounded
  have reached : (device.payloadExpected header rest).parsingState = .data := rfl
  rw [uartIrqCallback_eq healthy, fifo, drained, if_pos reached]

end Device

end SerialLink
