import SerialLink.Host.Bus

/-!
# Frames at the host receiver

`receive` is what a complete frame does to the bus.  It is what `bus_rx_isr`
and the `bus_rx_work` it queues do with the frame's bytes.
-/

namespace SerialLink

private theorem bits_byte0 :
    ∀ (error : Fin 4) (host noAck : Fin 2) (type : Fin 16),
      error.val <<< 6 ||| host.val <<< 5 ||| noAck.val <<< 4 |||
          (type.val &&& 0x0F) =
        type.val + 16 * noAck.val + 32 * host.val + 64 * error.val := by
  decide

private theorem bits_byte1 :
    ∀ sequenceNumber reserved : Fin 16,
      sequenceNumber.val <<< 4 ||| (reserved.val &&& 0x0F) =
        reserved.val + 16 * sequenceNumber.val := by
  decide

private theorem toNat_lt_two (flag : Bool) : flag.toNat < 2 := by
  cases flag <;> decide

/-- The host writes the header the device reads. -/
theorem busHeaderEncode_eq (header : SerialHeader) :
    busHeaderEncode header = header.encode := by
  have byte0 := bits_byte0 ⟨_, header.error.toNat_lt⟩
    ⟨_, toNat_lt_two header.host⟩ ⟨_, toNat_lt_two header.noAck⟩
    ⟨_, header.type.toNat_lt⟩
  have byte1 := bits_byte1 header.sequenceNumber header.reserved
  have high : header.length.val >>> 8 = header.length.val / 256 :=
    Nat.shiftRight_eq_div_pow _ 8
  have low : header.length.val &&& 0xFF = header.length.val % 256 :=
    Nat.and_two_pow_sub_one_eq_mod _ 8
  dsimp only at byte0
  rw [busHeaderEncode, byte0, byte1, high, low]
  rfl

namespace Bus

/-- `hdr` and `rx_buf` hold a complete frame. -/
def holding (bus : Bus) (frame : Frame) : Bus :=
  { bus with
    hdr := frame.header
    rxBuf := Region.store bus.rxBuf 0 frame.payload
    bytesRead := frame.payload.length
    state := .data }

/-- The effect of a frame. -/
def receive (bus : Bus) (frame : Frame) : Bus :=
  (bus.holding frame).completeFrame

/-- The bus behind the first bytes of a payload, the rest of which has not
arrived. -/
def readPart (bus : Bus) (frame : Frame) (count : Nat) : Bus :=
  { bus with
    hdr := frame.header
    rxBuf := Region.store bus.rxBuf 0 (frame.payload.take count)
    bytesRead := count
    state := .data }

theorem rxPayload_holding (bus : Bus) (frame : Frame) :
    (bus.holding frame).rxPayload frame.header.length.val = frame.payload := by
  rw [frame.length_eq]
  exact Region.slice_store_self bus.rxBuf 0 frame.payload

variable {bus : Bus} {frame : Frame} {rest : List UInt8}

/-- The bus behind the four bytes of a header. -/
def headerParsed (bus : Bus) (header : SerialHeader) : Bus :=
  let bus := { bus with hdr := header, bytesRead := 0 }
  if header.length.val > serialMaxPayloadLen then
    { bus.busSendAck header.type header.sequenceNumber .lengthTooLong with
      state := .type }
  else { bus with state := .data }

private theorem or_eq_decode (high low : UInt8) :
    (Fin.ofNat 65536 (high.toNat <<< 8)).val ||| low.toNat =
      high.toNat * 256 + low.toNat := by
  have highBound := high.toNat_lt
  have lowBound := low.toNat_lt
  have shifted : (Fin.ofNat 65536 (high.toNat <<< 8)).val =
      high.toNat <<< 8 := by
    rw [Nat.shiftLeft_eq]
    exact Nat.mod_eq_of_lt (by omega)
  rw [shifted, ← Nat.shiftLeft_add_eq_or_of_lt lowBound, Nat.shiftLeft_eq]

private theorem parse_four_bytes (bus : Bus) (byte0 byte1 high low : UInt8)
    (rest : List UInt8) (boundary : bus.state = .type) :
    drainHeader (byte0 :: byte1 :: high :: low :: rest) bus =
      drainHeader rest
        (bus.headerParsed (SerialHeader.decode byte0 byte1 high low)) := by
  have length := or_eq_decode high low
  have highBound := high.toNat_lt
  have lowBound := low.toNat_lt
  have small : high.toNat * 256 + low.toNat < 65536 := by omega
  simp only [drainHeader, parseHeaderByte, boundary, reduceCtorEq, if_false,
    length, busSendAck, busSendRaw]
  congr 1
  simp only [headerParsed, SerialHeader.decode, Fin.ofNat,
    Nat.mod_eq_of_lt small, busSendAck, busSendRaw]
  by_cases empty : high.toNat * 256 + low.toNat = 0
  · have short : ¬high.toNat * 256 + low.toNat > serialMaxPayloadLen := by
      rw [empty]
      exact Nat.not_lt_zero _
    simp only [if_pos empty, if_neg short]
  · by_cases long : high.toNat * 256 + low.toNat > serialMaxPayloadLen
    · simp only [if_neg empty, if_pos long]
    · simp only [if_neg empty, if_neg long]

theorem drainHeader_encode (bus : Bus) (header : SerialHeader)
    (rest : List UInt8) (boundary : bus.state = .type) :
    drainHeader (header.encode ++ rest) bus =
      drainHeader rest (bus.headerParsed header) := by
  have parsed := parse_four_bytes bus header.byte0 header.byte1
    header.lengthHigh header.lengthLow rest boundary
  rw [SerialHeader.decode_encode] at parsed
  exact parsed

theorem drainHeader_of_data (inData : bus.state = .data)
    (fifo : List UInt8) :
    drainHeader fifo bus = { bus with rxFifo := fifo } := by
  cases fifo with
  | nil => rfl
  | cons byte rest => simp only [drainHeader, inData, if_true]

/-- The invariant rule of the loop of `bus_rx_isr`. -/
theorem drainHeader_preserves (kept : Bus → Prop)
    (byteKept : ∀ bus byte, kept bus → kept (parseHeaderByte bus byte))
    (fifoKept : ∀ bus fifo, kept bus → kept { bus with rxFifo := fifo })
    {bus : Bus} (holds : kept bus) (bytes : List UInt8) :
    kept (drainHeader bytes bus) := by
  induction bytes generalizing bus with
  | nil => exact fifoKept bus [] holds
  | cons byte rest induction =>
      rw [drainHeader]
      split
      · exact fifoKept bus (byte :: rest) holds
      · apply induction
        exact byteKept bus byte holds

/-- Reading a header byte does not involve the FIFO it came from. -/
theorem parseHeaderByte_fifo (bus : Bus) (byte : UInt8)
    (fifo : List UInt8) :
    ({ bus with rxFifo := fifo }).parseHeaderByte byte =
      { bus.parseHeaderByte byte with rxFifo := fifo } := by
  unfold parseHeaderByte
  dsimp only
  split <;> try rfl
  split
  · rfl
  · split <;> rfl

theorem parseHeaderByte_pending (bus : Bus) (byte : UInt8)
    (pending : Bool) :
    ({ bus with rxWorkPending := pending }).parseHeaderByte byte =
      { bus.parseHeaderByte byte with rxWorkPending := pending } := by
  unfold parseHeaderByte
  dsimp only
  split <;> try rfl
  split
  · rfl
  · split <;> rfl

theorem drainHeader_fifo (bytes : List UInt8) (bus : Bus)
    (fifo : List UInt8) :
    drainHeader bytes { bus with rxFifo := fifo } = drainHeader bytes bus := by
  induction bytes generalizing bus with
  | nil => rfl
  | cons byte rest induction =>
      rw [drainHeader, drainHeader, parseHeaderByte_fifo]
      split
      · rfl
      · exact induction (bus.parseHeaderByte byte)

theorem drainHeader_pending (bytes : List UInt8) (bus : Bus)
    (pending : Bool) :
    drainHeader bytes { bus with rxWorkPending := pending } =
      { drainHeader bytes bus with rxWorkPending := pending } := by
  induction bytes generalizing bus with
  | nil => rfl
  | cons byte rest induction =>
      rw [drainHeader, drainHeader, parseHeaderByte_pending]
      split
      · rfl
      · exact induction (bus.parseHeaderByte byte)

/-- The bus behind the header of a frame, with its payload in the FIFO. -/
def behindHeader (bus : Bus) (frame : Frame) (rest : List UInt8) : Bus :=
  { bus with
    rxFifo := frame.payload ++ rest
    hdr := frame.header
    bytesRead := 0
    state := .data
    rxWorkPending := true }

/-- `bus_rx_isr` on a header. -/
theorem busRxIsr_encode {header : SerialHeader} {behind : List UInt8}
    (boundary : bus.state = .type)
    (bounded : header.length.val ≤ serialMaxPayloadLen)
    (fifo : bus.rxFifo = header.encode ++ behind) :
    bus.busRxIsr =
      { bus with
        rxFifo := behind
        hdr := header
        bytesRead := 0
        state := .data
        rxWorkPending := true } := by
  have short : ¬header.length.val > serialMaxPayloadLen :=
    Nat.not_lt.mpr bounded
  have parsed : drainHeader bus.rxFifo bus =
      { bus.headerParsed header with rxFifo := behind } := by
    rw [fifo, drainHeader_encode _ _ _ boundary]
    apply drainHeader_of_data
    simp only [headerParsed, if_neg short]
  simp only [busRxIsr, parsed, headerParsed, if_neg short, if_true]

/-- `bus_rx_isr` on the bytes of a frame. -/
theorem busRxIsr_frame (boundary : bus.state = .type)
    (bounded : frame.payload.length ≤ serialMaxPayloadLen)
    (fifo : bus.rxFifo = frame.encode ++ rest) :
    bus.busRxIsr = bus.behindHeader frame rest := by
  rw [Frame.encode, List.append_assoc] at fifo
  exact busRxIsr_encode boundary (frame.length_eq ▸ bounded) fifo

/-- `bus_rx_work` on the payload of a frame. -/
theorem busRxWork_behindHeader :
    (bus.behindHeader frame rest).takeWork.busRxWork =
      ({ bus with rxFifo := rest, rxWorkPending := false }).receive frame := by
  have whole : frame.header.length.val = frame.payload.length :=
    frame.length_eq
  simp only [busRxWork, readPayload, behindHeader, takeWork, receive, holding,
    whole, Nat.sub_zero, List.take_left', List.drop_left', Nat.zero_add,
    Nat.lt_irrefl, if_false]

/-- A complete frame in the FIFO is received as a whole. -/
theorem receive_of_bytes (boundary : bus.state = .type)
    (bounded : frame.payload.length ≤ serialMaxPayloadLen)
    (fifo : bus.rxFifo = frame.encode ++ rest) :
    bus.busRxIsr.takeWork.busRxWork =
      ({ bus with rxFifo := rest, rxWorkPending := false }).receive frame := by
  rw [busRxIsr_frame boundary bounded fifo]
  exact busRxWork_behindHeader

/-- `bus_rx_work` on the first bytes of a payload. -/
theorem readPart_of_bytes {count : Nat} (boundary : bus.state = .type)
    (part : count < frame.payload.length)
    (bounded : frame.payload.length ≤ serialMaxPayloadLen)
    (fifo : bus.rxFifo = frame.header.encode ++ frame.payload.take count) :
    bus.busRxIsr.takeWork.busRxWork =
      ({ bus with rxFifo := [], rxWorkPending := false }).readPart frame
        count := by
  have whole : frame.header.length.val = frame.payload.length :=
    frame.length_eq
  have stored : (frame.payload.take count).length = count :=
    List.length_take_of_le (Nat.le_of_lt part)
  have fits : (frame.payload.take count).length ≤ frame.payload.length :=
    List.length_take_le' ..
  rw [busRxIsr_encode boundary (whole ▸ bounded) fifo]
  simp only [takeWork, busRxWork, readPayload, whole, Nat.sub_zero,
    List.take_of_length_le fits, List.drop_eq_nil_of_le fits, Nat.zero_add,
    stored, if_pos part, readPart]

/-- `bus_rx_work` on further bytes of the payload. -/
theorem readPart_of_more {first count : Nat} (more : first ≤ count)
    (part : count < frame.payload.length)
    (fifo : bus.rxFifo = (frame.payload.drop first).take (count - first)) :
    (bus.readPart frame first).takeWork.busRxWork =
      (({ bus with rxFifo := [], rxWorkPending := false }).readPart frame
        first).readPart frame count := by
  have whole : frame.header.length.val = frame.payload.length :=
    frame.length_eq
  have stored : (frame.payload.take first).length = first :=
    List.length_take_of_le (by omega)
  have next : bus.rxFifo.length = count - first := by
    rw [fifo, List.length_take, List.length_drop]
    omega
  have fits : bus.rxFifo.length ≤ frame.payload.length - first := by omega
  have extended : frame.payload.take count =
      frame.payload.take first ++ bus.rxFifo := by
    rw [fifo, ← List.take_add, Nat.add_sub_cancel' more]
  have both := Region.store_append bus.rxBuf 0 (frame.payload.take first)
    bus.rxFifo
  rw [stored, Nat.zero_add, ← extended] at both
  have again := @Region.store_store _ bus.rxBuf 0 (frame.payload.take first)
    (frame.payload.take count) (by simp only [List.length_take]; omega)
  simp only [busRxWork, readPayload, readPart, takeWork, whole,
    List.take_of_length_le fits, List.drop_eq_nil_of_le fits, both, again,
    next, Nat.add_sub_cancel' more, if_pos part]

/-- The rest of a payload completes the frame; its parts are stored as the
whole is. -/
theorem receive_of_rest {count : Nat} (part : count ≤ frame.payload.length)
    (fifo : bus.rxFifo = frame.payload.drop count ++ rest) :
    (bus.readPart frame count).takeWork.busRxWork =
      (({ bus with rxFifo := rest, rxWorkPending := false }).readPart frame
        count).receive frame := by
  have whole : frame.header.length.val = frame.payload.length :=
    frame.length_eq
  have left : (frame.payload.drop count).length =
      frame.payload.length - count := List.length_drop
  have stored : (frame.payload.take count).length = count :=
    List.length_take_of_le part
  have both := Region.store_append bus.rxBuf 0 (frame.payload.take count)
    (frame.payload.drop count)
  rw [stored, Nat.zero_add, List.take_append_drop] at both
  have again := @Region.store_store _ bus.rxBuf 0
    (frame.payload.take count) frame.payload (List.length_take_le' ..)
  simp only [busRxWork, readPayload, readPart, takeWork, receive, holding,
    fifo, whole, ← left, List.take_left', List.drop_left', both, again]
  rw [left, Nat.add_sub_cancel' part, if_neg (Nat.lt_irrefl _)]

/-- The waiting thread is woken, if there is one. -/
def wakeIfPending (bus : Bus) : Bus :=
  if bus.requestPending then bus.wake else bus

theorem receive_invalid {errno : Errno}
    (invalid : busValidateRx frame.header = .error errno) :
    bus.receive frame = (bus.holding frame).resetParser := by
  have same : (bus.holding frame).hdr = frame.header := rfl
  simp only [receive, completeFrame, same, invalid]

theorem receive_empty (valid : busValidateRx frame.header = .ok ())
    (empty : frame.header.length.val = 0) :
    bus.receive frame = (bus.holding frame).wakeIfPending.resetParser := by
  have same : (bus.holding frame).hdr = frame.header := rfl
  simp only [receive, completeFrame, same, valid, if_pos empty]
  rfl

theorem receive_data (valid : busValidateRx frame.header = .ok ())
    (nonempty : frame.header.length.val ≠ 0) :
    bus.receive frame = (bus.holding frame).dispatchData.resetParser := by
  have same : (bus.holding frame).hdr = frame.header := rfl
  simp only [receive, completeFrame, same, valid, if_neg nonempty]

/-- The three things a frame can be. -/
theorem receive_cases (bus : Bus) (frame : Frame) :
    (∃ errno, busValidateRx frame.header = .error errno ∧
      bus.receive frame = (bus.holding frame).resetParser) ∨
    (busValidateRx frame.header = .ok () ∧ frame.header.length.val = 0 ∧
      bus.receive frame = (bus.holding frame).wakeIfPending.resetParser) ∨
    (busValidateRx frame.header = .ok () ∧ frame.header.length.val ≠ 0 ∧
      bus.receive frame = (bus.holding frame).dispatchData.resetParser) := by
  cases valid : busValidateRx frame.header with
  | error errno => exact .inl ⟨errno, rfl, receive_invalid valid⟩
  | ok _ =>
      by_cases empty : frame.header.length.val = 0
      · exact .inr (.inl ⟨rfl, empty, receive_empty valid empty⟩)
      · exact .inr (.inr ⟨rfl, empty, receive_data valid empty⟩)

/-- What the thread has to itself. -/
structure SameThread (left right : Bus) : Prop where
  thread : left.thread = right.thread
  txSeq : left.txSeq = right.txSeq
  requestPending : left.requestPending = right.requestPending
  results : left.results = right.results
  opened : left.opened = right.opened
  handler : left.handler = right.handler

/-- A frame leaves the thread where it is. -/
theorem receive_sameThread (bus : Bus) (frame : Frame) :
    SameThread (bus.receive frame) bus := by
  rcases receive_cases bus frame with
    ⟨_, _, received⟩ | ⟨_, _, received⟩ | ⟨_, _, received⟩
  · rw [received]
    exact ⟨rfl, rfl, rfl, rfl, rfl, rfl⟩
  · rw [received, wakeIfPending]
    split <;> exact ⟨rfl, rfl, rfl, rfl, rfl, rfl⟩
  · rw [received, dispatchData, deliver, acknowledge]
    split <;> split <;> exact ⟨rfl, rfl, rfl, rfl, rfl, rfl⟩

/-- The frame as `received` lists it. -/
def frameData (frame : Frame) : List (SerialType × List UInt8) :=
  if frame.header.length.val = 0 then []
  else [(frame.header.type, frame.payload)]

/-- What a frame does to the mailbox and the records. -/
inductive Receives (bus : Bus) (frame : Frame) (later : Bus) : Prop where
  | ignored
      (unheard : busValidateRx frame.header ≠ .ok () ∨
        frame.header.length.val = 0 ∧ bus.requestPending = false)
      (sem : later.rxSem = bus.rxSem) (last : later.lastHdr = bus.lastHdr)
      (received : later.received = bus.received)
      (disposals : later.disposals = bus.disposals)
  | woken (valid : busValidateRx frame.header = .ok ())
      (pending : bus.requestPending = true)
      (sem : later.rxSem = true) (last : later.lastHdr = frame.header)
      (received : later.received = bus.received ++ frameData frame)
      (disposals : later.disposals = bus.disposals)
  | passedOn (valid : busValidateRx frame.header = .ok ())
      (pending : bus.requestPending = false)
      (nonempty : frame.header.length.val ≠ 0)
      (sem : later.rxSem = bus.rxSem) (last : later.lastHdr = bus.lastHdr)
      (received : later.received = bus.received ++ frameData frame)
      (disposals : later.disposals = bus.disposals ++
        [(if bus.handler frame.header.type then .handled else .unhandled,
          frame.header.type, frame.payload)])

theorem receive_rxBuf (bus : Bus) (frame : Frame) :
    (bus.receive frame).rxBuf = Region.store bus.rxBuf 0 frame.payload := by
  rcases receive_cases bus frame with
    ⟨_, _, received⟩ | ⟨_, _, received⟩ | ⟨_, _, received⟩
  · rw [received]
    rfl
  · rw [received, wakeIfPending]
    split <;> rfl
  · rw [received, dispatchData, deliver, acknowledge]
    split <;> split <;> rfl

/-- Behind a frame the parser stands at the next one. -/
theorem completeFrame_boundary (bus : Bus) :
    bus.completeFrame.state = .type ∧
      bus.completeFrame.rxFifo = bus.rxFifo ∧
      bus.completeFrame.rxWorkPending = bus.rxWorkPending := by
  rw [completeFrame]
  split
  · exact ⟨rfl, rfl, rfl⟩
  · split
    · split <;> exact ⟨rfl, rfl, rfl⟩
    · rw [dispatchData, deliver, acknowledge]
      split <;> split <;> exact ⟨rfl, rfl, rfl⟩

theorem receive_boundary (bus : Bus) (frame : Frame) :
    (bus.receive frame).state = .type ∧
      (bus.receive frame).rxFifo = bus.rxFifo ∧
      (bus.receive frame).rxWorkPending = bus.rxWorkPending :=
  completeFrame_boundary (bus.holding frame)

private theorem dispatchData_pending (pending : bus.requestPending = true) :
    bus.dispatchData = bus.recordFrame.acknowledge.wake := by
  have still : bus.recordFrame.acknowledge.requestPending = true := by
    rw [acknowledge]
    split <;> exact pending
  rw [dispatchData, deliver, if_pos still]

private theorem dispatchData_idle (idle : bus.requestPending = false) :
    bus.dispatchData = bus.recordFrame.acknowledge.callHandler bus.hdr.type
      (bus.rxPayload bus.hdr.length.val) := by
  have still : bus.recordFrame.acknowledge.requestPending = false := by
    rw [acknowledge]
    split <;> exact idle
  rw [dispatchData, deliver, if_neg (by rw [still]; exact Bool.false_ne_true)]
  rw [acknowledge]
  split <;> rfl

theorem receives (bus : Bus) (frame : Frame) :
    Receives bus frame (bus.receive frame) := by
  rcases receive_cases bus frame with
    ⟨_, invalid, received⟩ | ⟨valid, empty, received⟩ |
      ⟨valid, nonempty, received⟩
  · rw [received]
    refine .ignored (.inl ?_) rfl rfl rfl rfl
    rw [invalid]
    exact nofun
  · have none : frameData frame = [] := if_pos empty
    rw [received, wakeIfPending]
    split
    · rename_i pending
      refine .woken valid pending rfl rfl ?_ rfl
      rw [none]
      exact (List.append_nil _).symm
    · rename_i idle
      exact .ignored (.inr ⟨empty, Bool.eq_false_iff.mpr idle⟩) rfl rfl rfl rfl
  · have one : frameData frame = [(frame.header.type, frame.payload)] :=
      if_neg nonempty
    have payload := rxPayload_holding bus frame
    have recorded : (bus.holding frame).recordFrame.received =
        bus.received ++ frameData frame := by
      rw [one, ← payload]
      rfl
    cases pending : bus.requestPending with
    | true =>
        have held : (bus.holding frame).requestPending = true := pending
        rw [received, dispatchData_pending held, acknowledge]
        split <;> exact .woken valid pending rfl rfl recorded rfl
    | false =>
        have held : (bus.holding frame).requestPending = false := pending
        rw [received, dispatchData_idle held, acknowledge]
        have passed : bus.disposals ++ [(if bus.handler frame.header.type
            then Fate.handled else .unhandled, frame.header.type,
              (bus.holding frame).rxPayload frame.header.length.val)] =
            bus.disposals ++ [(if bus.handler frame.header.type
              then Fate.handled else .unhandled, frame.header.type,
                frame.payload)] := by
          rw [payload]
        split <;>
          exact .passedOn valid pending nonempty rfl rfl recorded passed

/-- A valid frame wakes the thread that has a request pending. -/
theorem receive_wakes (valid : busValidateRx frame.header = .ok ())
    (pending : bus.requestPending = true) :
    (bus.receive frame).rxSem = true ∧
      (bus.receive frame).lastHdr = frame.header := by
  cases receives bus frame with
  | ignored unheard =>
      rcases unheard with invalid | ⟨_, idle⟩
      · exact absurd valid invalid
      · rw [pending] at idle
        cases idle
  | woken _ _ sem last => exact ⟨sem, last⟩
  | passedOn _ idle =>
      rw [pending] at idle
      cases idle

theorem length_of_valid (valid : busValidateRx frame.header = .ok ()) :
    frame.header.length.val ≤ busRxBufSize := by
  simp only [busValidateRx] at valid
  split at valid
  · cases valid
  · split at valid
    · cases valid
    · split at valid
      · cases valid
      · rename_i short
        exact Nat.not_lt.mp short

/-- A frame is answered with an acknowledgement or not at all. -/
theorem completeFrame_wire (bus : Bus) :
    bus.completeFrame.wire = bus.wire ∨
      bus.completeFrame.wire = bus.wire ++
        [(.ack, ackHeader bus.hdr.type bus.hdr.sequenceNumber .noError,
          [])] := by
  rw [completeFrame]
  split
  · exact .inl rfl
  · split
    · apply Or.inl
      split <;> rfl
    · rw [dispatchData, deliver, acknowledge]
      split
      · split <;> exact .inl rfl
      · split <;> exact .inr rfl

theorem completeFrame_thread (bus : Bus) :
    bus.completeFrame.thread = bus.thread := by
  rw [completeFrame]
  split
  · rfl
  · split
    · split <;> rfl
    · rw [dispatchData, deliver, acknowledge]
      split <;> split <;> rfl

end Bus

end SerialLink
