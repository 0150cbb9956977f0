import SerialLink.Device.HeaderParsing
import SerialLink.Host.Reception
import SerialLink.Session.Protocol

/-!
# The codecs of the header

The header is read and written in five places: `bus_header_encode` and
`bus_header_decode`, the two interrupt routines that take it apart byte by
byte, and `Frame::parse` of the command-line host.  All of them are compared
with `SerialHeader.decode`, and through it with each other.
-/

namespace SerialLink

section Bytes

private theorem decoded_of_byte : ∀ byte : Fin 256,
    SerialType.ofBits (UInt8.ofFin byte &&& 0x0F).toNat =
        SerialType.ofBits byte.val ∧
      ((UInt8.ofFin byte >>> 4) &&& 0x1 != 0) = (byte.val / 16 % 2 == 1) ∧
      ((UInt8.ofFin byte >>> 5) &&& 0x1 != 0) = (byte.val / 32 % 2 == 1) ∧
      ErrorType.ofBits ((UInt8.ofFin byte >>> 6) &&& 0x3).toNat =
        ErrorType.ofBits (byte.val / 64) ∧
      Fin.ofNat 16 (UInt8.ofFin byte &&& 0x0F).toNat =
        Fin.ofNat 16 byte.val ∧
      Fin.ofNat 16 ((UInt8.ofFin byte >>> 4) &&& 0x0F).toNat =
        Fin.ofNat 16 (byte.val / 16) := by
  decide +kernel

private theorem encoded_of_byte : ∀ byte : Fin 256,
    UInt8.ofNat ((SerialType.ofBits byte.val).toNat +
        16 * (byte.val / 16 % 2 == 1).toNat +
        32 * (byte.val / 32 % 2 == 1).toNat +
        64 * (ErrorType.ofBits (byte.val / 64)).toNat) = UInt8.ofFin byte ∧
      UInt8.ofNat ((Fin.ofNat 16 byte.val).val +
        16 * (Fin.ofNat 16 (byte.val / 16)).val) = UInt8.ofFin byte := by
  decide +kernel

/-- The two length bytes as `bus_header_decode` puts them together. -/
private theorem shiftLeft_or_eq (high low : UInt8) :
    high.toNat <<< 8 ||| low.toNat = high.toNat * 256 + low.toNat := by
  rw [← Nat.shiftLeft_add_eq_or_of_lt low.toNat_lt, Nat.shiftLeft_eq]

end Bytes

theorem busHeaderDecode_eq (in0 in1 in2 in3 : UInt8) :
    busHeaderDecode in0 in1 in2 in3 =
      SerialHeader.decode in0 in1 in2 in3 := by
  obtain ⟨type, noAck, host, error, -, -⟩ := decoded_of_byte in0.toFin
  obtain ⟨-, -, -, -, reserved, sequenceNumber⟩ := decoded_of_byte in1.toFin
  simp only [busHeaderDecode, SerialHeader.decode]
  congr 1
  rw [shiftLeft_or_eq]

/-- Every four bytes are the encoding of the header read from them. -/
theorem SerialHeader.encode_decode (in0 in1 high low : UInt8) :
    (SerialHeader.decode in0 in1 high low).encode =
      [in0, in1, high, low] := by
  have first : (decode in0 in1 high low).byte0 = in0 :=
    (encoded_of_byte in0.toFin).1
  have second : (decode in0 in1 high low).byte1 = in1 :=
    (encoded_of_byte in1.toFin).2
  have highBound := high.toNat_lt
  have lowBound := low.toNat_lt
  have length : (decode in0 in1 high low).length.val =
      high.toNat * 256 + low.toNat := Nat.mod_eq_of_lt (by omega)
  have third : (decode in0 in1 high low).lengthHigh = high := by
    rw [lengthHigh, length]
    rw [show (high.toNat * 256 + low.toNat) / 256 = high.toNat by omega]
    exact UInt8.ofNat_toNat
  have fourth : (decode in0 in1 high low).lengthLow = low := by
    rw [lengthLow, length]
    rw [show (high.toNat * 256 + low.toNat) % 256 = low.toNat by omega]
    exact UInt8.ofNat_toNat
  rw [encode, first, second, third, fourth]

theorem busHeaderDecode_encode (header : SerialHeader) :
    busHeaderEncode header =
        [header.byte0, header.byte1, header.lengthHigh, header.lengthLow] ∧
      busHeaderDecode header.byte0 header.byte1 header.lengthHigh
        header.lengthLow = header := by
  constructor
  · exact busHeaderEncode_eq header
  · rw [busHeaderDecode_eq]
    exact SerialHeader.decode_encode header

theorem busHeaderEncode_decode (in0 in1 in2 in3 : UInt8) :
    busHeaderEncode (busHeaderDecode in0 in1 in2 in3) =
      [in0, in1, in2, in3] := by
  rw [busHeaderEncode_eq, busHeaderDecode_eq]
  exact SerialHeader.encode_decode in0 in1 in2 in3

namespace Bus

/-- Bytes that arrive later continue what the earlier ones began. -/
private theorem drainHeader_continue (first second : List UInt8) (bus : Bus) :
    drainHeader ((drainHeader first bus).rxFifo ++ second)
        (drainHeader first bus) =
      drainHeader (first ++ second) bus := by
  induction first generalizing bus with
  | nil => exact drainHeader_fifo second bus []
  | cons byte rest induction =>
      rw [drainHeader, List.cons_append, drainHeader]
      by_cases inData : bus.state = .data
      · rw [if_pos inData, if_pos inData]
        rw [drainHeader_fifo, drainHeader_of_data inData]
        rfl
      · rw [if_neg inData, if_neg inData]
        exact induction (bus.parseHeaderByte byte)

/-- Bytes become readable and the interrupt is served. -/
def interrupt (bus : Bus) (chunk : List UInt8) : Bus :=
  ({ bus with rxFifo := bus.rxFifo ++ chunk }).busRxIsr

private theorem busRxIsr_eq (bus : Bus) :
    ∃ pending, bus.busRxIsr =
      { drainHeader bus.rxFifo bus with rxWorkPending := pending } := by
  rw [busRxIsr]
  split
  · exact ⟨true, rfl⟩
  · exact ⟨_, rfl⟩

private theorem interrupts_eq (chunks : List (List UInt8)) (bus origin : Bus)
    (read : List UInt8) (pending : Bool)
    (reached : bus =
      { drainHeader read origin with rxWorkPending := pending }) :
    ∃ pending, chunks.foldl interrupt bus =
      { drainHeader (read ++ chunks.flatten) origin with
        rxWorkPending := pending } := by
  induction chunks generalizing bus read pending with
  | nil =>
      refine ⟨pending, ?_⟩
      rw [List.flatten_nil, List.append_nil]
      exact reached
  | cons chunk chunks induction =>
      obtain ⟨next, served⟩ :=
        busRxIsr_eq { bus with rxFifo := bus.rxFifo ++ chunk }
      have continued : bus.interrupt chunk =
          { drainHeader (read ++ chunk) origin with
            rxWorkPending := next } := by
        rw [interrupt, served, ← drainHeader_continue read chunk origin,
          drainHeader_fifo, reached, drainHeader_pending]
      rw [List.foldl_cons, List.flatten_cons, ← List.append_assoc]
      exact induction _ (read ++ chunk) next continued

/-- The header `bus_rx_isr` has read, over whatever it held before. -/
theorem interrupts_hdr {bus : Bus} {chunks : List (List UInt8)}
    {in0 in1 in2 in3 : UInt8} (boundary : bus.state = .type)
    (drained : bus.rxFifo = [])
    (bytes : chunks.flatten = [in0, in1, in2, in3]) :
    (chunks.foldl interrupt bus).hdr = busHeaderDecode in0 in1 in2 in3 := by
  have start : bus = { drainHeader [] bus with
      rxWorkPending := bus.rxWorkPending } := by
    rw [drainHeader, ← drained]
  obtain ⟨pending, fed⟩ := interrupts_eq chunks bus bus [] _ start
  rw [fed, List.nil_append, bytes, busHeaderDecode_eq]
  have encoded := SerialHeader.encode_decode in0 in1 in2 in3
  rw [← encoded, ← List.append_nil (SerialHeader.encode _),
    drainHeader_encode _ _ _ boundary, drainHeader, headerParsed]
  split <;> rfl

end Bus

namespace Device

private theorem parseHeaderByte_pending (device : Device) (byte : UInt8)
    (pending : Bool) :
    ({ device with workPending := pending }).parseHeaderByte byte =
      { device.parseHeaderByte byte with workPending := pending } := by
  unfold parseHeaderByte
  dsimp only
  split <;> try rfl
  split
  · split <;> rfl
  · split <;> rfl

private theorem drainHeader_pending (bytes : List UInt8) (device : Device)
    (pending : Bool) :
    drainHeader bytes { device with workPending := pending } =
      { drainHeader bytes device with workPending := pending } := by
  induction bytes generalizing device with
  | nil => rfl
  | cons byte rest induction =>
      rw [drainHeader, drainHeader, parseHeaderByte_pending]
      split
      · rfl
      · exact induction
          { device.parseHeaderByte byte with consumed := device.consumed + 1 }

/-- Bytes become readable and the interrupt is served. -/
def interrupt (device : Device) (chunk : List UInt8) : Device :=
  (device.arrive chunk).uartIrqCallback

private theorem uartIrqCallback_drains {device : Device}
    (healthy : device.rxError = false) :
    ∃ pending, device.uartIrqCallback =
      { drainHeader device.rxFifo device with workPending := pending } := by
  rw [uartIrqCallback_eq healthy]
  split
  · exact ⟨true, rfl⟩
  · exact ⟨_, rfl⟩

private theorem interrupts_eq (chunks : List (List UInt8))
    (device origin : Device) (read : List UInt8) (pending : Bool)
    (healthy : origin.rxError = false)
    (reached : device =
      { drainHeader read origin with workPending := pending }) :
    ∃ pending, chunks.foldl interrupt device =
      { drainHeader (read ++ chunks.flatten) origin with
        workPending := pending } := by
  induction chunks generalizing device read pending with
  | nil =>
      refine ⟨pending, ?_⟩
      rw [List.flatten_nil, List.append_nil]
      exact reached
  | cons chunk chunks induction =>
      have working : (device.arrive chunk).rxError = false := by
        rw [reached]
        exact (drainHeader_uart read origin).1.trans healthy
      obtain ⟨next, served⟩ := uartIrqCallback_drains working
      have continued : device.interrupt chunk =
          { drainHeader (read ++ chunk) origin with workPending := next } := by
        rw [interrupt, served, ← drainHeader_resume read chunk origin]
        rw [arrive, drainHeader_rxFifo, reached, drainHeader_pending]
      rw [List.foldl_cons, List.flatten_cons, ← List.append_assoc]
      exact induction _ (read ++ chunk) next continued

/-- The header `uart_irq_callback` has read, over whatever it held before. -/
theorem interrupts_serialHeader {device : Device}
    {chunks : List (List UInt8)} {in0 in1 in2 in3 : UInt8}
    (boundary : device.parsingState = .type)
    (healthy : device.rxError = false) (drained : device.rxFifo = [])
    (bytes : chunks.flatten = [in0, in1, in2, in3]) :
    (chunks.foldl interrupt device).serialHeader =
      busHeaderDecode in0 in1 in2 in3 := by
  have start : device = { drainHeader [] device with
      workPending := device.workPending } := by
    rw [drainHeader, ← drained]
  obtain ⟨pending, fed⟩ := interrupts_eq chunks device device [] _ healthy start
  rw [fed, List.nil_append, bytes, busHeaderDecode_eq]
  have encoded := SerialHeader.encode_decode in0 in1 in2 in3
  rw [← encoded, ← List.append_nil (SerialHeader.encode _),
    drainHeader_encode _ _ _ boundary, drainHeader, headerParsed]
  split
  · split <;> rfl
  · split <;> rfl

end Device

namespace Protocol.Frame

/-- A frame of the command-line host with the fields of a header. -/
structure Carries (frame : Frame) (header : SerialHeader)
    (payload : List UInt8) : Prop where
  rtype : frame.rtype = header.type
  noAck : frame.noAck = header.noAck
  host : frame.host = header.host
  error : frame.error = header.error
  seq : frame.seq.toNat = header.sequenceNumber.val
  payload : frame.payload = payload

theorem carries_iff {frame : Frame} {header : SerialHeader}
    {payload : List UInt8} (known : header.type.known = true) :
    Carries frame header payload ↔ frame = ofHeader header known payload := by
  have small := header.sequenceNumber.isLt
  have number : (UInt8.ofNat header.sequenceNumber.val).toNat =
      header.sequenceNumber.val := by
    rw [UInt8.toNat_ofNat']
    omega
  constructor
  · rintro ⟨rtype, noAck, host, error, seq, body⟩
    cases frame
    simp only [ofHeader, mk.injEq]
    refine ⟨rtype, noAck, host, error, ?_, body⟩
    apply UInt8.toNat_inj.mp
    exact seq.trans number.symm
  · intro equality
    rw [equality]
    exact ⟨rfl, rfl, rfl, rfl, number, rfl⟩

theorem busValidateRx_ok_iff (header : SerialHeader) :
    busValidateRx header = .ok () ↔
      header.type.known = true ∧ header.reserved = 0 ∧
        header.length.val ≤ maxPayloadLen := by
  have limits : maxPayloadLen = serialMaxPayloadLen := rfl
  rw [busValidateRx, limits]
  split
  · simp_all
  · split
    · simp_all
    · split
      · simp_all
      · simp_all

/-- The parser accepts what has the declared length and a header that
`bus_validate_rx` accepts. -/
theorem parse_eq_some_iff (data : List UInt8) (frame : Frame) :
    parse data = some frame ↔
      ∃ in0 in1 in2 in3 payload,
        data = in0 :: in1 :: in2 :: in3 :: payload ∧
        data.length = 4 + (busHeaderDecode in0 in1 in2 in3).length.val ∧
        busValidateRx (busHeaderDecode in0 in1 in2 in3) = .ok () ∧
        frame.Carries (busHeaderDecode in0 in1 in2 in3) payload := by
  constructor
  · intro parsed
    match data with
    | in0 :: in1 :: in2 :: in3 :: payload =>
        refine ⟨in0, in1, in2, in3, payload, rfl, ?_⟩
        rw [parse_eq] at parsed
        rw [busHeaderDecode_eq, busValidateRx_ok_iff]
        simp only [List.length_cons]
        dsimp only at parsed
        split at parsed
        · rename_i known
          split at parsed
          · rename_i fits
            obtain ⟨bounded, whole, reserved⟩ := fits
            refine ⟨by omega, ⟨known, reserved, bounded⟩, ?_⟩
            rw [carries_iff known]
            exact (Option.some.inj parsed).symm
          · cases parsed
        · cases parsed
    | [] | [_] | [_, _] | [_, _, _] => cases parsed
  · rintro ⟨in0, in1, in2, in3, payload, bytes, whole, valid, carries⟩
    subst bytes
    rw [busHeaderDecode_eq] at whole valid carries
    obtain ⟨known, reserved, bounded⟩ := (busValidateRx_ok_iff _).mp valid
    simp only [List.length_cons] at whole
    rw [parse_eq]
    simp only [dif_pos known]
    rw [if_pos ⟨bounded, by omega, reserved⟩]
    exact congrArg some ((carries_iff known).mp carries).symm

/-- `Frame::encode_host_frame` with its `debug_assert!`, which stays in the
program if `debugAssertions` are compiled in; `none` is the panic. -/
def encodeHostFrameOrPanic (debugAssertions : Bool) (rtype : SerialType)
    (seq : UInt8) (payload : List UInt8) : Option (List UInt8) :=
  if debugAssertions = true ∧ payload = [] then none
  else some (encodeHostFrame rtype seq payload)

theorem encodeHostFrameOrPanic_eq {debugAssertions : Bool}
    {payload : List UInt8}
    (legal : debugAssertions = true → payload ≠ [])
    (rtype : SerialType) (seq : UInt8) :
    encodeHostFrameOrPanic debugAssertions rtype seq payload =
      some (encodeHostFrame rtype seq payload) := by
  rw [encodeHostFrameOrPanic, if_neg]
  rintro ⟨asserted, empty⟩
  exact legal asserted empty

/-- A payload over the limit is refused, also where the 16 bits of the length
field make it look short. -/
theorem parse_encodeHostFrame_long (rtype : SerialType) (seq : UInt8)
    {payload : List UInt8} (long : maxPayloadLen < payload.length) :
    parse (encodeHostFrame rtype seq payload) = none := by
  have field : (UInt8.ofNat (payload.length % 65536 / 256)).toNat * 256 +
      (UInt8.ofNat (payload.length % 65536 % 256)).toNat =
        payload.length % 65536 := by
    rw [UInt8.toNat_ofNat', UInt8.toNat_ofNat']
    omega
  have misfit : payload.length % 65536 > maxPayloadLen ∨
      payload.length + 4 ≠ 4 + payload.length % 65536 := by
    omega
  simp only [encodeHostFrame, List.cons_append, List.nil_append, parse, field,
    if_pos misfit]

/-- A frame without flags is encoded as the bytes it was read from. -/
theorem encodeHostFrame_of_parse {data : List UInt8} {frame : Frame}
    (parsed : parse data = some frame) (wantsAck : frame.noAck = false)
    (fromHost : frame.host = false) (noError : frame.error = .noError) :
    encodeHostFrame frame.rtype frame.seq frame.payload = data := by
  obtain ⟨in0, in1, in2, in3, payload, rfl, whole, valid, carries⟩ :=
    (parse_eq_some_iff data frame).mp parsed
  rw [busHeaderDecode_eq] at whole valid carries
  obtain ⟨known, reserved, bounded⟩ := (busValidateRx_ok_iff _).mp valid
  have length : (SerialHeader.decode in0 in1 in2 in3).length.val =
      payload.length := by
    simp only [List.length_cons] at whole
    omega
  have short : payload.length < 65536 := by
    rw [← length]
    exact Fin.isLt _
  have number : Fin.ofNat 16 frame.seq.toNat =
      (SerialHeader.decode in0 in1 in2 in3).sequenceNumber := by
    rw [carries.seq]
    exact Fin.ext (Nat.mod_eq_of_lt (Fin.isLt _))
  have header : (SerialLink.Frame.ofPayload frame.rtype
      (Fin.ofNat 16 frame.seq.toNat) payload short).header =
        SerialHeader.decode in0 in1 in2 in3 := by
    rw [number, carries.rtype]
    rw [carries.noAck] at wantsAck
    rw [carries.host] at fromHost
    rw [carries.error] at noError
    cases decoded : SerialHeader.decode in0 in1 in2 in3
    rw [decoded] at wantsAck fromHost noError reserved length
    simp only [SerialLink.Frame.ofPayload, SerialHeader.mk.injEq]
    exact ⟨trivial, wantsAck.symm, fromHost.symm, noError.symm,
      reserved.symm, trivial, Fin.ext length.symm⟩
  rw [carries.payload, encodeHostFrame_eq _ _ _ short, SerialLink.Frame.encode,
    header, SerialHeader.encode_decode]
  rfl

/-- The codec as it would be for every payload: what is encoded is read back,
or refused if it is too long, and a frame without flags is encoded as the
bytes it was read from. -/
structure RoundTrips (debugAssertions : Bool) : Prop where
  decodes : ∀ (rtype : SerialType) (known : rtype.known = true) (seq : UInt8)
    (payload : List UInt8), ∃ data,
      encodeHostFrameOrPanic debugAssertions rtype seq payload = some data ∧
      parse data =
        if payload.length ≤ maxPayloadLen then
          some (ofHost rtype known seq payload)
        else none
  encodes : ∀ (data : List UInt8) (frame : Frame), parse data = some frame →
    frame.noAck = false → frame.host = false → frame.error = .noError →
      encodeHostFrameOrPanic debugAssertions frame.rtype frame.seq
        frame.payload = some data

/-- Both directions of the round trip hold for all payloads the encoder is to
be called with: all of them, or the ones that are not empty where the
assertion is compiled in. -/
theorem codec_round_trip (debugAssertions : Bool) :
    (∀ (rtype : SerialType) (known : rtype.known = true) (seq : UInt8)
      (payload : List UInt8), (debugAssertions = true → payload ≠ []) →
      ∃ data,
        encodeHostFrameOrPanic debugAssertions rtype seq payload =
          some data ∧
        parse data =
          if payload.length ≤ maxPayloadLen then
            some (ofHost rtype known seq payload)
          else none) ∧
    ∀ (data : List UInt8) (frame : Frame), parse data = some frame →
      frame.noAck = false → frame.host = false → frame.error = .noError →
      (debugAssertions = true → frame.payload ≠ []) →
        encodeHostFrameOrPanic debugAssertions frame.rtype frame.seq
          frame.payload = some data := by
  constructor
  · intro rtype known seq payload legal
    refine ⟨_, encodeHostFrameOrPanic_eq legal rtype seq, ?_⟩
    by_cases bounded : payload.length ≤ maxPayloadLen
    · rw [if_pos bounded]
      exact parse_encodeHostFrame known seq bounded
    · rw [if_neg bounded]
      exact parse_encodeHostFrame_long rtype seq (Nat.lt_of_not_le bounded)
  · intro data frame parsed wantsAck fromHost noError legal
    rw [encodeHostFrameOrPanic_eq legal,
      encodeHostFrame_of_parse parsed wantsAck fromHost noError]

/-- An HCI command with a number above 15, with the assertion compiled in. -/
theorem codec_round_trip_hci :
    ∃ data, encodeHostFrameOrPanic true .hci 21 [1, 3, 12, 0] = some data ∧
      parse data = some (ofHost .hci rfl 21 [1, 3, 12, 0]) ∧
      (ofHost .hci rfl 21 [1, 3, 12, 0]).seq = 5 := by
  obtain ⟨data, encoded, parsed⟩ := (codec_round_trip true).1 .hci rfl 21
    [1, 3, 12, 0] (by decide)
  exact ⟨data, encoded, parsed, rfl⟩

/-- An empty payload is within the limit, and encoding it panics where the
assertion is compiled in. -/
theorem not_roundTrips_asserted :
    encodeHostFrameOrPanic true .wifiMgmt 0 [] = none ∧
      ¬RoundTrips true := by
  refine ⟨rfl, ?_⟩
  intro trips
  obtain ⟨data, encoded, _⟩ := trips.decodes .wifiMgmt rfl 0 []
  cases encoded

end Protocol.Frame

/-- The five codecs are one. -/
theorem header_codecs_agree :
    (∀ header : SerialHeader, ∃ in0 in1 in2 in3,
      busHeaderEncode header = [in0, in1, in2, in3] ∧
        busHeaderDecode in0 in1 in2 in3 = header) ∧
    (∀ in0 in1 in2 in3,
      busHeaderEncode (busHeaderDecode in0 in1 in2 in3) =
        [in0, in1, in2, in3]) ∧
    (∀ (bus : Bus) (chunks : List (List UInt8)) (in0 in1 in2 in3 : UInt8),
      bus.state = .type → bus.rxFifo = [] →
      chunks.flatten = [in0, in1, in2, in3] →
        (chunks.foldl Bus.interrupt bus).hdr =
          busHeaderDecode in0 in1 in2 in3) ∧
    (∀ (device : Device) (chunks : List (List UInt8))
      (in0 in1 in2 in3 : UInt8),
      device.parsingState = .type → device.rxError = false →
      device.rxFifo = [] → chunks.flatten = [in0, in1, in2, in3] →
        (chunks.foldl Device.interrupt device).serialHeader =
          busHeaderDecode in0 in1 in2 in3) ∧
    ∀ (data : List UInt8) (frame : Protocol.Frame),
      Protocol.Frame.parse data = some frame ↔
        ∃ in0 in1 in2 in3 payload,
          data = in0 :: in1 :: in2 :: in3 :: payload ∧
          data.length = 4 + (busHeaderDecode in0 in1 in2 in3).length.val ∧
          busValidateRx (busHeaderDecode in0 in1 in2 in3) = .ok () ∧
          frame.Carries (busHeaderDecode in0 in1 in2 in3) payload := by
  refine ⟨?_, busHeaderEncode_decode, ?_, ?_,
    Protocol.Frame.parse_eq_some_iff⟩
  · intro header
    exact ⟨_, _, _, _, busHeaderDecode_encode header⟩
  · intro bus chunks in0 in1 in2 in3 boundary drained bytes
    exact Bus.interrupts_hdr boundary drained bytes
  · intro device chunks in0 in1 in2 in3 boundary healthy drained bytes
    exact Device.interrupts_serialHeader boundary healthy drained bytes

/-- A header of a `WIFI_MGMT` frame of 258 bytes, split over three
invocations of the device's interrupt routine. -/
theorem header_codecs_agree_split :
    ([[0x20], [0x30, 0x01], [0x02]].foldl Device.interrupt
        Device.boot).serialHeader =
      busHeaderDecode 0x20 0x30 0x01 0x02 :=
  header_codecs_agree.2.2.2.1 Device.boot [[0x20], [0x30, 0x01], [0x02]]
    0x20 0x30 0x01 0x02 rfl rfl rfl rfl

end SerialLink
