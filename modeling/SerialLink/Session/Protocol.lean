import SerialLink.Wire

/-!
# The frames of the command-line host

The types and codecs of `protocol.rs`.  Its `SerialType` has the nine named
values only; here a frame carries the proof that its type is one of them.
`parse_eq` tells the parser's bit operations in terms of the header of `Wire`,
and through it the frames the device writes are those the host reads.
-/

namespace SerialLink

namespace SerialType

theorem known_ofBits (value : Nat) :
    (ofBits value).known = decide (value % 16 < 9) := by
  have named : ∀ low : Fin 16,
      (ofBits low.val).known = decide (low.val < 9) := by decide
  rw [← ofBits_mod]
  exact named ⟨value % 16, Nat.mod_lt _ (by decide)⟩

/-- `SerialType::from_u8` -/
def fromU8 (value : UInt8) : Option { type : SerialType // type.known } :=
  if named : value.toNat < 9 then
    some ⟨ofBits value.toNat, by
      rw [known_ofBits, Nat.mod_eq_of_lt (by omega)]
      exact decide_eq_true named⟩
  else none

end SerialType

namespace Protocol

/-- `MAX_PAYLOAD_LEN` -/
def maxPayloadLen : Nat := 4096

/-- `Frame` -/
structure Frame where
  rtype : SerialType
  rtype_known : rtype.known = true
  noAck : Bool
  host : Bool
  error : ErrorType
  seq : UInt8
  payload : List UInt8
  deriving DecidableEq, Repr

namespace Frame

/-- `Frame::parse` -/
def parse : List UInt8 → Option Frame
  | byte0 :: byte1 :: high :: low :: payload =>
      let length := high.toNat * 256 + low.toNat
      if length > maxPayloadLen ∨ payload.length + 4 ≠ 4 + length then none
      else
        match SerialType.fromU8 (byte0 &&& 0x0F) with
        | none => none
        | some rtype =>
            if byte1 &&& 0x0F ≠ 0 then none
            else
              some
                { rtype := rtype.val
                  rtype_known := rtype.property
                  noAck := byte0 &&& ((1 : UInt8) <<< 4) != 0
                  host := byte0 &&& ((1 : UInt8) <<< 5) != 0
                  error := ErrorType.ofBits (byte0 >>> 6).toNat
                  seq := (byte1 >>> 4) &&& 0x0F
                  payload }
  | _ => none

/-- `Frame::encode_host_frame` -/
def encodeHostFrame (rtype : SerialType) (seq : UInt8)
    (payload : List UInt8) : List UInt8 :=
  let length := payload.length % 65536
  [UInt8.ofNat rtype.toNat, (seq &&& 0x0F) <<< 4, UInt8.ofNat (length / 256),
    UInt8.ofNat (length % 256)] ++ payload

/-- `Frame::protocol_info_query` -/
def protocolInfoQuery (seq : UInt8) : List UInt8 :=
  encodeHostFrame .protocolInfo seq [0]

/-- A frame of the wire as the parser returns it. -/
def ofHeader (header : SerialHeader) (known : header.type.known = true)
    (payload : List UInt8) : Frame where
  rtype := header.type
  rtype_known := known
  noAck := header.noAck
  host := header.host
  error := header.error
  seq := UInt8.ofNat header.sequenceNumber.val
  payload := payload

end Frame

/-- `ProtocolInfo` -/
structure ProtocolInfo where
  version : UInt8
  supportedTypesMask : Nat
  nextSeq : UInt8
  deriving DecidableEq, Repr

/-- `ProtocolInfo::try_from` -/
def ProtocolInfo.tryFrom (frame : Frame) : Option ProtocolInfo :=
  if frame.rtype ≠ .protocolInfo ∨ frame.error ≠ .noError then none
  else
    match frame.payload with
    | [version, low, high, nextSeq] =>
        some
          { version
            supportedTypesMask := low.toNat + high.toNat * 256
            nextSeq }
    | _ => none

section Bits

private theorem flags_of_byte : ∀ byte : Fin 256,
    (UInt8.ofFin byte &&& ((1 : UInt8) <<< 4) != 0) =
        (byte.val / 16 % 2 == 1) ∧
      (UInt8.ofFin byte &&& ((1 : UInt8) <<< 5) != 0) =
        (byte.val / 32 % 2 == 1) ∧
      (UInt8.ofFin byte >>> 6).toNat = byte.val / 64 ∧
      (UInt8.ofFin byte >>> 4) &&& 0x0F =
        UInt8.ofNat (byte.val / 16 % 16) := by
  decide +kernel

private theorem flags_eq (byte : UInt8) :
    (byte &&& ((1 : UInt8) <<< 4) != 0) = (byte.toNat / 16 % 2 == 1) ∧
      (byte &&& ((1 : UInt8) <<< 5) != 0) = (byte.toNat / 32 % 2 == 1) ∧
      (byte >>> 6).toNat = byte.toNat / 64 ∧
      (byte >>> 4) &&& 0x0F = UInt8.ofNat (byte.toNat / 16 % 16) :=
  flags_of_byte byte.toFin

theorem and_low_toNat (byte : UInt8) :
    (byte &&& 0x0F).toNat = byte.toNat % 16 := by
  rw [UInt8.toNat_and]
  exact Nat.and_two_pow_sub_one_eq_mod _ 4

theorem and_low_eq_zero (byte : UInt8) :
    byte &&& 0x0F = 0 ↔ byte.toNat % 16 = 0 := by
  rw [← and_low_toNat, ← UInt8.toNat_inj]
  rfl

private theorem shifted_of_byte : ∀ byte : Fin 256,
    (UInt8.ofFin byte &&& 0x0F) <<< 4 =
      UInt8.ofNat (16 * (byte.val % 16)) := by
  decide +kernel

theorem low_shifted (byte : UInt8) :
    (byte &&& 0x0F) <<< 4 = UInt8.ofNat (16 * (byte.toNat % 16)) :=
  shifted_of_byte byte.toFin

private theorem next_of_low : ∀ value : Fin 16,
    ((UInt8.ofNat value.val + 1) &&& 0x0F).toNat = seqNext value.val := by
  decide

/-- The two ways to count to 15. -/
theorem succ_and_low {seq : UInt8} (bounded : seq.toNat ≤ sequenceNumberMax) :
    ((seq + 1) &&& 0x0F).toNat = seqNext seq.toNat := by
  unfold sequenceNumberMax at bounded
  have next := next_of_low ⟨seq.toNat, by omega⟩
  rw [UInt8.ofNat_toNat] at next
  exact next

end Bits

namespace Frame

/-- The parser reads the header of `Wire`. -/
theorem parse_eq (byte0 byte1 high low : UInt8) (payload : List UInt8) :
    parse (byte0 :: byte1 :: high :: low :: payload) =
      let header := SerialHeader.decode byte0 byte1 high low
      if known : header.type.known = true then
        if header.length.val ≤ maxPayloadLen ∧
            payload.length = header.length.val ∧ header.reserved = 0 then
          some (ofHeader header known payload)
        else none
      else none := by
  obtain ⟨noAck, host, error, -⟩ := flags_eq byte0
  obtain ⟨-, -, -, seq⟩ := flags_eq byte1
  have highBound := high.toNat_lt
  have lowBound := low.toNat_lt
  have length : (SerialHeader.decode byte0 byte1 high low).length.val =
      high.toNat * 256 + low.toNat := Nat.mod_eq_of_lt (by omega)
  have type : (SerialHeader.decode byte0 byte1 high low).type =
      SerialType.ofBits byte0.toNat := rfl
  have reserved : (SerialHeader.decode byte0 byte1 high low).reserved = 0 ↔
      byte1 &&& 0x0F = 0 := by
    rw [and_low_eq_zero, Fin.ext_iff]
    rfl
  have named : (byte0 &&& 0x0F).toNat < 9 ↔
      (SerialType.ofBits byte0.toNat).known = true := by
    rw [SerialType.known_ofBits, and_low_toNat, decide_eq_true_eq]
  have bits : SerialType.ofBits (byte0 &&& 0x0F).toNat =
      SerialType.ofBits byte0.toNat := by
    rw [and_low_toNat, SerialType.ofBits_mod]
  unfold parse SerialType.fromU8
  dsimp only
  rw [length]
  by_cases whole : high.toNat * 256 + low.toNat > maxPayloadLen ∨
      payload.length + 4 ≠ 4 + (high.toNat * 256 + low.toNat)
  · have misfit : ¬(high.toNat * 256 + low.toNat ≤ maxPayloadLen ∧
        payload.length = high.toNat * 256 + low.toNat ∧
        (SerialHeader.decode byte0 byte1 high low).reserved = 0) := by
      omega
    simp only [if_pos whole, if_neg misfit, dite_eq_ite, ite_self]
  · rw [if_neg whole]
    by_cases known : (SerialType.ofBits byte0.toNat).known = true
    · simp only [dif_pos (named.mpr known), type, dif_pos known]
      by_cases zero : byte1 &&& 0x0F = 0
      · have fits : high.toNat * 256 + low.toNat ≤ maxPayloadLen ∧
            payload.length = high.toNat * 256 + low.toNat ∧
            (SerialHeader.decode byte0 byte1 high low).reserved = 0 := by
          refine ⟨by omega, by omega, reserved.mpr zero⟩
        simp only [zero, ne_eq, not_true_eq_false, if_false, if_pos fits]
        simp only [ofHeader, SerialHeader.decode, bits, noAck, host, error, seq]
        rfl
      · have misfit : ¬(high.toNat * 256 + low.toNat ≤ maxPayloadLen ∧
            payload.length = high.toNat * 256 + low.toNat ∧
            (SerialHeader.decode byte0 byte1 high low).reserved = 0) := by
          rintro ⟨-, -, none⟩
          exact zero (reserved.mp none)
        simp only [ne_eq, zero, not_false_eq_true, if_true, if_neg misfit]
    · simp only [dif_neg (fun small => known (named.mp small)), type,
        dif_neg known]

/-- The parser accepts every frame with a known type, no reserved bits and a
legal length. -/
theorem parse_encode (frame : SerialLink.Frame)
    (known : frame.header.type.known = true)
    (reserved : frame.header.reserved = 0)
    (bounded : frame.payload.length ≤ maxPayloadLen) :
    parse frame.encode = some (ofHeader frame.header known frame.payload) := by
  have parsed := parse_eq frame.header.byte0 frame.header.byte1
    frame.header.lengthHigh frame.header.lengthLow frame.payload
  rw [SerialHeader.decode_encode] at parsed
  have fits : frame.header.length.val ≤ maxPayloadLen ∧
      frame.payload.length = frame.header.length.val ∧
      frame.header.reserved = 0 := by
    rw [frame.length_eq]
    exact ⟨bounded, rfl, reserved⟩
  simp only [dif_pos known, if_pos fits] at parsed
  exact parsed

/-- A host frame is a frame of the wire. -/
theorem encodeHostFrame_eq (rtype : SerialType) (seq : UInt8)
    (payload : List UInt8) (bounded : payload.length < 65536) :
    encodeHostFrame rtype seq payload =
      (SerialLink.Frame.ofPayload rtype (Fin.ofNat 16 seq.toNat) payload
        bounded).encode := by
  have shifted := low_shifted seq
  simp [encodeHostFrame, SerialLink.Frame.encode, SerialLink.Frame.ofPayload,
    SerialHeader.encode, SerialHeader.byte0, SerialHeader.byte1,
    SerialHeader.lengthHigh, SerialHeader.lengthLow, ErrorType.toNat, shifted,
    Nat.mod_eq_of_lt bounded, Fin.ofNat]

/-- What a receiver reads of a host frame. -/
def ofHost (rtype : SerialType) (known : rtype.known = true) (seq : UInt8)
    (payload : List UInt8) : Frame where
  rtype := rtype
  rtype_known := known
  noAck := false
  host := false
  error := .noError
  seq := UInt8.ofNat (seq.toNat % 16)
  payload := payload

theorem parse_encodeHostFrame {rtype : SerialType}
    (known : rtype.known = true) (seq : UInt8) {payload : List UInt8}
    (bounded : payload.length ≤ maxPayloadLen) :
    parse (encodeHostFrame rtype seq payload) =
      some (ofHost rtype known seq payload) := by
  rw [encodeHostFrame_eq rtype seq payload
    (Nat.lt_of_le_of_lt bounded (by decide))]
  exact parse_encode _ known rfl bounded

end Frame

end Protocol

end SerialLink
