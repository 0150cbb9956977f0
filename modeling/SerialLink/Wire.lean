/-!
# The common link-layer header

Both ends of the serial link exchange frames with a four-byte header:

* byte 0: type (bits 0..3), no_ack (bit 4), host (bit 5), error (bits 6..7);
* byte 1: reserved (bits 0..3), sequence number (bits 4..7);
* bytes 2 and 3: payload length, high byte first.

`SerialHeader` stands for the device's `struct SerialHeader` and for the
host's `struct bus_header`, which have the same fields.
-/

namespace SerialLink

/-- `SERIAL_PROTOCOL_VERSION` -/
def serialProtocolVersion : Nat := 1

/-- `SERIAL_MAX_PAYLOAD_LEN` -/
def serialMaxPayloadLen : Nat := 4096

/-- `SEQUENCE_NUMBER_MAX` -/
def sequenceNumberMax : Nat := 15

-- With these, the literals of the bit-fields are the same terms in every
-- module, whatever else it imports.
instance neZero_nibble : @NeZero Nat Zero.ofOfNat0 16 := ⟨by decide⟩
instance neZero_length : @NeZero Nat Zero.ofOfNat0 65536 := ⟨by decide⟩

/-- `enum SerialType` as held by the four-bit type field.  The values from
`SERIAL_TYPE_UNKNOWN` (9) on have no name in the source. -/
inductive SerialType where
  | wifiMgmt
  | wifiData
  | netIfMgmt
  | hci
  | thread
  | netOffloading
  | atCmd
  | protocolInfo
  | vserial
  | unknown (excess : Fin 7)
  deriving DecidableEq, Repr

namespace SerialType

def toNat : SerialType → Nat
  | wifiMgmt => 0
  | wifiData => 1
  | netIfMgmt => 2
  | hci => 3
  | thread => 4
  | netOffloading => 5
  | atCmd => 6
  | protocolInfo => 7
  | vserial => 8
  | unknown excess => 9 + excess

/-- The type held by the low four bits of a value. -/
def ofBits (value : Nat) : SerialType :=
  match value % 16 with
  | 0 => wifiMgmt
  | 1 => wifiData
  | 2 => netIfMgmt
  | 3 => hci
  | 4 => thread
  | 5 => netOffloading
  | 6 => atCmd
  | 7 => protocolInfo
  | 8 => vserial
  | excess + 9 => unknown (Fin.ofNat 7 excess)

/-- `type < SERIAL_TYPE_UNKNOWN` -/
def known : SerialType → Bool
  | unknown _ => false
  | _ => true

theorem toNat_lt (type : SerialType) : type.toNat < 16 := by
  cases type <;> simp only [toNat] <;> omega

@[simp] theorem ofBits_toNat (type : SerialType) : ofBits type.toNat = type := by
  cases type with
  | unknown excess => revert excess; decide
  | _ => rfl

theorem ofBits_mod (value : Nat) : ofBits (value % 16) = ofBits value := by
  simp [ofBits]

end SerialType

/-- `enum ErrorType`, the two-bit error field. -/
inductive ErrorType where
  | noError
  | incorrectSequenceNumber
  | outOfBuffers
  | lengthTooLong
  deriving DecidableEq, Repr

namespace ErrorType

def toNat : ErrorType → Nat
  | noError => 0
  | incorrectSequenceNumber => 1
  | outOfBuffers => 2
  | lengthTooLong => 3

/-- The error held by the low two bits of a value. -/
def ofBits (value : Nat) : ErrorType :=
  match value % 4 with
  | 0 => noError
  | 1 => incorrectSequenceNumber
  | 2 => outOfBuffers
  | _ => lengthTooLong

theorem toNat_lt (error : ErrorType) : error.toNat < 4 := by
  cases error <;> decide

@[simp] theorem ofBits_toNat (error : ErrorType) : ofBits error.toNat = error := by
  cases error <;> rfl

end ErrorType

/-- `enum ParsingState` -/
inductive ParsingState where
  | type
  | sequenceNumber
  | length1
  | length2
  | data
  deriving DecidableEq, Repr

/-- The negative return codes of the modelled functions. -/
inductive Errno where
  | enodev
  | einval
  | emsgsize
  | enotsup
  | etimedout
  deriving DecidableEq, Repr

/-- The header fields with the ranges of their bit-fields. -/
structure SerialHeader where
  type : SerialType
  noAck : Bool
  host : Bool
  error : ErrorType
  reserved : Fin 16
  sequenceNumber : Fin 16
  length : Fin 65536
  deriving DecidableEq, Repr

namespace SerialHeader

/-- The first memory byte of the bit-fields. -/
def byte0 (header : SerialHeader) : UInt8 :=
  UInt8.ofNat (header.type.toNat + 16 * header.noAck.toNat +
    32 * header.host.toNat + 64 * header.error.toNat)

def byte1 (header : SerialHeader) : UInt8 :=
  UInt8.ofNat (header.reserved.val + 16 * header.sequenceNumber.val)

def lengthHigh (header : SerialHeader) : UInt8 :=
  UInt8.ofNat (header.length.val / 256)

def lengthLow (header : SerialHeader) : UInt8 :=
  UInt8.ofNat (header.length.val % 256)

/-- The header as it stands on the wire, the length big-endian. -/
def encode (header : SerialHeader) : List UInt8 :=
  [header.byte0, header.byte1, header.lengthHigh, header.lengthLow]

@[simp] theorem length_encode (header : SerialHeader) :
    header.encode.length = 4 := rfl

/-- `*(uint8_t *)&header = byte`: the four fields of the first byte. -/
def setByte0 (header : SerialHeader) (byte : UInt8) : SerialHeader :=
  { header with
    type := SerialType.ofBits byte.toNat
    noAck := byte.toNat / 16 % 2 == 1
    host := byte.toNat / 32 % 2 == 1
    error := ErrorType.ofBits (byte.toNat / 64) }

/-- The two fields of the second byte. -/
def setByte1 (header : SerialHeader) (byte : UInt8) : SerialHeader :=
  { header with
    reserved := Fin.ofNat 16 byte.toNat
    sequenceNumber := Fin.ofNat 16 (byte.toNat / 16) }

/-- A header read back from four wire bytes. -/
def decode (byte0 byte1 high low : UInt8) : SerialHeader :=
  { type := SerialType.ofBits byte0.toNat
    noAck := byte0.toNat / 16 % 2 == 1
    host := byte0.toNat / 32 % 2 == 1
    error := ErrorType.ofBits (byte0.toNat / 64)
    reserved := Fin.ofNat 16 byte1.toNat
    sequenceNumber := Fin.ofNat 16 (byte1.toNat / 16)
    length := Fin.ofNat 65536 (high.toNat * 256 + low.toNat) }

private theorem byte0_toNat (header : SerialHeader) :
    header.byte0.toNat = header.type.toNat + 16 * header.noAck.toNat +
      32 * header.host.toNat + 64 * header.error.toNat := by
  have typeBound := header.type.toNat_lt
  have errorBound := header.error.toNat_lt
  have noAckBound : header.noAck.toNat ≤ 1 := Bool.toNat_le _
  have hostBound : header.host.toNat ≤ 1 := Bool.toNat_le _
  simp only [byte0, UInt8.toNat_ofNat']
  omega

private theorem byte1_toNat (header : SerialHeader) :
    header.byte1.toNat =
      header.reserved.val + 16 * header.sequenceNumber.val := by
  simp only [byte1, UInt8.toNat_ofNat']
  omega

private theorem beq_one_of_toNat {value : Nat} {flag : Bool}
    (equality : value = flag.toNat) : (value == 1) = flag := by
  subst equality
  cases flag <;> rfl

/-- Every header is recovered from its wire bytes. -/
@[simp] theorem decode_encode (header : SerialHeader) :
    decode header.byte0 header.byte1 header.lengthHigh header.lengthLow =
      header := by
  have typeBound := header.type.toNat_lt
  have noAckBound : header.noAck.toNat ≤ 1 := Bool.toNat_le _
  have hostBound : header.host.toNat ≤ 1 := Bool.toNat_le _
  have typeEquality :
      SerialType.ofBits header.byte0.toNat = header.type := by
    rw [← SerialType.ofBits_mod, byte0_toNat]
    rw [show (header.type.toNat + 16 * header.noAck.toNat +
      32 * header.host.toNat + 64 * header.error.toNat) % 16 =
        header.type.toNat by omega]
    exact SerialType.ofBits_toNat header.type
  have noAckEquality :
      (header.byte0.toNat / 16 % 2 == 1) = header.noAck :=
    beq_one_of_toNat (by rw [byte0_toNat]; omega)
  have hostEquality :
      (header.byte0.toNat / 32 % 2 == 1) = header.host :=
    beq_one_of_toNat (by rw [byte0_toNat]; omega)
  have errorEquality :
      ErrorType.ofBits (header.byte0.toNat / 64) = header.error := by
    rw [show header.byte0.toNat / 64 = header.error.toNat by
      rw [byte0_toNat]; omega]
    exact ErrorType.ofBits_toNat header.error
  have reservedEquality :
      Fin.ofNat 16 header.byte1.toNat = header.reserved := by
    apply Fin.ext
    simp only [Fin.ofNat, byte1_toNat]
    omega
  have sequenceEquality :
      Fin.ofNat 16 (header.byte1.toNat / 16) = header.sequenceNumber := by
    apply Fin.ext
    simp only [Fin.ofNat, byte1_toNat]
    omega
  have lengthEquality :
      Fin.ofNat 65536
        (header.lengthHigh.toNat * 256 + header.lengthLow.toNat) =
          header.length := by
    apply Fin.ext
    simp only [Fin.ofNat, lengthHigh, lengthLow, UInt8.toNat_ofNat']
    omega
  cases header
  simp only [decode, typeEquality, noAckEquality, hostEquality,
    errorEquality, reservedEquality, sequenceEquality, lengthEquality]

end SerialHeader

/-- A frame: a header and exactly the declared number of payload bytes. -/
structure Frame where
  header : SerialHeader
  payload : List UInt8
  length_eq : header.length.val = payload.length

namespace Frame

/-- The frame `bus_send` and `bus_request` build for a payload. -/
def ofPayload (type : SerialType) (sequenceNumber : Fin 16)
    (payload : List UInt8) (bounded : payload.length < 65536) : Frame where
  header :=
    { type, noAck := false, host := false, error := .noError, reserved := 0
      sequenceNumber, length := ⟨payload.length, bounded⟩ }
  payload := payload
  length_eq := rfl

-- The payloads of frames that are written out in more than one module.
theorem nil_bounded : ([] : List UInt8).length < 65536 := by decide
theorem one_bounded : ([1] : List UInt8).length < 65536 := by decide
theorem oneTwo_bounded : ([1, 2] : List UInt8).length < 65536 := by decide

theorem payload_length_le (frame : Frame) : frame.payload.length ≤ 65535 := by
  rw [← frame.length_eq]
  omega

def encode (frame : Frame) : List UInt8 :=
  frame.header.encode ++ frame.payload

def encodeAll (frames : List Frame) : List UInt8 :=
  frames.flatMap encode

@[simp] theorem encodeAll_nil : encodeAll [] = [] := rfl

@[simp] theorem encodeAll_append (first second : List Frame) :
    encodeAll (first ++ second) = encodeAll first ++ encodeAll second := by
  simp [encodeAll]

@[simp] theorem encodeAll_cons (frame : Frame) (frames : List Frame) :
    encodeAll (frame :: frames) = frame.encode ++ encodeAll frames := rfl

end Frame

/-- The next number of the 0..15 sequence space: `bus_seq_next` on the host
and the same expression, written out, on the device. -/
def seqNext (sequence : Nat) : Nat :=
  if sequence ≥ sequenceNumberMax then 0 else sequence + 1

theorem seqNext_le (sequence : Nat) : seqNext sequence ≤ sequenceNumberMax := by
  unfold seqNext sequenceNumberMax
  split <;> omega

/-- Sequence numbers counted from the expected one. -/
def Consecutive : Nat → List Frame → Prop
  | _, [] => True
  | expected, frame :: frames =>
      frame.header.sequenceNumber.val = expected ∧
        Consecutive (seqNext expected) frames

/-- The number expected after a list of frames. -/
def expectedAfter (first : Nat) (frames : List Frame) : Nat :=
  frames.foldl (fun expected _ => seqNext expected) first

@[simp] theorem expectedAfter_concat (first : Nat) (frames : List Frame)
    (frame : Frame) :
    expectedAfter first (frames ++ [frame]) =
      seqNext (expectedAfter first frames) := by
  simp [expectedAfter]

theorem consecutive_concat {first : Nat} {frames : List Frame}
    {frame : Frame} (consecutive : Consecutive first frames)
    (next : frame.header.sequenceNumber.val = expectedAfter first frames) :
    Consecutive first (frames ++ [frame]) := by
  induction frames generalizing first with
  | nil => exact ⟨next, trivial⟩
  | cons head frames induction =>
      exact ⟨consecutive.1, induction consecutive.2 next⟩

end SerialLink
