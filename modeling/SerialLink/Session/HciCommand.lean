import SerialLink.Device.HciProxy
import SerialLink.Session.Coexist

/-!
# HCI commands from the command line to the controller

`hci raw` takes an opcode and parameters as hexadecimal text, and
`hci_request` sends the command as a packet of the H:4 format, which the proxy
of the device passes to the controller.  The bytes of the text are those of
the opcode from left to right, the higher one first; they are put together the
other way round.
-/

namespace SerialLink

namespace Protocol

/-- `u16::from_le_bytes` -/
def fromLeBytes (low high : UInt8) : UInt16 :=
  low.toUInt16 ||| (high.toUInt16 <<< 8)

/-- `char::is_whitespace`, the property `White_Space` of Unicode. -/
def isWhitespace (char : Char) : Bool :=
  let code := char.toNat
  decide (9 ≤ code ∧ code ≤ 13 ∨ code = 0x20 ∨ code = 0x85 ∨ code = 0xA0 ∨
    code = 0x1680 ∨ 0x2000 ≤ code ∧ code ≤ 0x200A ∨ code = 0x2028 ∨
    code = 0x2029 ∨ code = 0x202F ∨ code = 0x205F ∨ code = 0x3000)

/-- `char::to_digit` with radix 16, of a byte taken for a character. -/
def toDigit (byte : UInt8) : Option UInt32 :=
  if 0x30 ≤ byte ∧ byte ≤ 0x39 then some (byte - 0x30).toUInt32
  else if 0x61 ≤ byte ∧ byte ≤ 0x66 then some (byte - 0x57).toUInt32
  else if 0x41 ≤ byte ∧ byte ≤ 0x46 then some (byte - 0x37).toUInt32
  else none

/-- The loop of `parse_hex`, over chunks of two bytes. -/
def parseChunks (value : String) : List UInt8 → Except String (List UInt8)
  | first :: second :: rest =>
      match toDigit first with
      | none => .error ("invalid hex digit in " ++ value)
      | some hi =>
          match toDigit second with
          | none => .error ("invalid hex digit in " ++ value)
          | some lo =>
              match parseChunks value rest with
              | .error error => .error error
              | .ok out => .ok (((hi <<< 4) ||| lo).toUInt8 :: out)
  | _ => .ok []

/-- `cleaned`, as bytes. -/
def cleaned (text : List Char) : List UInt8 :=
  (text.filter fun char => !isWhitespace char).flatMap String.utf8EncodeChar

/-- `parse_hex` -/
def parseHex (value : String) : Except String (List UInt8) :=
  if (cleaned value.toList).length % 2 ≠ 0 then
    .error ("hex value has odd length: " ++ value)
  else parseChunks value (cleaned value.toList)

/-- `HciCmd::Raw` up to the request, or what the program dies with. -/
def hciRaw (opcode : String) (params : Option String) :
    Except String Command :=
  match parseHex opcode with
  | .error error => .error error
  | .ok [first, second] =>
      match params with
      | none => .ok (hciCommand (fromLeBytes first second) [])
      | some text =>
          match parseHex text with
          | .error error => .error error
          | .ok bytes => .ok (hciCommand (fromLeBytes first second) bytes)
  | .ok _ => .error "opcode must be exactly 2 hex bytes (e.g. 0103)"

section Specification

/-- A hexadecimal digit in either letter case. -/
def Denotes (char : Char) (digit : Fin 16) : Prop :=
  "0123456789abcdef".toList[digit.val]? = some char ∨
    "0123456789ABCDEF".toList[digit.val]? = some char

/-- Digits with any whitespace before, between and behind them. -/
inductive Spells : List Char → List (Fin 16) → Prop where
  | nil : Spells [] []
  | space {char : Char} {text : List Char} {digits : List (Fin 16)} :
      isWhitespace char = true → Spells text digits →
      Spells (char :: text) digits
  | digit {char : Char} {digit : Fin 16} {text : List Char}
      {digits : List (Fin 16)} :
      Denotes char digit → Spells text digits →
      Spells (char :: text) (digit :: digits)

/-- The two digits of every byte, the higher one first. -/
def nibbles (bytes : List UInt8) : List (Fin 16) :=
  bytes.flatMap fun byte =>
    [Fin.ofNat 16 (byte.toNat / 16), Fin.ofNat 16 (byte.toNat % 16)]

/-- The text is the bytes in hexadecimal. -/
def Written (text : String) (bytes : List UInt8) : Prop :=
  Spells text.toList (nibbles bytes)

/-- The two bytes of a value of 16 bits. -/
def highByte (value : UInt16) : UInt8 := UInt8.ofNat (value.toNat / 256)

def lowByte (value : UInt16) : UInt8 := UInt8.ofNat (value.toNat % 256)

/-- The command packet of the H:4 format: the opcode with the lower byte
first, the number of parameters and the parameters. -/
def commandPacket (opcode : UInt16) (params : List UInt8) : List UInt8 :=
  [0x01, lowByte opcode, highByte opcode, UInt8.ofNat params.length] ++
    params

/-- The parameters may be left out if there are none. -/
def ParamsWritten : Option String → List UInt8 → Prop
  | none, params => params = []
  | some text, params => Written text params

/-- The command is sent, and its completion is waited for. -/
def SendsRaw (opcode : UInt16) (params : List UInt8) (opcodeText : String)
    (paramsText : Option String) : Prop :=
  ∃ command, hciRaw opcodeText paramsText = .ok command ∧
    command.rtype = .hci ∧ command.payload = commandPacket opcode params ∧
    ∀ frame, command.matching frame = isHciCommandComplete opcode frame

end Specification

section Hexadecimal

/-- What is read of a character: that it is kept, and its digits. -/
private def readChar (char : Char) : Bool × List (Option UInt32) :=
  (!isWhitespace char, (String.utf8EncodeChar char).map toDigit)

private def readDigit (digit : Nat) : Bool × List (Option UInt32) :=
  (true, [some (UInt32.ofNat digit)])

private theorem lower_digits :
    "0123456789abcdef".toList.map readChar =
      (List.range 16).map readDigit := by
  decide

private theorem upper_digits :
    "0123456789ABCDEF".toList.map readChar =
      (List.range 16).map readDigit := by
  decide

private theorem readChar_of_digits {alphabet : List Char} {char : Char}
    {digit : Fin 16}
    (digits : alphabet.map readChar = (List.range 16).map readDigit)
    (found : alphabet[digit.val]? = some char) :
    readChar char = readDigit digit.val := by
  have read := congrArg (·[digit.val]?) digits
  simpa [found, digit.isLt] using read

/-- A digit is no whitespace, and one byte that has its value. -/
theorem Denotes.read {char : Char} {digit : Fin 16}
    (denotes : Denotes char digit) :
    isWhitespace char = false ∧
      (String.utf8EncodeChar char).map toDigit =
        [some (UInt32.ofNat digit.val)] := by
  have read : readChar char = readDigit digit.val := by
    rcases denotes with lower | upper
    · exact readChar_of_digits lower_digits lower
    · exact readChar_of_digits upper_digits upper
  obtain ⟨kept, digits⟩ := Prod.mk.inj read
  exact ⟨by simpa using kept, digits⟩

/-- The bytes behind the filter have the values of the digits. -/
theorem cleaned_digits {text : List Char} {digits : List (Fin 16)}
    (spells : Spells text digits) :
    (cleaned text).map toDigit =
      digits.map fun digit => some (UInt32.ofNat digit.val) := by
  induction spells with
  | nil => rfl
  | space white _ induction =>
      rw [← induction, cleaned, List.filter_cons_of_neg (by simp [white])]
      rfl
  | digit denotes _ induction =>
      obtain ⟨visible, read⟩ := denotes.read
      rw [List.map_cons, ← induction, cleaned,
        List.filter_cons_of_pos (by simp [visible]), List.flatMap_cons,
        List.map_append, read]
      rfl

private theorem joined_of_byte : ∀ byte : Fin 256,
    ((UInt32.ofNat (Fin.ofNat 16 (byte.val / 16)).val <<< 4) |||
        UInt32.ofNat (Fin.ofNat 16 (byte.val % 16)).val).toUInt8 =
      UInt8.ofFin byte := by
  decide +kernel

theorem joined_digits (byte : UInt8) :
    ((UInt32.ofNat (Fin.ofNat 16 (byte.toNat / 16)).val <<< 4) |||
      UInt32.ofNat (Fin.ofNat 16 (byte.toNat % 16)).val).toUInt8 = byte :=
  joined_of_byte byte.toFin

theorem parseChunks_nibbles (value : String) {chunks bytes : List UInt8}
    (digits : chunks.map toDigit =
      (nibbles bytes).map fun digit => some (UInt32.ofNat digit.val)) :
    parseChunks value chunks = .ok bytes := by
  induction bytes generalizing chunks with
  | nil =>
      obtain rfl : chunks = [] := by simpa [nibbles] using digits
      rfl
  | cons byte bytes induction =>
      match chunks with
      | [] => simp [nibbles] at digits
      | [first] => simp [nibbles] at digits
      | first :: second :: rest =>
          have split : nibbles (byte :: bytes) =
              Fin.ofNat 16 (byte.toNat / 16) ::
                Fin.ofNat 16 (byte.toNat % 16) :: nibbles bytes := rfl
          simp only [split, List.map_cons, List.cons.injEq] at digits
          obtain ⟨high, low, others⟩ := digits
          simp only [parseChunks, high, low, induction others, joined_digits]

theorem length_nibbles (bytes : List UInt8) :
    (nibbles bytes).length = 2 * bytes.length := by
  induction bytes with
  | nil => rfl
  | cons byte bytes induction =>
      rw [nibbles, List.flatMap_cons, List.length_append, ← nibbles, induction,
        List.length_cons, List.length_cons, List.length_cons, List.length_nil]
      omega

/-- Text in hexadecimal is read as the bytes it is written for. -/
theorem parseHex_written {text : String} {bytes : List UInt8}
    (written : Written text bytes) : parseHex text = .ok bytes := by
  have digits := cleaned_digits written
  have lengths := congrArg List.length digits
  rw [List.length_map, List.length_map, length_nibbles] at lengths
  rw [parseHex, if_neg (by omega)]
  exact parseChunks_nibbles text digits

end Hexadecimal

section Bytes

theorem fromLeBytes_toNat (low high : UInt8) :
    (fromLeBytes low high).toNat = low.toNat + 256 * high.toNat := by
  have lowBound := low.toNat_lt
  have highBound := high.toNat_lt
  have shifted : (high.toNat <<< 8) % 65536 = 2 ^ 8 * high.toNat := by
    rw [Nat.shiftLeft_eq]
    omega
  simp only [fromLeBytes, UInt16.toNat_or, UInt16.toNat_shiftLeft,
    UInt8.toNat_toUInt16]
  show low.toNat ||| (high.toNat <<< 8) % 65536 = _
  rw [shifted, Nat.or_comm, ← Nat.two_pow_add_eq_or_of_lt lowBound]
  omega

theorem and_low_toUInt8 (value : UInt16) :
    (value &&& 0xFF).toUInt8 = lowByte value := by
  have low : value.toNat &&& 255 = value.toNat % 256 :=
    Nat.and_two_pow_sub_one_eq_mod _ 8
  rw [lowByte, ← UInt8.toNat_inj, UInt16.toNat_toUInt8, UInt16.toNat_and]
  show (value.toNat &&& 255) % 256 = _
  rw [low, UInt8.toNat_ofNat']

theorem shift_high_toUInt8 (value : UInt16) :
    (value >>> 8).toUInt8 = highByte value := by
  rw [highByte, ← UInt8.toNat_inj, UInt16.toNat_toUInt8,
    UInt16.toNat_shiftRight]
  show (value.toNat >>> 8) % 256 = _
  rw [Nat.shiftRight_eq_div_pow, UInt8.toNat_ofNat']

theorem bytes_fromLeBytes (low high : UInt8) :
    lowByte (fromLeBytes low high) = low ∧
      highByte (fromLeBytes low high) = high := by
  have lowBound := low.toNat_lt
  have highBound := high.toNat_lt
  rw [lowByte, highByte, fromLeBytes_toNat]
  constructor
  · rw [← UInt8.toNat_inj, UInt8.toNat_ofNat']
    omega
  · rw [← UInt8.toNat_inj, UInt8.toNat_ofNat']
    omega

/-- A value is put together from its bytes, the lower one first. -/
theorem fromLeBytes_bytes (value : UInt16) :
    fromLeBytes (lowByte value) (highByte value) = value := by
  have bounded := value.toNat_lt
  rw [← UInt16.toNat_inj, fromLeBytes_toNat, lowByte, highByte,
    UInt8.toNat_ofNat', UInt8.toNat_ofNat']
  omega

theorem hciCommandPacket_eq (opcode : UInt16) (params : List UInt8) :
    hciCommandPacket opcode params = commandPacket opcode params := by
  rw [hciCommandPacket, and_low_toUInt8, shift_high_toUInt8]
  rfl

end Bytes

section Raw

variable {opcode : UInt16} {params : List UInt8} {opcodeText : String}
  {paramsText : Option String}

theorem hciRaw_written
    (opcodeWritten : Written opcodeText [highByte opcode, lowByte opcode])
    (paramsWritten : ParamsWritten paramsText params) :
    hciRaw opcodeText paramsText =
      .ok (hciCommand (fromLeBytes (highByte opcode) (lowByte opcode))
        params) := by
  unfold hciRaw
  rw [parseHex_written opcodeWritten]
  cases paramsText with
  | none =>
      obtain rfl : params = [] := paramsWritten
      rfl
  | some text =>
      have parsed : parseHex text = .ok params :=
        parseHex_written paramsWritten
      simp only [parsed]

/-- The opcode is sent as it is written just when its bytes are equal. -/
theorem sendsRaw_iff
    (opcodeWritten : Written opcodeText [highByte opcode, lowByte opcode])
    (paramsWritten : ParamsWritten paramsText params) :
    SendsRaw opcode params opcodeText paramsText ↔
      highByte opcode = lowByte opcode := by
  have issued := hciRaw_written opcodeWritten paramsWritten
  constructor
  · rintro ⟨command, sent, -, packet, -⟩
    obtain rfl := Except.ok.inj (issued.symm.trans sent)
    have first := congrArg (·[1]?) packet
    rw [hciCommand, hciCommandPacket_eq] at first
    have swapped : lowByte (fromLeBytes (highByte opcode)
        (lowByte opcode)) = lowByte opcode := Option.some.inj first
    rwa [(bytes_fromLeBytes _ _).1] at swapped
  · intro same
    have whole : fromLeBytes (highByte opcode) (lowByte opcode) =
        opcode := by
      have joined := fromLeBytes_bytes opcode
      rw [same] at joined ⊢
      exact joined
    rw [whole] at issued
    exact ⟨hciCommand opcode params, issued, rfl,
      hciCommandPacket_eq opcode params, fun _ => rfl⟩

theorem exitPeriodicInquiry_sent :
    Written "0404" [highByte 0x0404, lowByte 0x0404] ∧
      ParamsWritten (some " 0a F\tF") [0x0A, 0xFF] ∧
      SendsRaw 0x0404 [0x0A, 0xFF] "0404" (some " 0a F\tF") := by
  have opcodeWritten :
      Written "0404" [highByte 0x0404, lowByte 0x0404] :=
    .digit (.inl rfl) (.digit (.inl rfl) (.digit (.inl rfl)
      (.digit (.inl rfl) .nil)))
  have paramsWritten : ParamsWritten (some " 0a F\tF") [0x0A, 0xFF] :=
    .space rfl (.digit (.inl rfl) (.digit (.inl rfl) (.space rfl
      (.digit (.inr rfl) (.space rfl (.digit (.inr rfl) .nil))))))
  exact ⟨opcodeWritten, paramsWritten,
    (sendsRaw_iff opcodeWritten paramsWritten).mpr rfl⟩

/-- `HCI_Reset` as it is documented. -/
theorem reset_swapped :
    Written "0c03" [highByte 0x0C03, lowByte 0x0C03] ∧
      (∃ command, hciRaw "0c03" none = .ok command ∧
        command.payload = [0x01, 0x0C, 0x03, 0x00]) ∧
      commandPacket 0x0C03 [] = [0x01, 0x03, 0x0C, 0x00] ∧
      ¬SendsRaw 0x0C03 [] "0c03" none := by
  have written : Written "0c03" [highByte 0x0C03, lowByte 0x0C03] :=
    .digit (.inl rfl) (.digit (.inl rfl) (.digit (.inl rfl)
      (.digit (.inl rfl) .nil)))
  have issued := hciRaw_written written
    (show ParamsWritten none [] from rfl)
  refine ⟨written, ⟨_, issued, by decide⟩, by decide, ?_⟩
  rintro ⟨command, sent, -, packet, -⟩
  obtain rfl := Except.ok.inj (issued.symm.trans sent)
  revert packet
  decide

end Raw

section Path

/-- A command is a packet of the proxy's format if its parameters can be
counted in a byte. -/
theorem packetWith_commandPacket (opcode : UInt16) (params : List UInt8) :
    HciProxy.packetWith 1 (commandPacket opcode params) =
      if params.length ≤ 255 then
        some { type := .cmd, bytes := (commandPacket opcode params).tail }
      else none := by
  have counted : params.length = (UInt8.ofNat params.length).toNat ↔
      params.length ≤ 255 := by
    rw [UInt8.toNat_ofNat']
    omega
  simp only [commandPacket, List.cons_append, List.nil_append,
    HciProxy.packetWith, if_true, counted, List.tail_cons]

/-- A command reaches the controller once, with its opcode, the number of its
parameters and the parameters; one with too many of them does not. -/
theorem hciCommand_reaches_controller (build : Build)
    (registered : build.registered .bt = true) (getTx : HciPacket → Bool)
    (getsTx : ∀ packet, getTx packet = true) (device : Device)
    (atType : device.parsingState = .type) (empty : device.rxFifo = [])
    (healthy : device.rxError = false)
    (idle : (device.clients .bt).accumulated = 0) (seq : UInt8)
    (expected : seq.toNat % 16 = device.rxSequenceNumber) (opcode : UInt16)
    (params : List UInt8) (bounded : params.length ≤ 508) :
    ∃ final,
      (∀ later,
        Device.Serves build
            (device.arrive (Frame.encodeHostFrame .hci seq
              (hciCommandPacket opcode params))) later ↔ later = final) ∧
      Device.btSend getTx final.trace = Device.btSend getTx device.trace ++
        if params.length ≤ 255 then
          [{ type := .cmd
             bytes := [lowByte opcode, highByte opcode,
               UInt8.ofNat params.length] ++ params }]
        else [] := by
  have length : (commandPacket opcode params).length = params.length + 4 := by
    simp [commandPacket]
  have short : (commandPacket opcode params).length < 65536 := by omega
  have type : (SerialLink.Frame.ofPayload .hci (Fin.ofNat 16 seq.toNat)
      (commandPacket opcode params) short).header.type = .hci := rfl
  obtain ⟨final, serves, sent, -⟩ := Device.serves_hci registered getsTx
    atType empty healthy idle type expected
    (show 1 ≤ (commandPacket opcode params).length by omega)
    (show (commandPacket opcode params).length ≤ 512 by omega)
  refine ⟨final, ?_, ?_⟩
  · rw [hciCommandPacket_eq, Frame.encodeHostFrame_eq .hci seq _ short]
    exact serves
  · rw [sent]
    congr 1
    show (HciProxy.packetWith 1 (commandPacket opcode params)).toList = _
    rw [packetWith_commandPacket]
    split
    · rfl
    · rfl

/-- An inquiry with the general access code, of eight units. -/
theorem inquiry_reaches_controller :
    ∃ final,
      (∀ later,
        Device.Serves Build.full
            (Device.boot.arrive (Frame.encodeHostFrame .hci 0
              (hciCommandPacket 0x0401 [0x33, 0x8B, 0x9E, 8, 0])))
            later ↔ later = final) ∧
      Device.btSend (fun _ => true) final.trace =
        [{ type := .cmd
           bytes := [0x01, 0x04, 5, 0x33, 0x8B, 0x9E, 8, 0] }] := by
  obtain ⟨final, serves, sent⟩ := hciCommand_reaches_controller Build.full rfl
    (fun _ => true) (fun _ => rfl) Device.boot rfl rfl rfl rfl 0 rfl 0x0401
    [0x33, 0x8B, 0x9E, 8, 0] (by decide)
  exact ⟨final, serves, sent.trans (by decide)⟩

end Path

end Protocol

end SerialLink
