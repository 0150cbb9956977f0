import SerialLink.Device.Exchange
import SerialLink.Session.Protocol

/-!
# The device model of the test suite

The tests of `protocol.rs` run a session against `MockDeviceState`, which
reads whole frames and answers them from a pair of sequence numbers.  On the
frames a host sends one at a time it is indistinguishable from the device: the
two write the same bytes and keep the same pair.
-/

namespace SerialLink

namespace Protocol

/-- `MockDeviceState`, without the bytes that do not form a frame yet. -/
structure MockDeviceState where
  toHost : List UInt8
  rxSeq : UInt8
  txSeq : UInt8
  version : UInt8
  supportedTypesMask : Nat
  responsePayload : List UInt8
  corruptProtocolInfo : Bool
  incorrectSeqAcks : Nat
  protocolInfoQueries : Nat
  commandsAccepted : Nat

namespace MockDeviceState

/-- The bytes built by `emit_frame`. -/
def frameBytes (rtype : SerialType) (error : ErrorType) (seq : UInt8)
    (payload : List UInt8) : List UInt8 :=
  let length := payload.length % 65536
  [UInt8.ofNat (error.toNat <<< 6 ||| 1 <<< 5 ||| rtype.toNat),
    (seq &&& 0x0F) <<< 4, UInt8.ofNat (length / 256),
    UInt8.ofNat (length % 256)] ++ payload

/-- `emit_frame` -/
def emitFrame (state : MockDeviceState) (rtype : SerialType)
    (error : ErrorType) (seq : UInt8) (payload : List UInt8)
    (advanceTx : Bool) : MockDeviceState :=
  let state :=
    { state with
      toHost := state.toHost ++ frameBytes rtype error seq payload }
  if advanceTx then { state with txSeq := (state.txSeq + 1) &&& 0x0F }
  else state

/-- `handle_host_frame` -/
def handleHostFrame (state : MockDeviceState) (frame : Frame) :
    MockDeviceState :=
  if frame.rtype = .protocolInfo then
    let state :=
      { state with protocolInfoQueries := state.protocolInfoQueries + 1 }
    let nextSeq := if state.corruptProtocolInfo then
        (state.rxSeq + 1) &&& 0x0F
      else state.rxSeq
    let payload := [state.version, UInt8.ofNat (state.supportedTypesMask % 256),
      UInt8.ofNat (state.supportedTypesMask / 256), nextSeq]
    state.emitFrame .protocolInfo .noError state.txSeq payload true
  else if frame.seq ≠ state.rxSeq then
    let state := { state with incorrectSeqAcks := state.incorrectSeqAcks + 1 }
    { state.emitFrame frame.rtype .incorrectSequenceNumber state.rxSeq []
        false with rxSeq := 0 }
  else
    let state := { state with commandsAccepted := state.commandsAccepted + 1 }
    let state := if state.responsePayload = [] then state
      else
        state.emitFrame frame.rtype .noError state.txSeq
          state.responsePayload true
    let state := state.emitFrame frame.rtype .noError frame.seq [] false
    { state with rxSeq := (state.rxSeq + 1) &&& 0x0F }

/-- A frame written to `MockPort`: it is handled if it parses. -/
def write (state : MockDeviceState) (bytes : List UInt8) : MockDeviceState :=
  match Frame.parse bytes with
  | some frame => state.handleHostFrame frame
  | none => state

end MockDeviceState

/-- The arguments of `encode_host_frame`. -/
structure HostFrame where
  rtype : SerialType
  seq : UInt8
  payload : List UInt8

namespace HostFrame

def bytes (call : HostFrame) : List UInt8 :=
  Frame.encodeHostFrame call.rtype call.seq call.payload

/-- A query, or a frame for a client that has room for it and sends nothing
itself. -/
structure Plain (build : Build) (call : HostFrame) : Prop where
  positive : 0 < call.payload.length
  bounded : call.payload.length ≤ serialMaxPayloadLen
  served : call.rtype = .protocolInfo ∨
    ∃ client, serialMuxGetCallbacks build call.rtype = some client ∧
      client ≠ .wifiData ∧ client.isMgmt = false ∧
      call.payload.length ≤ client.capacity build

end HostFrame

end Protocol

namespace Device

/-- Frames that reach the device whole and one at a time. -/
inductive ServesEach (build : Build) :
    Device → List Protocol.HostFrame → Device → Prop where
  | nil (device : Device) : ServesEach build device [] device
  | cons {device later final : Device} {call : Protocol.HostFrame}
      {calls : List Protocol.HostFrame} :
      Serves build (device.arrive call.bytes) later →
      ServesEach build later calls final →
      ServesEach build device (call :: calls) final

end Device

namespace Protocol

/-- The device between two frames. -/
structure Settled (device : Device) : Prop extends Device.Quiet device where
  healthy : device.rxError = false
  unharmed : device.stray = false
  idle : ∀ client : Client, client.isMgmt = false →
    (device.clients client).accumulated = 0

/-- The model stands for the device: the same pair of numbers, and nothing of
its own to say. -/
structure Mirrors (build : Build) (mock : MockDeviceState)
    (device : Device) : Prop where
  settled : Settled device
  rx : mock.rxSeq.toNat = device.rxSequenceNumber
  rxBound : device.rxSequenceNumber ≤ sequenceNumberMax
  tx : mock.txSeq.toNat = device.txSequenceNumber
  txBound : device.txSequenceNumber ≤ sequenceNumberMax
  version : mock.version = 1
  mask : mock.supportedTypesMask = serialMuxSupportedTypesMask build
  silent : mock.responsePayload = []
  honest : mock.corruptProtocolInfo = false

/-- What the two have written since they were compared last. -/
def SameOutput (mock later : MockDeviceState) (device served : Device) :
    Prop :=
  ∃ out, later.toHost = mock.toHost ++ out ∧
    Egress.sentBytes served.trace = Egress.sentBytes device.trace ++ out

private theorem first_byte : ∀ (error : Fin 4) (type : Fin 16),
    error.val <<< 6 ||| 1 <<< 5 ||| type.val =
      type.val + 16 * 0 + 32 * 1 + 64 * error.val := by
  decide

/-- The model builds the header the device builds. -/
theorem frameBytes_eq (rtype : SerialType) (error : ErrorType) (seq : UInt8)
    (payload : List UInt8) :
    MockDeviceState.frameBytes rtype error seq payload =
      (Device.frameHeader rtype error false seq.toNat
        payload.length).encode ++ payload := by
  have byte0 := first_byte ⟨_, error.toNat_lt⟩ ⟨_, rtype.toNat_lt⟩
  have byte1 := low_shifted seq
  dsimp only at byte0
  simp only [MockDeviceState.frameBytes, byte0, byte1]
  simp [Device.frameHeader, SerialHeader.encode, SerialHeader.byte0,
    SerialHeader.byte1, SerialHeader.lengthHigh, SerialHeader.lengthLow,
    Fin.ofNat]

theorem ackBytes_eq (rtype : SerialType) (error : ErrorType) (seq : UInt8) :
    MockDeviceState.frameBytes rtype error seq [] =
      (Device.ackHeader rtype seq.toNat error).encode := by
  rw [frameBytes_eq, List.append_nil]
  rfl

namespace MockDeviceState

variable {mock : MockDeviceState} {frame : Frame}

theorem handleHostFrame_query (query : frame.rtype = .protocolInfo)
    (honest : mock.corruptProtocolInfo = false) :
    mock.handleHostFrame frame =
      { mock with
        protocolInfoQueries := mock.protocolInfoQueries + 1
        toHost := mock.toHost ++ frameBytes .protocolInfo .noError mock.txSeq
          [mock.version, UInt8.ofNat (mock.supportedTypesMask % 256),
            UInt8.ofNat (mock.supportedTypesMask / 256), mock.rxSeq]
        txSeq := (mock.txSeq + 1) &&& 0x0F } := by
  simp [handleHostFrame, query, honest, emitFrame]

theorem handleHostFrame_mismatch (command : frame.rtype ≠ .protocolInfo)
    (unexpected : frame.seq ≠ mock.rxSeq) :
    mock.handleHostFrame frame =
      { mock with
        incorrectSeqAcks := mock.incorrectSeqAcks + 1
        toHost := mock.toHost ++
          frameBytes frame.rtype .incorrectSequenceNumber mock.rxSeq []
        rxSeq := 0 } := by
  simp [handleHostFrame, command, unexpected, emitFrame]

theorem handleHostFrame_accepted (command : frame.rtype ≠ .protocolInfo)
    (expected : frame.seq = mock.rxSeq) (silent : mock.responsePayload = []) :
    mock.handleHostFrame frame =
      { mock with
        commandsAccepted := mock.commandsAccepted + 1
        toHost := mock.toHost ++ frameBytes frame.rtype .noError frame.seq []
        rxSeq := (mock.rxSeq + 1) &&& 0x0F } := by
  simp [handleHostFrame, command, expected, silent, emitFrame]

theorem handleHostFrame_answered (command : frame.rtype ≠ .protocolInfo)
    (expected : frame.seq = mock.rxSeq)
    (answers : mock.responsePayload ≠ []) :
    mock.handleHostFrame frame =
      { mock with
        commandsAccepted := mock.commandsAccepted + 1
        toHost := mock.toHost ++
          (frameBytes frame.rtype .noError mock.txSeq mock.responsePayload ++
            frameBytes frame.rtype .noError frame.seq [])
        txSeq := (mock.txSeq + 1) &&& 0x0F
        rxSeq := (mock.rxSeq + 1) &&& 0x0F } := by
  simp [handleHostFrame, command, expected, answers, emitFrame]

end MockDeviceState

section Step

variable {build : Build} {mock : MockDeviceState} {device : Device}
  {call : HostFrame}

/-- The frame of a call. -/
def HostFrame.frame (call : HostFrame)
    (bounded : call.payload.length ≤ serialMaxPayloadLen) :
    SerialLink.Frame :=
  .ofPayload call.rtype (Fin.ofNat 16 call.seq.toNat) call.payload
    (Nat.lt_of_le_of_lt bounded (by decide))

theorem HostFrame.bytes_eq (call : HostFrame)
    (bounded : call.payload.length ≤ serialMaxPayloadLen) :
    call.bytes = (call.frame bounded).encode :=
  Frame.encodeHostFrame_eq call.rtype call.seq call.payload _

/-- What the model sees of a call. -/
theorem write_eq (known : call.rtype.known = true)
    (bounded : call.payload.length ≤ serialMaxPayloadLen) :
    mock.write call.bytes = mock.handleHostFrame
      (Frame.ofHeader (call.frame bounded).header known call.payload) := by
  have parsed := Frame.parse_encode (call.frame bounded) known rfl bounded
  rw [MockDeviceState.write, HostFrame.bytes_eq call bounded, parsed]
  rfl

/-- The number of a call as the model reads it. -/
theorem seq_toNat_frame (known : call.rtype.known = true)
    (bounded : call.payload.length ≤ serialMaxPayloadLen) :
    (Frame.ofHeader (call.frame bounded).header known
        call.payload).seq.toNat =
      (call.frame bounded).header.sequenceNumber.val := by
  have small := (call.frame bounded).header.sequenceNumber.isLt
  exact UInt8.toNat_ofNat_of_lt' (Nat.lt_trans small (by decide))

/-- A query. -/
theorem mirrors_query (mirrors : Mirrors build mock device)
    (plain : HostFrame.Plain build call)
    (info : call.rtype = .protocolInfo) :
    ∃ served, Device.Serves build (device.arrive call.bytes) served ∧
      Mirrors build (mock.write call.bytes) served ∧
      SameOutput mock (mock.write call.bytes) device served := by
  have known : call.rtype.known = true := by rw [info]; rfl
  have serves := Device.serves_protocolInfo build mirrors.settled.toQuiet
    mirrors.settled.healthy
    (show (call.frame plain.bounded).header.type = .protocolInfo from info)
    plain.positive plain.bounded
  have informed := Device.handling_informed build
    (device.arrive (call.frame plain.bounded).encode) (call.frame plain.bounded)
  have payload : [mock.version, UInt8.ofNat (mock.supportedTypesMask % 256),
      UInt8.ofNat (mock.supportedTypesMask / 256), mock.rxSeq] =
        device.protocolInfoPayload build := by
    rw [Device.protocolInfoPayload, ← mirrors.mask, ← mirrors.rx,
      UInt8.ofNat_toNat, mirrors.version]
    rfl
  have answered := (write_eq known plain.bounded).trans
    (MockDeviceState.handleHostFrame_query info mirrors.honest)
  rw [payload] at answered
  rw [answered]
  rw [← HostFrame.bytes_eq] at serves informed
  refine ⟨_, serves, ?_, ?_⟩
  · exact
      { settled :=
          { informed with
            healthy := informed.healthy.trans mirrors.settled.healthy
            unharmed := informed.stray.trans mirrors.settled.unharmed
            idle := informed.clients ▸ mirrors.settled.idle }
        rx := mirrors.rx.trans informed.received.symm
        rxBound := informed.received ▸ mirrors.rxBound
        tx := by
          rw [informed.transmitted, succ_and_low (mirrors.tx ▸ mirrors.txBound),
            mirrors.tx]
          rfl
        txBound := informed.transmitted ▸ seqNext_le _
        version := mirrors.version
        mask := mirrors.mask
        silent := mirrors.silent
        honest := mirrors.honest }
  · refine ⟨_, rfl, ?_⟩
    rw [informed.output, frameBytes_eq, mirrors.tx]
    rfl

/-- A device that has served a frame for a client other than the management
clients is settled again. -/
theorem Settled.exchanged {client : Client} {frame : SerialLink.Frame}
    {bytes : List UInt8} {later : Device} (settled : Settled device)
    (other : client.isMgmt = false)
    (exchanged : Device.Exchanged client frame (device.arrive bytes) later) :
    Settled later where
  toQuiet := exchanged.toQuiet
  healthy := exchanged.healthy
  unharmed := exchanged.unharmed
  idle one plain := by
    by_cases same : one = client
    · rw [same]
      exact exchanged.idle other
    · rw [exchanged.others one same]
      exact settled.idle one plain

/-- A frame for a client. -/
theorem mirrors_command (mirrors : Mirrors build mock device)
    (plain : HostFrame.Plain build call) {client : Client}
    (callbacks : serialMuxGetCallbacks build call.rtype = some client)
    (designates : client ≠ .wifiData) (other : client.isMgmt = false)
    (fits : call.payload.length ≤ client.capacity build) :
    ∃ served, Device.Serves build (device.arrive call.bytes) served ∧
      Mirrors build (mock.write call.bytes) served ∧
      SameOutput mock (mock.write call.bytes) device served := by
  have known : call.rtype.known = true := known_of_callbacks callbacks
  have command : call.rtype ≠ .protocolInfo := by
    intro info
    rw [info] at callbacks
    cases callbacks
  have ready : Device.Ready client device :=
    { mirrors.settled with idle := mirrors.settled.idle client other }
  have alone : Device.Alone build client (call.frame plain.bounded)
      (device.arrive (call.frame plain.bounded).encode) :=
    ready.alone callbacks plain.positive plain.bounded rfl
  have serves := alone.serves_accepted designates fits
    (fun tight => by simp [other] at tight)
  have exchanged := alone.exchanged designates fits
  have output := Device.accepted_sentBytes alone
  rw [← HostFrame.bytes_eq] at serves exchanged output
  have numbered := seq_toNat_frame known plain.bounded
  have settled := mirrors.settled.exchanged other exchanged
  refine ⟨_, serves, ?_⟩
  by_cases expected : (call.frame plain.bounded).header.sequenceNumber.val =
      device.rxSequenceNumber
  · have equal : (Frame.ofHeader (call.frame plain.bounded).header known
        call.payload).seq = mock.rxSeq := by
      rw [← UInt8.toNat_inj, numbered, expected, mirrors.rx]
    rw [write_eq known plain.bounded,
      MockDeviceState.handleHostFrame_accepted command equal mirrors.silent]
    have counted := exchanged.received.trans (if_pos expected)
    have first : Device.firstAnswer (call.frame plain.bounded)
        (device.arrive call.bytes) = _ := if_pos expected.symm
    constructor
    · exact
        { mirrors with
          settled
          rx := by
            rw [counted, succ_and_low (mirrors.rx ▸ mirrors.rxBound),
              mirrors.rx]
            rfl
          rxBound := counted ▸ seqNext_le _
          tx := mirrors.tx.trans exchanged.transmitted.symm
          txBound := exchanged.transmitted ▸ mirrors.txBound }
    · refine ⟨_, rfl, ?_⟩
      rw [output, ackBytes_eq, first, numbered]
      rfl
  · have different : (Frame.ofHeader (call.frame plain.bounded).header known
        call.payload).seq ≠ mock.rxSeq := by
      intro equal
      apply expected
      rw [← numbered, equal, mirrors.rx]
    rw [write_eq known plain.bounded,
      MockDeviceState.handleHostFrame_mismatch command different]
    have counted := exchanged.received.trans (if_neg expected)
    have first : Device.firstAnswer (call.frame plain.bounded)
        (device.arrive call.bytes) = _ :=
      if_neg (fun equal => expected equal.symm)
    constructor
    · exact
        { mirrors with
          settled
          rx := counted.symm
          rxBound := counted ▸ Nat.zero_le _
          tx := mirrors.tx.trans exchanged.transmitted.symm
          txBound := exchanged.transmitted ▸ mirrors.txBound }
    · refine ⟨_, rfl, ?_⟩
      rw [output, ackBytes_eq, first, mirrors.rx]
      rfl

theorem mirrors_write (mirrors : Mirrors build mock device)
    (plain : HostFrame.Plain build call) :
    ∃ served, Device.Serves build (device.arrive call.bytes) served ∧
      Mirrors build (mock.write call.bytes) served ∧
      SameOutput mock (mock.write call.bytes) device served := by
  rcases plain.served with info |
    ⟨client, callbacks, designates, other, fits⟩
  · exact mirrors_query mirrors plain info
  · exact mirrors_command mirrors plain callbacks designates other fits

end Step

/-- The model after a sequence of frames. -/
def MockDeviceState.writeAll (mock : MockDeviceState)
    (calls : List HostFrame) : MockDeviceState :=
  calls.foldl (fun state call => state.write call.bytes) mock

theorem SameOutput.trans {first second third : MockDeviceState}
    {one two three : Device} (before : SameOutput first second one two)
    (after : SameOutput second third two three) :
    SameOutput first third one three := by
  obtain ⟨early, heard, said⟩ := before
  obtain ⟨late, heardLater, saidLater⟩ := after
  refine ⟨early ++ late, ?_, ?_⟩
  · rw [heardLater, heard, List.append_assoc]
  · rw [saidLater, said, List.append_assoc]

/-- On every sequence of queries and of frames for clients with room, the
device and the model write the same bytes and keep the same numbers. -/
theorem device_mirrors_mock (build : Build) (calls : List HostFrame)
    (mock : MockDeviceState) (device : Device)
    (mirrors : Mirrors build mock device)
    (plain : ∀ call ∈ calls, HostFrame.Plain build call) :
    ∃ final, Device.ServesEach build device calls final ∧
      SameOutput mock (mock.writeAll calls) device final ∧
      (mock.writeAll calls).rxSeq.toNat = final.rxSequenceNumber ∧
      (mock.writeAll calls).txSeq.toNat = final.txSequenceNumber ∧
      final.stray = false := by
  induction calls generalizing mock device with
  | nil =>
      exact ⟨device, .nil device, ⟨[], by simp [MockDeviceState.writeAll],
        by simp⟩, mirrors.rx, mirrors.tx, mirrors.settled.unharmed⟩
  | cons call calls induction =>
      obtain ⟨served, serves, still, same⟩ :=
        mirrors_write mirrors (plain call List.mem_cons_self)
      obtain ⟨final, rest, output, pair⟩ := induction _ served still
        (fun other member => plain other (List.mem_cons_of_mem _ member))
      exact ⟨final, .cons serves rest, same.trans output, pair⟩

/-- A model without a response of its own, at the given numbers. -/
def MockDeviceState.silentAt (build : Build) (rxSeq txSeq : UInt8) :
    MockDeviceState where
  toHost := []
  rxSeq := rxSeq
  txSeq := txSeq
  version := 1
  supportedTypesMask := serialMuxSupportedTypesMask build
  responsePayload := []
  corruptProtocolInfo := false
  incorrectSeqAcks := 0
  protocolInfoQueries := 0
  commandsAccepted := 0

/-- A command with a wrong number, a query, and the command again. -/
def recovery : List HostFrame :=
  [{ rtype := .hci, seq := 9, payload := [1, 3, 12, 0] },
    { rtype := .protocolInfo, seq := 10, payload := [0] },
    { rtype := .hci, seq := 0, payload := [1, 3, 12, 0] }]

theorem device_mirrors_mock_recovery :
    ∃ final, Device.ServesEach Build.full
        { Device.boot with rxSequenceNumber := 3, txSequenceNumber := 15 }
        recovery final ∧
      SameOutput (.silentAt Build.full 3 15)
        ((MockDeviceState.silentAt Build.full 3 15).writeAll recovery)
        { Device.boot with rxSequenceNumber := 3, txSequenceNumber := 15 }
        final ∧
      final.rxSequenceNumber = 1 ∧ final.txSequenceNumber = 0 := by
  have plain : ∀ call ∈ recovery, HostFrame.Plain Build.full call := by
    simp only [recovery, List.mem_cons, List.not_mem_nil, or_false]
    rintro call (rfl | rfl | rfl)
    · exact ⟨by decide, by decide, .inr ⟨.bt, rfl, by decide, rfl, by decide⟩⟩
    · exact ⟨by decide, by decide, .inl rfl⟩
    · exact ⟨by decide, by decide, .inr ⟨.bt, rfl, by decide, rfl, by decide⟩⟩
  obtain ⟨final, serves, output, rx, tx, -⟩ := device_mirrors_mock Build.full
    recovery (.silentAt Build.full 3 15)
    { Device.boot with rxSequenceNumber := 3, txSequenceNumber := 15 }
    { settled := ⟨⟨rfl, rfl, rfl⟩, rfl, rfl, fun _ _ => rfl⟩
      rx := rfl, rxBound := by decide, tx := rfl, txBound := by decide
      version := rfl, mask := rfl, silent := rfl, honest := rfl } plain
  exact ⟨final, serves, output, rx ▸ by decide +kernel,
    tx ▸ by decide +kernel⟩

end Protocol

end SerialLink
