import SerialLink.Device.WholeFrame

/-!
# The HCI proxy

`bt_proxy_message_complete` checks the H:4 packet in `hci_rx_buffer` and hands
it to the controller.  Its check of a command is the one of the H:4 format,
and bytes of earlier packets do not disturb it: a packet that ends before its
length field is shorter than any it would accept.  An ACL packet is taken to
have one byte more than it has.
-/

namespace SerialLink

/-- The types of `bt_buf_type` that the proxy uses. -/
inductive BtBufType where
  | cmd
  | aclOut
  deriving DecidableEq, Repr

/-- A buffer passed to `bt_send`: its type and what follows the H:4 type. -/
structure HciPacket where
  type : BtBufType
  bytes : List UInt8
  deriving DecidableEq, Repr

namespace HciProxy

/-- `BT_PROXY_BUFFER_SIZE` -/
def bufferSize : Nat := 512

/-- `hci_packet_validate` -/
def hciPacketValidate (buffer : Nat → UInt8) (h4Type : UInt8) (len : Nat) :
    Except Errno Unit :=
  if h4Type = 0x01 then
    let paramLen := (buffer 3).toNat
    if len = 4 + paramLen then .ok () else .error .einval
  else if h4Type = 0x02 then
    let payloadLen := (buffer 3).toNat + 256 * (buffer 4).toNat
    if len = 6 + payloadLen then .ok () else .error .einval
  else .error .enotsup

/-- The second `switch` of `bt_proxy_message_complete`. -/
def bufType (h4Type : UInt8) : Option BtBufType :=
  if h4Type = 0x01 then some .cmd
  else if h4Type = 0x02 then some .aclOut
  else none

/-- `bt_proxy_message_complete`: the buffer passed to `bt_send`, whose result
changes nothing here, and the proxy's state.  `getTx` tells whether
`bt_buf_get_tx` finds a buffer. -/
def btProxyMessageComplete (getTx : HciPacket → Bool) (len : Nat)
    (state : ClientState) : Option HciPacket × ClientState :=
  let reset := { state with accumulated := 0 }
  if len < 2 ∨ len > bufferSize then (none, reset)
  else
    let h4Type := state.buffer 0
    match hciPacketValidate state.buffer h4Type len with
    | .error _ => (none, reset)
    | .ok () =>
        match bufType h4Type with
        | none => (none, reset)
        | some type =>
            let packet :=
              { type, bytes := Region.slice state.buffer 1 (len - 1) }
            (if getTx packet then some packet else none, reset)

/-- This is what the serial layer sees of the proxy. -/
theorem btProxyMessageComplete_state (build : Build)
    (getTx : HciPacket → Bool) (len : Nat) (state : ClientState) :
    (btProxyMessageComplete getTx len state).2 =
      Client.bt.messageComplete build state := by
  unfold btProxyMessageComplete
  split
  · rfl
  · dsimp only
    split
    · rfl
    · split <;> rfl

/-- Commands and ACL data as a type, an opcode or a handle, a length and as
many bytes, of which an ACL packet has `excess` more than the length says. -/
def packetWith (excess : Nat) : List UInt8 → Option HciPacket
  | h4Type :: field0 :: field1 :: low :: rest =>
      let bytes := field0 :: field1 :: low :: rest
      if h4Type = 0x01 then
        if rest.length = low.toNat then some { type := .cmd, bytes } else none
      else if h4Type = 0x02 then
        match rest with
        | high :: data =>
            if data.length = low.toNat + 256 * high.toNat + excess then
              some { type := .aclOut, bytes }
            else none
        | [] => none
      else none
  | _ => none

/-- The packet that a payload in the H:4 format holds. -/
def packet (payload : List UInt8) : Option HciPacket :=
  packetWith 0 payload

/-- An ACL packet with as many bytes as its length field says, or one more. -/
def Misjudged : List UInt8 → Prop
  | h4Type :: _ :: _ :: low :: high :: data =>
      h4Type = 0x02 ∧
        (data.length = low.toNat + 256 * high.toNat ∨
          data.length = low.toNat + 256 * high.toNat + 1)
  | _ => False

variable {getTx : HciPacket → Bool} {payload : List UInt8} {state : ClientState}

theorem hciPacketValidate_ok_iff {buffer : Nat → UInt8} {h4Type : UInt8}
    {len : Nat} :
    hciPacketValidate buffer h4Type len = .ok () ↔
      h4Type = 0x01 ∧ len = 4 + (buffer 3).toNat ∨
        h4Type = 0x02 ∧
          len = 6 + ((buffer 3).toNat + 256 * (buffer 4).toNat) := by
  unfold hciPacketValidate
  by_cases command : h4Type = 0x01
  · simp [command]
  · by_cases isData : h4Type = 0x02
    · simp [isData]
    · simp [command, isData]

theorem not_handed {len : Nat}
    (invalid : hciPacketValidate state.buffer (state.buffer 0) len ≠ .ok ()) :
    (btProxyMessageComplete getTx len state).1 = none := by
  unfold btProxyMessageComplete
  split
  · rfl
  · dsimp only
    split
    · rfl
    · rename_i valid
      exact absurd valid invalid

/-- With a buffer for it, a packet that is checked is handed on. -/
theorem handed_if {len : Nat} {type : BtBufType} {fits : Prop}
    [Decidable fits] (getsTx : ∀ packet, getTx packet = true)
    (enough : 2 ≤ len) (bounded : len ≤ bufferSize)
    (mapped : bufType (state.buffer 0) = some type)
    (valid_iff :
      hciPacketValidate state.buffer (state.buffer 0) len = .ok () ↔ fits) :
    (btProxyMessageComplete getTx len state).1 =
      if fits then
        some { type, bytes := Region.slice state.buffer 1 (len - 1) }
      else none := by
  by_cases valid : fits
  · have inRange : ¬(len < 2 ∨ len > bufferSize) := by omega
    simp only [btProxyMessageComplete, if_neg inRange, valid_iff.mpr valid,
      mapped, getsTx, if_true, if_pos valid]
  · rw [if_neg valid]
    exact not_handed (fun accepted => valid (valid_iff.mp accepted))

/-- The payload lies at the beginning of the buffer, whatever follows it. -/
structure Holds (state : ClientState) (payload : List UInt8) : Prop where
  byte : ∀ index byte, payload[index]? = some byte →
    state.buffer index = byte
  behind : Region.slice state.buffer 1 (payload.length - 1) = payload.tail

/-- A packet of another type is not handed on. -/
theorem not_handed_of_type {len : Nat}
    (command : state.buffer 0 ≠ 0x01) (isData : state.buffer 0 ≠ 0x02) :
    (btProxyMessageComplete getTx len state).1 = none := by
  apply not_handed
  rw [Ne, hciPacketValidate_ok_iff]
  rintro (⟨same, -⟩ | ⟨same, -⟩)
  · exact command same
  · exact isData same

theorem handed_command {field0 field1 low : UInt8} {rest : List UInt8}
    (getsTx : ∀ packet, getTx packet = true)
    (bounded : (0x01 :: field0 :: field1 :: low :: rest).length ≤ bufferSize)
    (holds : Holds state (0x01 :: field0 :: field1 :: low :: rest)) :
    (btProxyMessageComplete getTx
        (0x01 :: field0 :: field1 :: low :: rest).length state).1 =
      packetWith 1 (0x01 :: field0 :: field1 :: low :: rest) := by
  have first : state.buffer 0 = 0x01 := holds.byte 0 0x01 rfl
  have third : state.buffer 3 = low := holds.byte 3 low rfl
  have mapped : bufType (state.buffer 0) = some .cmd := by
    rw [first, bufType, if_pos rfl]
  have distinct : ¬(0x01 : UInt8) = 0x02 := by decide
  have valid_iff : hciPacketValidate state.buffer (state.buffer 0)
      (0x01 :: field0 :: field1 :: low :: rest).length = .ok () ↔
        rest.length = low.toNat := by
    rw [hciPacketValidate_ok_iff, first, third]
    simp only [List.length_cons, true_and, distinct, false_and, or_false]
    omega
  rw [handed_if getsTx (by simp) bounded mapped valid_iff, holds.behind]
  rfl

/-- An ACL packet needs its length field and one byte more than that says. -/
theorem handed_data {field0 field1 low : UInt8} {rest : List UInt8}
    (getsTx : ∀ packet, getTx packet = true)
    (bounded : (0x02 :: field0 :: field1 :: low :: rest).length ≤ bufferSize)
    (holds : Holds state (0x02 :: field0 :: field1 :: low :: rest)) :
    (btProxyMessageComplete getTx
        (0x02 :: field0 :: field1 :: low :: rest).length state).1 =
      packetWith 1 (0x02 :: field0 :: field1 :: low :: rest) := by
  have first : state.buffer 0 = 0x02 := holds.byte 0 0x02 rfl
  have third : state.buffer 3 = low := holds.byte 3 low rfl
  have distinct : ¬(0x02 : UInt8) = 0x01 := by decide
  have mapped : bufType (state.buffer 0) = some .aclOut := by
    rw [first, bufType, if_neg distinct, if_pos rfl]
  match rest with
  | [] =>
      rw [not_handed]
      · rfl
      · rw [Ne, hciPacketValidate_ok_iff, first]
        rintro (⟨same, -⟩ | ⟨-, length⟩)
        · exact distinct same
        · simp only [List.length_cons, List.length_nil] at length
          omega
  | high :: data =>
      have fourth : state.buffer 4 = high := holds.byte 4 high rfl
      have valid_iff : hciPacketValidate state.buffer (state.buffer 0)
          (0x02 :: field0 :: field1 :: low :: high :: data).length = .ok () ↔
            data.length = low.toNat + 256 * high.toNat + 1 := by
        rw [hciPacketValidate_ok_iff, first, third, fourth]
        simp only [List.length_cons, distinct, false_and, false_or, true_and]
        omega
      rw [handed_if getsTx (by simp) bounded mapped valid_iff, holds.behind]
      rfl

/-- The proxy hands on what is in the format that it checks. -/
theorem handed_eq (getsTx : ∀ packet, getTx packet = true)
    (bounded : payload.length ≤ bufferSize) (holds : Holds state payload) :
    (btProxyMessageComplete getTx payload.length state).1 =
      packetWith 1 payload := by
  match payload with
  | [] | [_] | [_, _] | [_, _, _] =>
      -- The length field is not part of the packet, but any would be too long.
      rw [not_handed]
      · rfl
      · rw [Ne, hciPacketValidate_ok_iff]
        simp only [List.length_cons, List.length_nil]
        omega
  | h4Type :: field0 :: field1 :: low :: rest =>
      by_cases command : h4Type = 0x01
      · subst command
        exact handed_command getsTx bounded holds
      · by_cases isData : h4Type = 0x02
        · subst isData
          exact handed_data getsTx bounded holds
        · have first : state.buffer 0 = h4Type := holds.byte 0 h4Type rfl
          rw [not_handed_of_type (by rwa [first]) (by rwa [first])]
          simp only [packetWith, if_neg command, if_neg isData]

/-- The two formats agree on everything but ACL packets of these lengths. -/
theorem packetWith_one_iff :
    packetWith 1 payload = packet payload ↔ ¬Misjudged payload := by
  match payload with
  | [] | [_] | [_, _] | [_, _, _] => simp [packetWith, packet, Misjudged]
  | [h4Type, field0, field1, low] =>
      simp [packetWith, packet, Misjudged]
  | h4Type :: field0 :: field1 :: low :: high :: data =>
      by_cases isData : h4Type = 0x02
      · have distinct : ¬(0x02 : UInt8) = 0x01 := by decide
        subst isData
        simp only [packet, packetWith, Misjudged, if_neg distinct, if_true,
          true_and, Nat.add_zero]
        by_cases exact : data.length = low.toNat + 256 * high.toNat
        · simp [exact]
        · simp [exact]
      · simp [packet, packetWith, Misjudged, isData]

end HciProxy

namespace Device

/-- The buffers passed to `bt_send`. -/
def btSend (getTx : HciPacket → Bool) (trace : List Event) : List HciPacket :=
  (completions trace).filterMap fun (client, len, state) =>
    if client = .bt then (HciProxy.btProxyMessageComplete getTx len state).1
    else none

/-- The device hands the packet of a frame that arrives whole to the
controller if the frame holds one, and has nothing accumulated then. -/
def ForwardsHci (build : Build) (getTx : HciPacket → Bool) (frame : Frame)
    (device : Device) : Prop :=
  ∃ final, Serves build (device.arrive frame.encode) final ∧
    btSend getTx final.trace = btSend getTx device.trace ++
      (HciProxy.packet frame.payload).toList ∧
    (final.clients .bt).accumulated = 0

variable {build : Build} {getTx : HciPacket → Bool} {frame : Frame}
  {device later : Device}

theorem deliveredState_holds (positive : 0 < frame.payload.length) :
    HciProxy.Holds (deliveredState .bt 0 frame device) frame.payload where
  byte := by
    intro index byte found
    rw [deliveredState, Client.commitData_buffer]
    simp [Region.store, List.getD_eq_getElem?_getD, found]
  behind := by
    have whole := Region.slice_store_self (device.clients .bt).buffer 0
      frame.payload
    obtain ⟨first, others, bytes⟩ :=
      List.exists_cons_of_length_pos positive
    rw [deliveredState, Client.commitData_buffer]
    rw [bytes, List.length_cons, Nat.add_comm, Region.slice_append] at whole
    rw [bytes, List.length_cons, Nat.add_sub_cancel]
    exact (List.cons.inj whole).2

section Hci

variable (head : FrameAtHead build .bt frame [] device)
  (fits : frame.payload.length ≤ 512)
  (expected : frame.header.sequenceNumber.val = device.rxSequenceNumber)

theorem completed_bt_accumulated (build : Build)
    (expected : frame.header.sequenceNumber.val = device.rxSequenceNumber) :
    ((device.completed build .bt (some 0) frame []).clients
      .bt).accumulated = 0 := by
  rw [completed_clients build .bt 0 [] expected]
  rfl

include head fits expected

/-- A frame that arrives whole is stored at the beginning of the buffer. -/
theorem serves_bt_iff (idle : (device.clients .bt).accumulated = 0) :
    Serves build device later ↔
      later = device.completed build .bt (some 0) frame [] := by
  have free : ∀ state : ClientState, state.accumulated = 0 →
      Client.bt.acquireBuffer build state frame.payload.length =
        .granted (some 0) := by
    intro state none
    have enough : ¬sizeAdd state.accumulated frame.payload.length > 512 := by
      rw [none, sizeAdd_eq (by unfold sizeModulus; omega)]
      omega
    rw [Client.acquireBuffer, btProxyAcquireBuffer, if_neg enough, none]
  let final := device.completed build .bt (some 0) frame []
  have again : final.clientStep build .bt frame.header.type =
      .stop final := by
    have count : final.serialHeader.length.val - final.bytesRead =
        frame.payload.length := by
      simp [final, frame.length_eq]
    have granted := free _ (completed_bt_accumulated build expected)
    rw [← count] at granted
    apply clientStep_of_granted_empty _ _ granted
    · simpa [final] using head.healthy
    · simp
  rw [head.granted_iff (free _ idle)]
  exact Loop.returns_stop_iff
    (completed_missing build .bt device (some 0) frame [] head.positive) again

theorem completed_btSend (getsTx : ∀ packet, getTx packet = true) :
    btSend getTx (device.completed build .bt (some 0) frame []).trace =
      btSend getTx device.trace ++
        (HciProxy.packetWith 1 frame.payload).toList := by
  have handed := HciProxy.handed_eq getsTx fits
    (@deliveredState_holds frame device head.positive)
  rw [btSend, completed_completions build .bt 0 [] expected,
    List.filterMap_append]
  congr 1
  simp only [List.filterMap_cons, List.filterMap_nil, if_true, handed]
  cases HciProxy.packetWith 1 frame.payload <;> rfl

end Hci

section Idle

variable (registered : build.registered .bt = true)
  (getsTx : ∀ packet, getTx packet = true)
  (atType : device.parsingState = .type) (empty : device.rxFifo = [])
  (healthy : device.rxError = false)
  (idle : (device.clients .bt).accumulated = 0)
  (type : frame.header.type = .hci)
  (expected : frame.header.sequenceNumber.val = device.rxSequenceNumber)
  (positive : 1 ≤ frame.payload.length)
  (bounded : frame.payload.length ≤ 512)

include registered getsTx atType empty healthy idle type expected positive
  bounded

/-- What an idle device makes of a frame that arrives whole. -/
theorem serves_hci :
    ∃ final, (∀ later, Serves build (device.arrive frame.encode) later ↔
        later = final) ∧
      btSend getTx final.trace = btSend getTx device.trace ++
        (HciProxy.packetWith 1 frame.payload).toList ∧
      (final.clients .bt).accumulated = 0 := by
  have head : FrameAtHead build .bt frame [] (device.arrive frame.encode) :=
    { atType, healthy
      fifo := by simp [Device.arrive, empty]
      callbacks := by simp [serialMuxGetCallbacks, type, registered]
      positive
      bounded := Nat.le_trans bounded (by decide) }
  refine ⟨(device.arrive frame.encode).completed build .bt (some 0) frame [],
    fun later => ?_, ?_, ?_⟩
  · exact serves_bt_iff head bounded expected idle
  · exact completed_btSend head bounded expected getsTx
  · exact @completed_bt_accumulated frame (device.arrive frame.encode) build
      expected

/-- A packet is forwarded as it should be if the two formats agree on it. -/
theorem forwardsHci_iff :
    ForwardsHci build getTx frame device ↔
      HciProxy.packetWith 1 frame.payload =
        HciProxy.packet frame.payload := by
  obtain ⟨final, serves, sent, emptied⟩ := serves_hci registered getsTx atType
    empty healthy idle type expected positive bounded
  constructor
  · rintro ⟨later, served, forwarded, -⟩
    rw [(serves later).mp served, sent] at forwarded
    have same := congrArg List.head? (List.append_cancel_left forwarded)
    rwa [Option.head?_toList, Option.head?_toList] at same
  · intro same
    exact ⟨final, (serves final).mpr rfl, by rw [sent, same], emptied⟩

end Idle

/-- The proxy forwards the packets of the H:4 format and nothing else, but for
ACL packets with as many bytes as they say, or one more. -/
theorem hci_forwarded_iff (build : Build)
    (registered : build.registered .bt = true) (getTx : HciPacket → Bool)
    (getsTx : ∀ packet, getTx packet = true) (device : Device)
    (atType : device.parsingState = .type) (empty : device.rxFifo = [])
    (healthy : device.rxError = false)
    (idle : (device.clients .bt).accumulated = 0) (frame : Frame)
    (type : frame.header.type = .hci)
    (expected : frame.header.sequenceNumber.val = device.rxSequenceNumber)
    (positive : 1 ≤ frame.payload.length)
    (bounded : frame.payload.length ≤ 512) :
    ForwardsHci build getTx frame device ↔
      ¬HciProxy.Misjudged frame.payload := by
  rw [forwardsHci_iff registered getsTx atType empty healthy idle type
    expected positive bounded]
  exact HciProxy.packetWith_one_iff

/-- A frame with an HCI payload, the first one after the start. -/
def hciFrame (payload : List UInt8) (bounded : payload.length < 65536) :
    Frame :=
  .ofPayload .hci 0 payload bounded

/-- `HCI_Reset` -/
theorem reset_forwarded :
    ForwardsHci Build.full (fun _ => true)
      (hciFrame [1, 3, 12, 0] (by decide)) boot := by
  apply (hci_forwarded_iff Build.full rfl (fun _ => true) (fun _ => rfl) boot
    rfl rfl rfl rfl (hciFrame [1, 3, 12, 0] (by decide)) rfl rfl (by decide)
    (by decide)).mpr
  rintro ⟨⟩

/-- An ACL packet with one byte of data is dropped. -/
theorem acl_not_forwarded :
    HciProxy.packet [2, 1, 32, 1, 0, 170] =
        some { type := .aclOut, bytes := [1, 32, 1, 0, 170] } ∧
      ¬ForwardsHci Build.full (fun _ => true)
        (hciFrame [2, 1, 32, 1, 0, 170] (by decide)) boot := by
  refine ⟨rfl, ?_⟩
  rw [forwardsHci_iff rfl (fun _ => rfl) rfl rfl rfl rfl rfl rfl (by decide)
    (by decide)]
  decide

end Device

end SerialLink
