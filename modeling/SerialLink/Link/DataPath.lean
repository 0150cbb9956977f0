import SerialLink.Device.WholeFrame
import SerialLink.Host.Mailbox
import SerialLink.Host.Send

/-!
# Wi-Fi data from the host to the device

`virt_wifi_l2_send` sends a packet as one `WIFI_DATA` frame, and
`wifi_data_message_complete` copies the frame into a packet of the device's
network stack.  The device's proxy never says where the payload is to be
stored: `wifi_data_acquire_buffer` returns `true` without setting `*data`, so
that the bytes go to wherever the handler's uninitialised pointer points.
-/

namespace SerialLink

/-- A packet of the host's network stack: the fragments of its buffer, and
the memory that `pkt->frags->data` points to. -/
structure NetPkt where
  first : List UInt8
  others : List (List UInt8)
  memory : Nat → UInt8
  nonempty : ∀ fragment ∈ first :: others, fragment ≠ []
  located : Region.slice memory 0 first.length = first

namespace NetPkt

/-- The concatenation of the fragments. -/
def contents (pkt : NetPkt) : List UInt8 :=
  (pkt.first :: pkt.others).flatten

/-- `net_buf_frags_len` -/
def fragsLen (pkt : NetPkt) : Nat :=
  pkt.contents.length

/-- The bytes `virt_wifi_l2_send` passes to `bus_send`: as many as the packet
has, from the data of its first fragment on. -/
def sent (pkt : NetPkt) : List UInt8 :=
  Region.slice pkt.memory 0 pkt.fragsLen

theorem length_sent (pkt : NetPkt) : pkt.sent.length = pkt.fragsLen :=
  Region.length_slice _ _ _

end NetPkt

namespace Bus

/-- `virt_wifi_l2_send` -/
def virtWifiL2Send (bus : Bus) (pkt : NetPkt) : Except Errno Bus :=
  bus.busSend .wifiData pkt.sent

def dataFrame (bus : Bus) (pkt : NetPkt)
    (bounded : pkt.fragsLen < 65536) : Frame :=
  .ofPayload .wifiData (Fin.ofNat 16 bus.txSeq) pkt.sent
    (by rw [pkt.length_sent]; exact bounded)

theorem virtWifiL2Send_eq {bus : Bus} {pkt : NetPkt}
    (opened : bus.opened = true) (positive : 0 < pkt.fragsLen)
    (short : pkt.fragsLen ≤ serialMaxPayloadLen)
    (bounded : pkt.fragsLen < 65536) :
    ∃ later, bus.virtWifiL2Send pkt = .ok later ∧
      later.wire = bus.wire ++
        [(.request, (bus.dataFrame pkt bounded).header,
          (bus.dataFrame pkt bounded).payload)] := by
  have checked : bus.checkRequest (sendCall .wifiData pkt.sent) = .ok () := by
    apply checkRequest_ok opened rfl
    · show 0 < pkt.sent.length
      rw [pkt.length_sent]
      exact positive
    · show pkt.sent.length ≤ serialMaxPayloadLen
      rw [pkt.length_sent]
      exact short
  refine ⟨bus.reserveSend.busSendRaw .request
    (bus.requestHeader (sendCall .wifiData pkt.sent)) pkt.sent, ?_, ?_⟩
  · rw [virtWifiL2Send, busSend, checked]
  · have header : bus.requestHeader (sendCall .wifiData pkt.sent) =
        (bus.dataFrame pkt bounded).header := by
      have small : pkt.sent.length < 65536 := by
        rw [pkt.length_sent]
        exact bounded
      have length : Fin.ofNat 65536 pkt.sent.length =
          ⟨pkt.sent.length, small⟩ := Fin.ext (Nat.mod_eq_of_lt small)
      simp only [requestHeader, sendCall, dataFrame, Frame.ofPayload, length]
    rw [← header]
    rfl

end Bus

/-- `wifi_data_message_complete` behind the lookup and the allocation: the
contents of the packet passed to `net_send_data` and the proxy's state.
`room` is what the packet allocated for a length holds; `net_pkt_write` writes
no more. -/
def wifiDataMessageComplete (room : Nat → Nat) (len : Nat)
    (state : ClientState) : List UInt8 × ClientState :=
  let messageLength := sizeAdd state.accumulated len
  ((Region.slice state.buffer 4 messageLength).take (room len),
    { state with accumulated := 0 })

/-- With an interface, this is what the serial layer sees of the proxy. -/
theorem wifiDataMessageComplete_state {build : Build}
    (present : build.wifiIfacePresent = true) (room : Nat → Nat) (len : Nat)
    (state : ClientState) :
    (wifiDataMessageComplete room len state).2 =
      Client.wifiData.messageComplete build state := by
  simp only [wifiDataMessageComplete, Client.messageComplete, present, if_true]

/-- The contents of the packets passed to `net_send_data`. -/
def netSendData (build : Build) (room : Nat → Nat) (trace : List Event) :
    List (List UInt8) :=
  (completions trace).filterMap fun (client, len, state) =>
    if client = .wifiData ∧ build.wifiIfacePresent = true then
      some (wifiDataMessageComplete room len state).1
    else none

namespace Device

/-- The device is certain to send one packet with the given contents for a
frame that arrives whole, and to have nothing accumulated then.  Nothing is
certain once bytes have been stored through an unset pointer. -/
def ForwardsPacket (build : Build) (room : Nat → Nat) (frame : Frame)
    (contents : List UInt8) (device : Device) : Prop :=
  ∃ final, Serves build (device.arrive frame.encode) final ∧
    final.stray = false ∧
    netSendData build room final.trace =
      netSendData build room device.trace ++ [contents] ∧
    (final.clients .wifiData).accumulated = 0

variable {build : Build} {frame : Frame} {device later : Device}

section Data

variable (head : FrameAtHead build .wifiData frame [] device)

include head

/-- A frame for the data proxy is refused, or stored through the unset
pointer. -/
theorem served_wifiData (served : Serves build device later) :
    later.stray = true ∨
      completions later.trace = completions device.trace := by
  rcases Client.acquireBuffer_wifiData build (device.clients .wifiData)
    frame.payload.length with refused | granted
  · right
    rw [(head.refused_iff refused).mp served, refuseFrame_completions]
    simp
  · left
    exact (returns_advances ((head.granted_iff granted).mp served)).stray
      (completed_stray_of_none build .wifiData device frame [])

/-- The packet that is sent for it holds what stood in the buffer before, and
up to twice as many bytes as the frame. -/
theorem serves_wifiData (idle : (device.clients .wifiData).accumulated = 0)
    (present : build.wifiIfacePresent = true)
    (fits : frame.payload.length ≤ 1600)
    (expected : frame.header.sequenceNumber.val = device.rxSequenceNumber)
    (room : Nat → Nat) :
    ∃ final, Serves build device final ∧ final.stray = true ∧
      netSendData build room final.trace =
        netSendData build room device.trace ++
          [(Region.slice (device.clients .wifiData).buffer 4
            (2 * frame.payload.length)).take (room frame.payload.length)] := by
  have free : ∀ state : ClientState, state.accumulated = 0 →
      Client.wifiData.acquireBuffer build state frame.payload.length =
        .granted none := by
    intro state none
    have enough : exceedsFree 1600 state frame.payload.length = false :=
      Client.exceedsFree_eq_false (by decide) (by omega)
    simp [Client.acquireBuffer, wifiDataAcquireBuffer, enough]
  let final := device.completed build .wifiData none frame []
  have called := completeFrame_completions build .wifiData frame.header.type
    ((device.handling frame []).loaded build .wifiData none frame.payload [])
    expected.symm
  have told := completeFrame_clients build .wifiData frame.header.type
    ((device.handling frame []).loaded build .wifiData none frame.payload [])
    expected.symm
  have emptied : (final.clients .wifiData).accumulated = 0 := by
    show ((final.clients .wifiData)).accumulated = 0
    simp only [final, completed, resetParser_clients, told,
      Client.messageComplete, present, if_true]
  have again : final.clientStep build .wifiData frame.header.type =
      .stop final := by
    have count : final.serialHeader.length.val - final.bytesRead =
        frame.payload.length := by
      simp [final, frame.length_eq]
    have granted := free _ emptied
    rw [← count] at granted
    apply clientStep_of_granted_empty _ _ granted
    · simpa [final] using head.healthy
    · simp [final]
  refine ⟨final, ?_, completed_stray_of_none _ _ _ _ _, ?_⟩
  · apply (head.granted_iff (free _ idle)).mpr
    exact Loop.returns_of_stop
      (completed_missing build .wifiData device none frame [] head.positive)
      again
  · have small : frame.payload.length + frame.payload.length <
        sizeModulus := by
      unfold sizeModulus
      omega
    have counted : (Client.wifiData.commitData (device.clients .wifiData)
        frame.payload.length).accumulated = frame.payload.length := by
      simp only [Client.commitData, Client.keepsLength, if_true, idle]
      exact (sizeAdd_eq (by omega)).trans (Nat.zero_add _)
    have calls : completions final.trace = completions device.trace ++
        [(.wifiData, frame.payload.length,
          Client.wifiData.commitData (device.clients .wifiData)
            frame.payload.length)] := by
      simp only [final, completed, resetParser_trace, called]
      simp [frame.length_eq, loaded, storePayload]
    rw [netSendData, calls, List.filterMap_append, netSendData]
    simp [wifiDataMessageComplete, counted, sizeAdd_eq small, Nat.two_mul,
      Client.commitData_buffer, present]

end Data

/-- No frame for the data proxy is certain to be forwarded. -/
theorem not_forwardsPacket (registered : build.registered .wifiData = true)
    (type : frame.header.type = .wifiData)
    (atType : device.parsingState = .type) (empty : device.rxFifo = [])
    (healthy : device.rxError = false) (positive : 0 < frame.payload.length)
    (bounded : frame.payload.length ≤ serialMaxPayloadLen)
    (room : Nat → Nat) (contents : List UInt8) :
    ¬ForwardsPacket build room frame contents device := by
  have head : FrameAtHead build .wifiData frame []
      (device.arrive frame.encode) :=
    { atType, healthy
      fifo := by simp [Device.arrive, empty]
      callbacks := by simp [serialMuxGetCallbacks, type, registered]
      positive, bounded }
  rintro ⟨final, served, unharmed, sent, -⟩
  rcases served_wifiData head served with stray | none
  · rw [unharmed] at stray
    cases stray
  · have same : netSendData build room final.trace =
        netSendData build room device.trace := by
      rw [netSendData, none]
      rfl
    rw [same] at sent
    exact absurd sent.symm (by simp)

end Device

/-- A packet handed to `virt_wifi_l2_send` goes out in one `WIFI_DATA` frame,
which the device, whatever its data proxy has accumulated, is never certain to
turn into a packet with the same contents. -/
theorem data_path_never_intact (build : Build)
    (registered : build.registered .wifiData = true) (room : Nat → Nat)
    (pkt : NetPkt) (positive : 1 ≤ pkt.fragsLen)
    (bounded : pkt.fragsLen ≤ 1600) (bus : Bus) (opened : bus.opened = true)
    (device : Device) (atType : device.parsingState = .type)
    (empty : device.rxFifo = []) (healthy : device.rxError = false)
    (expected : bus.txSeq = device.rxSequenceNumber) :
    ∃ later frame,
      bus.virtWifiL2Send pkt = .ok later ∧
      later.wire = bus.wire ++ [(.request, frame.header, frame.payload)] ∧
      frame.header.type = .wifiData ∧
      frame.header.sequenceNumber.val = device.rxSequenceNumber % 16 ∧
      ¬Device.ForwardsPacket build room frame pkt.contents device := by
  have short : pkt.fragsLen ≤ serialMaxPayloadLen := by
    unfold serialMaxPayloadLen
    omega
  have small : pkt.fragsLen < 65536 := by omega
  obtain ⟨later, sent, wire⟩ :=
    @Bus.virtWifiL2Send_eq bus pkt opened positive short small
  have length : (bus.dataFrame pkt small).payload.length = pkt.fragsLen :=
    pkt.length_sent
  refine ⟨later, bus.dataFrame pkt small, sent, wire, rfl, ?_, ?_⟩
  · rw [← expected]
    rfl
  · apply Device.not_forwardsPacket registered rfl atType empty healthy
    · rw [length]
      exact positive
    · rw [length]
      exact short

/-- A packet of two bytes in one fragment. -/
def twoBytePkt : NetPkt where
  first := [5, 6]
  others := []
  memory := fun index => if index = 0 then 5 else 6
  nonempty := by decide
  located := rfl

theorem data_path_never_intact_twoBytePkt :
    ∃ later frame,
      Bus.inUse.virtWifiL2Send twoBytePkt = .ok later ∧
      later.wire = Bus.inUse.wire ++
        [(.request, frame.header, frame.payload)] ∧
      frame.header.type = .wifiData ∧
      frame.header.sequenceNumber.val = Device.boot.rxSequenceNumber % 16 ∧
      ¬Device.ForwardsPacket Build.full id frame twoBytePkt.contents
        Device.boot :=
  data_path_never_intact Build.full rfl id twoBytePkt (by decide) (by decide)
    Bus.inUse rfl Device.boot rfl rfl rfl rfl

/-- The frame of this packet makes the device send one that is read from the
empty buffer. -/
theorem twoBytePkt_not_forwarded :
    twoBytePkt.sent = [5, 6] ∧
      (∃ final,
        Device.Serves Build.full (Device.boot.arrive
          (Bus.inUse.dataFrame twoBytePkt (by decide)).encode) final ∧
        final.stray = true ∧ netSendData Build.full id final.trace = [[0, 0]]) ∧
      ¬Device.ForwardsPacket Build.full id
        (Bus.inUse.dataFrame twoBytePkt (by decide)) [5, 6] Device.boot := by
  have head : Device.FrameAtHead Build.full .wifiData
      (Bus.inUse.dataFrame twoBytePkt (by decide)) []
      (Device.boot.arrive
        (Bus.inUse.dataFrame twoBytePkt (by decide)).encode) :=
    { atType := rfl, healthy := rfl, fifo := rfl, callbacks := by decide
      positive := by decide, bounded := by decide }
  refine ⟨rfl, ?_, ?_⟩
  · obtain ⟨final, served, stray, sent⟩ :=
      Device.serves_wifiData head rfl rfl (by decide) rfl id
    exact ⟨final, served, stray, sent⟩
  · exact Device.not_forwardsPacket rfl rfl rfl rfl rfl (by decide)
      (by decide) id [5, 6]

end SerialLink
