import SerialLink.Library.Varint
import SerialLink.Session.Notifications
import SerialLink.Wifi.Capture

/-!
# The frames of a raw capture at the host

What the thread of the capture reads goes to the host as notifications,
between the other frames of the device.  The host gets the packets that the
capture has heard, in their order and cut to what a notification holds.
-/

namespace SerialLink

namespace Wifi

/-- `RAW_RX_REPORT_MAX_LEN` -/
def rawRxReportMaxLen : Nat := 2400

/-- A `WifiMgmtNotification`, with the interface of its event and the frame of
a `RawFrameRxEvent`. -/
structure RawNotification where
  event : Option (UInt32 × Option (List UInt8))
  deriving DecidableEq, Repr

/-- `pb_encode` on the device and `WifiMgmtNotification::decode` on the
host. -/
structure RawCodec where
  encode : RawNotification → Option (List UInt8)
  decode : List UInt8 → Option RawNotification

/-- The notification of a frame, of which no more is reported than its array
holds. -/
def rawRxNotification (iface : Option Nat) (frame : List UInt8) :
    RawNotification where
  event :=
    some (UInt32.ofNat (iface.getD 0), some (frame.take rawRxReportMaxLen))

/-- What fits its array is encoded into a payload that fits a frame, and the
host decodes it.  An empty payload has no event. -/
structure RawCodec.Sound (codec : RawCodec) : Prop where
  encodes : ∀ index frame, frame.length ≤ rawRxReportMaxLen →
    ∃ bytes, codec.encode { event := some (index, some frame) } = some bytes ∧
      bytes.length ≤ serialMaxPayloadLen ∧
      codec.decode bytes = some { event := some (index, some frame) }
  empty : ∀ notification, codec.decode [] = some notification →
    notification.event = none

/-- `decode_raw_frame_rx_event` -/
def decodeRawFrameRxEvent (codec : RawCodec) (frame : Protocol.Frame) :
    Option (List UInt8) :=
  if frame.rtype ≠ .wifiMgmt then none
  else do
    let notification ← codec.decode frame.payload
    let event ← notification.event
    event.2

/-- The frame of a notification with the interface that it names. -/
def rawFrameOf (codec : RawCodec) (frame : Protocol.Frame) :
    Option (UInt32 × List UInt8) :=
  if frame.rtype ≠ .wifiMgmt then none
  else do
    let notification ← codec.decode frame.payload
    let event ← notification.event
    event.2.map (event.1, ·)

theorem decodeRawFrameRxEvent_eq (codec : RawCodec)
    (frame : Protocol.Frame) :
    decodeRawFrameRxEvent codec frame =
      (rawFrameOf codec frame).map Prod.snd := by
  unfold decodeRawFrameRxEvent rawFrameOf
  split_ifs with other
  · rfl
  · simp [Option.map_bind, Function.comp_def]

/-- The capture and the interface that its notifications go to. -/
structure Sniffer where
  rx : RawRx
  device : Device

/-- Steps of the capture, and what the rest of the device sends meanwhile. -/
inductive SnifferStep where
  | capture (step : RxStep)
  /-- `serial_send_frame` of another thread -/
  | send (type : SerialType) (payload : List UInt8)
  | sendAck (type : SerialType) (sequenceNumber : Nat) (error : ErrorType)

namespace Sniffer

variable (codec : RawCodec)

/-- `serial_mux_send`, whose errors are only logged. -/
def send (sniffer : Sniffer) (type : SerialType) (payload : List UInt8) :
    Sniffer :=
  match sniffer.device.serialSendFrame type .noError false payload with
  | .ok device => { sniffer with device }
  | .error _ => sniffer

/-- `raw_rx_notify_cb` -/
def rawRxNotifyCb (sniffer : Sniffer) (iface : Option Nat)
    (frame : List UInt8) : Sniffer :=
  match codec.encode (rawRxNotification iface frame) with
  | some bytes => sniffer.send .wifiMgmt bytes
  | none => sniffer

/-- The thread of the capture calls `raw_rx_notify_cb` with what it adds to
the reported frames. -/
def step (sniffer : Sniffer) : SnifferStep → Sniffer
  | .capture step =>
      let rx := sniffer.rx.step step
      (rx.reported.drop sniffer.rx.reported.length).foldl
        (fun sniffer report => sniffer.rawRxNotifyCb codec report.1 report.2)
        { sniffer with rx }
  | .send type payload => sniffer.send type payload
  | .sendAck type sequenceNumber error =>
      { sniffer with
        device := sniffer.device.sendAck type sequenceNumber error }

def run (sniffer : Sniffer) (steps : List SnifferStep) : Sniffer :=
  steps.foldl (step codec) sniffer

def initial (radio : Nat → RadioSettings) : Sniffer where
  rx := .initial radio
  device := .boot

end Sniffer

namespace SnifferStep

/-- The steps of the capture. -/
def captureSteps (steps : List SnifferStep) : List RxStep :=
  steps.filterMap fun
    | .capture step => some step
    | _ => none

/-- What the rest of the device sends is of a known type and no notification
of a raw frame. -/
def Foreign (codec : RawCodec) : SnifferStep → Prop
  | .capture _ => True
  | .send type payload =>
      type.known = true ∧ (type = .wifiMgmt →
        ∀ notification, codec.decode payload = some notification →
          ∀ event, notification.event = some event → event.2 = none)
  | .sendAck type _ _ => type.known = true

end SnifferStep

section Transport

open Protocol

variable {codec : RawCodec} {device later : Device}
  {packets : List (UInt32 × List UInt8)}

/-- The device has written whole frames that the host can read, with these
packets among them. -/
def Carries (codec : RawCodec) (device : Device)
    (packets : List (UInt32 × List UInt8)) : Prop :=
  ∃ frames, Egress.sentBytes device.trace = Frame.encodeAll frames ∧
    (∀ frame ∈ frames, World.Legible frame) ∧
    (Protocol.received frames).filterMap (rawFrameOf codec) = packets

theorem Carries.append (carries : Carries codec device packets)
    {frame : SerialLink.Frame} (legible : World.Legible frame)
    (sent : Egress.sentBytes later.trace =
      Egress.sentBytes device.trace ++ frame.encode) :
    Carries codec later
      (packets ++ (rawFrameOf codec legible.read).toList) := by
  obtain ⟨frames, written, all, found⟩ := carries
  refine ⟨frames ++ [frame], ?_, ?_, ?_⟩
  · rw [sent, written]
    simp
  · intro other member
    rcases List.mem_append.mp member with before | new
    · exact all other before
    · cases List.mem_singleton.mp new
      exact legible
  · have read : Protocol.received (frames ++ [frame]) =
        Protocol.received frames ++ [legible.read] := by
      rw [Protocol.received, List.filterMap_append]
      exact congrArg (Protocol.received frames ++ ·) (received_cons legible [])
    rw [read, List.filterMap_append, found]
    cases told : rawFrameOf codec legible.read <;> simp [told]

/-- A frame of `serial_send_frame` as the host reads it. -/
theorem Carries.serialSendFrame (carries : Carries codec device packets)
    {type : SerialType} {payload : List UInt8} (known : type.known = true)
    (sent : device.serialSendFrame type .noError false payload = .ok later) :
    ∃ read : Protocol.Frame, read.rtype = type ∧ read.payload = payload ∧
      Carries codec later (packets ++ (rawFrameOf codec read).toList) := by
  unfold Device.serialSendFrame at sent
  split at sent
  · cases sent
  · next short =>
      have bounded : payload.length ≤ serialMaxPayloadLen := by omega
      let request : Request := ⟨type, .noError, false, payload⟩
      let frame := request.frame device.txSequenceNumber bounded
      have legible : World.Legible frame := ⟨known, rfl, bounded⟩
      cases sent
      refine ⟨legible.read, rfl, rfl, carries.append legible ?_⟩
      simp [Egress.sentBytes, Device.log, frame, request, Request.frame,
        SerialLink.Frame.encode]

theorem rawFrameOf_eq_none {read : Protocol.Frame}
    (foreign : read.rtype = .wifiMgmt →
      ∀ notification, codec.decode read.payload = some notification →
        ∀ event, notification.event = some event → event.2 = none) :
    rawFrameOf codec read = none := by
  unfold rawFrameOf
  split_ifs with other
  · rfl
  · have typed := not_not.mp other
    cases decoded : codec.decode read.payload with
    | none => rfl
    | some notification =>
        cases told : notification.event with
        | none => simp [told]
        | some event =>
            have nothing := foreign typed notification decoded event told
            simp [told, nothing]

theorem Carries.sendAck (sound : codec.Sound)
    (carries : Carries codec device packets) {type : SerialType}
    (known : type.known = true) (sequenceNumber : Nat) (error : ErrorType) :
    Carries codec (device.sendAck type sequenceNumber error) packets := by
  have legible : World.Legible (ackFrame type sequenceNumber error) :=
    ⟨known, rfl, Nat.zero_le _⟩
  have none : rawFrameOf codec legible.read = none := by
    refine rawFrameOf_eq_none fun _ notification decoded event told => ?_
    rw [sound.empty notification decoded] at told
    cases told
  have appended : Carries codec (device.sendAck type sequenceNumber error)
      (packets ++ (rawFrameOf codec legible.read).toList) := by
    refine carries.append legible ?_
    simp [Egress.sentBytes, Device.sendAck, Device.log, ackFrame,
      SerialLink.Frame.encode]
  rw [none] at appended
  simpa using appended

variable {sniffer : Sniffer}

@[simp] theorem Sniffer.send_rx (sniffer : Sniffer) (type : SerialType)
    (payload : List UInt8) : (sniffer.send type payload).rx = sniffer.rx := by
  unfold Sniffer.send
  split <;> rfl

@[simp] theorem Sniffer.rawRxNotifyCb_rx (sniffer : Sniffer)
    (iface : Option Nat) (frame : List UInt8) :
    (sniffer.rawRxNotifyCb codec iface frame).rx = sniffer.rx := by
  unfold Sniffer.rawRxNotifyCb
  split
  · exact sniffer.send_rx _ _
  · rfl

theorem Carries.send (carries : Carries codec sniffer.device packets)
    {type : SerialType} {payload : List UInt8}
    (foreign : (SnifferStep.send type payload).Foreign codec) :
    Carries codec (sniffer.send type payload).device packets := by
  unfold Sniffer.send
  split
  · next sent =>
      obtain ⟨read, rfl, rfl, appended⟩ :=
        carries.serialSendFrame foreign.1 sent
      rw [rawFrameOf_eq_none foreign.2] at appended
      simpa using appended
  · exact carries

/-- A captured packet goes out as one frame, cut to what is reported. -/
theorem Carries.rawRxNotifyCb (sound : codec.Sound)
    (carries : Carries codec sniffer.device packets) (index : Nat)
    (frame : List UInt8) :
    Carries codec (sniffer.rawRxNotifyCb codec (some index) frame).device
      (packets ++ [(UInt32.ofNat index, frame.take rawRxReportMaxLen)]) := by
  obtain ⟨bytes, encoded, bounded, decoded⟩ :=
    sound.encodes (UInt32.ofNat index) (frame.take rawRxReportMaxLen)
      (List.length_take_le _ _)
  have fits : ¬bytes.length > serialMaxPayloadLen := Nat.not_lt.mpr bounded
  unfold Sniffer.rawRxNotifyCb Sniffer.send
  rw [rawRxNotification, Option.getD_some, encoded]
  dsimp only
  split
  · next sent =>
      obtain ⟨read, typed, payload, appended⟩ :=
        carries.serialSendFrame rfl sent
      have told : rawFrameOf codec read =
          some (UInt32.ofNat index, frame.take rawRxReportMaxLen) := by
        simp [rawFrameOf, typed, payload, decoded]
      rw [told] at appended
      exact appended
  · next failed =>
      simp [Device.serialSendFrame, if_neg fits] at failed

/-- The packets that one step of the capture reports go out one after the
other. -/
theorem Carries.reports (sound : codec.Sound)
    (carries : Carries codec sniffer.device packets)
    (news : List (Nat × List UInt8)) :
    let later := (news.map fun packet => (some packet.1, packet.2)).foldl
      (fun sniffer report => sniffer.rawRxNotifyCb codec report.1 report.2)
      sniffer
    later.rx = sniffer.rx ∧
      Carries codec later.device (packets ++ news.map fun packet =>
        (UInt32.ofNat packet.1, packet.2.take rawRxReportMaxLen)) := by
  induction news generalizing sniffer packets with
  | nil => exact ⟨rfl, by simpa using carries⟩
  | cons packet news induction =>
      obtain ⟨same, behind⟩ :=
        induction (carries.rawRxNotifyCb sound packet.1 packet.2)
      refine ⟨same.trans (sniffer.rawRxNotifyCb_rx _ _), ?_⟩
      simpa using behind

end Transport

/-- The capture of the code, and what the host can read of it. -/
structure AtHost (codec : RawCodec) (sniffer : Sniffer) (capture : Capture) :
    Prop where
  refines : Refines sniffer.rx capture
  carries : Carries codec sniffer.device (capture.heard.map fun packet =>
    (UInt32.ofNat packet.1, packet.2.take rawRxReportMaxLen))

theorem AtHost.capture {codec : RawCodec} {sniffer : Sniffer}
    {capture : Capture} (sound : codec.Sound)
    (atHost : AtHost codec sniffer capture) (step : RxStep) :
    AtHost codec (sniffer.step codec (.capture step)) (capture.step step) := by
  have refines := atHost.refines.step step
  obtain ⟨news, heard⟩ := capture.exists_heard step
  have added : (sniffer.rx.step step).reported.drop
      sniffer.rx.reported.length =
        news.map fun packet => (some packet.1, packet.2) := by
    rw [refines.reported, heard, atHost.refines.reported, List.map_append]
    exact List.drop_left
  have behind : Carries codec
      ({ sniffer with rx := sniffer.rx.step step } : Sniffer).device
      (capture.heard.map fun packet =>
        (UInt32.ofNat packet.1, packet.2.take rawRxReportMaxLen)) :=
    atHost.carries
  obtain ⟨same, carries⟩ := behind.reports sound news
  unfold Sniffer.step
  dsimp only
  rw [added]
  refine ⟨?_, ?_⟩
  · rw [same]
    exact refines
  · rw [heard, List.map_append]
    exact carries

theorem AtHost.step {codec : RawCodec} {sniffer : Sniffer} {capture : Capture}
    (sound : codec.Sound) (atHost : AtHost codec sniffer capture)
    {step : SnifferStep} (foreign : step.Foreign codec) :
    AtHost codec (sniffer.step codec step)
      (capture.run (SnifferStep.captureSteps [step])) := by
  cases step with
  | capture step => exact atHost.capture sound step
  | send type payload =>
      refine ⟨?_, atHost.carries.send foreign⟩
      have same : (sniffer.step codec (.send type payload)).rx = sniffer.rx :=
        sniffer.send_rx type payload
      rw [same]
      exact atHost.refines
  | sendAck type sequenceNumber error =>
      exact ⟨atHost.refines,
        atHost.carries.sendAck sound foreign sequenceNumber error⟩

theorem AtHost.run {codec : RawCodec} {sniffer : Sniffer} {capture : Capture}
    (sound : codec.Sound) (atHost : AtHost codec sniffer capture)
    {steps : List SnifferStep}
    (foreign : ∀ step ∈ steps, step.Foreign codec) :
    AtHost codec (sniffer.run codec steps)
      (capture.run (SnifferStep.captureSteps steps)) := by
  induction steps generalizing sniffer capture with
  | nil => exact atHost
  | cons step steps induction =>
      have behind := induction
        (atHost.step sound (foreign step List.mem_cons_self))
        fun other member => foreign other (List.mem_cons_of_mem step member)
      have split : SnifferStep.captureSteps (step :: steps) =
          SnifferStep.captureSteps [step] ++
            SnifferStep.captureSteps steps := by
        rw [← List.singleton_append, SnifferStep.captureSteps,
          List.filterMap_append]
        rfl
      rw [split, Capture.run, List.foldl_append]
      exact behind

/-- In every run of the capture, whatever the driver and the sockets return
and whatever else the device sends, the code does what a capture is for: its
variables tell the state of the capture, the counter counts the packets, and
the host decodes the packets that were heard, in their order and cut to
2400 bytes, and no others. -/
theorem raw_frames_at_host (codec : RawCodec) (sound : codec.Sound)
    (radio : Nat → RadioSettings) (steps : List SnifferStep)
    (foreign : ∀ step ∈ steps, step.Foreign codec) :
    let sniffer := (Sniffer.initial radio).run codec steps
    let capture :=
      (Capture.initial radio).run (SnifferStep.captureSteps steps)
    Refines sniffer.rx capture ∧
      ∃ frames,
        Egress.sentBytes sniffer.device.trace = Frame.encodeAll frames ∧
        (∀ frame ∈ frames, Protocol.World.Legible frame) ∧
        (Protocol.received frames).filterMap (decodeRawFrameRxEvent codec) =
          capture.heard.map fun packet => packet.2.take rawRxReportMaxLen := by
  have start : AtHost codec (.initial radio) (.initial radio) :=
    ⟨initial_refines radio, [], rfl, by simp, rfl⟩
  obtain ⟨refines, frames, written, legible, found⟩ :=
    start.run sound foreign
  refine ⟨refines, frames, written, legible, ?_⟩
  have decoded : (Protocol.received frames).filterMap
      (decodeRawFrameRxEvent codec) =
        ((Protocol.received frames).filterMap (rawFrameOf codec)).map
          Prod.snd := by
    rw [List.map_filterMap]
    exact List.filterMap_congr fun frame _ =>
      decodeRawFrameRxEvent_eq codec frame
  rw [decoded, found, List.map_map]
  rfl

section Example

open Varint

/-- `RawFrameRxEvent`; a field with its default is left out. -/
def frameField (frame : List UInt8) : List UInt8 :=
  if frame = [] then [] else 0x0A :: (varint 4 frame.length ++ frame)

def readFrameField : List UInt8 → Option (List UInt8)
  | [] => some []
  | tag :: bytes =>
      if tag = 0x0A then
        match readVarint bytes with
        | some (length, frame) =>
            if frame.length = length then some frame else none
        | none => none
      else none

def indexField (index : UInt32) : List UInt8 :=
  if index = 0 then [] else 0x08 :: varint 4 index.toNat

def readIndexField : List UInt8 → Option (UInt32 × List UInt8)
  | [] => some (0, [])
  | tag :: bytes =>
      if tag = 0x08 then
        (readVarint bytes).map fun (value, rest) => (UInt32.ofNat value, rest)
      else some (0, tag :: bytes)

theorem readFrameField_frameField {frame : List UInt8}
    (short : frame.length < 128 ^ 5) :
    readFrameField (frameField frame) = some frame := by
  unfold frameField
  split_ifs with empty
  · rw [empty]
    rfl
  · simp [readFrameField, readVarint_varint 4 frame.length short]

theorem readIndexField_indexField (index : UInt32) (tag : UInt8)
    (other : tag ≠ 0x08) (rest : List UInt8) :
    readIndexField (indexField index ++ tag :: rest) =
      some (index, tag :: rest) := by
  unfold indexField
  split_ifs with zero
  · simp [readIndexField, other, zero]
  · have small : index.toNat < 128 ^ 5 :=
      Nat.lt_trans index.toNat_lt (by decide)
    simp [readIndexField, readVarint_varint 4 index.toNat small]

/-- `WifiEvent` with a `RawFrameRxEvent`. -/
def eventField (index : UInt32) (frame : List UInt8) : List UInt8 :=
  indexField index ++
    0x52 :: (varint 4 (frameField frame).length ++ frameField frame)

def readEventField (bytes : List UInt8) :
    Option (UInt32 × Option (List UInt8)) :=
  match readIndexField bytes with
  | some (index, tag :: rest) =>
      if tag = 0x52 then
        match readVarint rest with
        | some (_, field) =>
            (readFrameField field).map fun frame => (index, some frame)
        | none => none
      else none
  | _ => none

/-- The two libraries on notifications of raw frames. -/
def rawCodec : RawCodec where
  encode := fun notification =>
    match notification.event with
    | some (index, some frame) =>
        if frame.length ≤ rawRxReportMaxLen then
          some (0x0A :: (varint 4 (eventField index frame).length ++
            eventField index frame))
        else none
    | _ => none
  decode := fun bytes =>
    match bytes with
    | [] => some { event := none }
    | tag :: rest =>
        if tag = 0x0A then
          match readVarint rest with
          | some (_, field) =>
              (readEventField field).map fun event => { event := some event }
          | none => none
        else none

theorem length_frameField (frame : List UInt8) :
    (frameField frame).length ≤ frame.length + 6 := by
  have prefixed := length_varint 4 frame.length
  unfold frameField
  split_ifs
  · simp
  · simp only [List.length_cons, List.length_append]
    omega

theorem length_eventField (index : UInt32) (frame : List UInt8) :
    (eventField index frame).length ≤ frame.length + 18 := by
  have inner := length_frameField frame
  have prefixed := length_varint 4 (frameField frame).length
  have indexed : (indexField index).length ≤ 6 := by
    have value := length_varint 4 index.toNat
    unfold indexField
    split_ifs
    · simp
    · simp only [List.length_cons]
      omega
  simp only [eventField, List.length_cons, List.length_append]
  omega

theorem readEventField_eventField (index : UInt32) {frame : List UInt8}
    (short : frame.length ≤ rawRxReportMaxLen) :
    readEventField (eventField index frame) = some (index, some frame) := by
  have inner := length_frameField frame
  have small : (frameField frame).length < 128 ^ (4 + 1) := by
    unfold rawRxReportMaxLen at short
    omega
  have bounded : frame.length < 128 ^ 5 := by
    unfold rawRxReportMaxLen at short
    omega
  unfold readEventField eventField
  rw [readIndexField_indexField index 0x52 (by decide)]
  simp [readVarint_varint 4 _ small, readFrameField_frameField bounded]

theorem rawCodec_sound : rawCodec.Sound where
  encodes := by
    intro index frame short
    have outer := length_eventField index frame
    have prefixed := length_varint 4 (eventField index frame).length
    have small : (eventField index frame).length < 128 ^ (4 + 1) := by
      unfold rawRxReportMaxLen at short
      omega
    refine ⟨_, if_pos short, ?_, ?_⟩
    · simp only [List.length_cons, List.length_append, serialMaxPayloadLen]
      unfold rawRxReportMaxLen at short
      omega
    · simp [rawCodec, readVarint_varint 4 _ small,
        readEventField_eventField index short]
  empty := by
    intro notification decoded
    cases decoded
    rfl

/-- A packet is heard, the thread dies, another `enable` does not help, and
after a `disable` the capture goes on with another interface. -/
def twoCaptures : List SnifferStep :=
  [.capture (.enable (some { index := 1, isWifi := true }) 6
      RawRx.succeeding),
    .capture (.iteration { poll := 1, recvfrom := .ok [0x80, 0, 1] }),
    .sendAck .wifiMgmt 3 .noError,
    .capture (.iteration { poll := -1, recvfrom := .ok [] }),
    .capture (.enable (some { index := 1, isWifi := true }) 6
      RawRx.succeeding),
    .capture (.iteration { poll := 1, recvfrom := .ok [0x80, 0, 2] }),
    .capture .disable,
    .capture (.enable (some { index := 2, isWifi := true }) 0
      RawRx.succeeding),
    .capture (.iteration { poll := 1, recvfrom := .ok [0x40] })]

theorem twoCaptures_at_host :
    ∃ frames, Egress.sentBytes ((Sniffer.initial RawRx.stations).run rawCodec
        twoCaptures).device.trace = Frame.encodeAll frames ∧
      (Protocol.received frames).filterMap (decodeRawFrameRxEvent rawCodec) =
        [[0x80, 0, 1], [0x40]] := by
  have foreign : ∀ step ∈ twoCaptures, step.Foreign rawCodec := by
    simp [twoCaptures, SnifferStep.Foreign, SerialType.known]
  obtain ⟨-, frames, written, -, decoded⟩ :=
    raw_frames_at_host rawCodec rawCodec_sound RawRx.stations twoCaptures
      foreign
  refine ⟨frames, written, decoded.trans ?_⟩
  decide +kernel

end Example

end Wifi

end SerialLink
