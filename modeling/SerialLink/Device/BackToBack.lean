import SerialLink.Device.WholeFrame

/-!
# Frames that follow each other in the FIFO

After a completed frame the handler's loop is entered again with the length of
that frame.  It leaves the next frame alone only if the client has no room for
a second payload of the same length.
-/

namespace SerialLink

namespace Device

variable {build : Build} {client : Client} {frameType : SerialType}
  {frame : Frame} {frames : List Frame} {rest : List UInt8}
  {device later : Device}

section PositiveLength

/-- The calls of `message_complete` since `before` had a positive length. -/
def CallsPositive (before : List (Client × Nat × ClientState))
    (device : Device) : Prop :=
  ∃ calls, completions device.trace = before ++ calls ∧
    ∀ call ∈ calls, 0 < call.2.1

theorem uartIrqCallback_completions (device : Device) :
    completions device.uartIrqCallback.trace = completions device.trace := by
  apply (uartIrqCallback_records device).filterMap_eq
  intro event ofCallback
  cases event with
  | messageComplete => exact ofCallback.elim
  | send => rfl
  | typeByte => rfl

theorem Records.callsPositive (records : Records Event.OfHandler device later) :
    CallsPositive (completions device.trace) later := by
  obtain ⟨events, recorded, ofHandler⟩ := records
  refine ⟨completions events, ?_, ?_⟩
  · rw [recorded, completions_append]
  · intro call member
    obtain ⟨event, eventMember, projected⟩ := List.mem_filterMap.mp member
    have permitted := ofHandler event eventMember
    cases event with
    | messageComplete =>
        cases projected
        exact permitted
    | send => cases projected
    | typeByte => cases projected

/-- A receive event never calls `message_complete` for an empty payload. -/
theorem serves_calls_positive (served : Serves build device later) :
    CallsPositive (completions device.trace) later := by
  rw [← uartIrqCallback_completions device]
  exact (serves_records served).callsPositive

end PositiveLength

/-- The bytes of a message as `message_complete` finds them: the last `len` of
those its client counts, or the first `len` if it counts none. -/
def messageBytes (client : Client) (len : Nat) (state : ClientState) :
    List UInt8 :=
  Region.slice state.buffer (client.occupied state - len) len

/-- Every receive event takes exactly one frame from the FIFO and hands its
payload, and nothing else, to the client of its type. -/
def DeliversInOrder (build : Build) : List Frame → Device → Prop
  | [], _ => True
  | frame :: frames, device =>
      ∃ client later state,
        serialMuxGetCallbacks build frame.header.type = some client ∧
        Serves build device later ∧
        later.rxFifo = Frame.encodeAll frames ∧
        later.stray = false ∧
        completions later.trace = completions device.trace ++
          [(client, frame.payload.length, state)] ∧
        messageBytes client frame.payload.length state = frame.payload ∧
        DeliversInOrder build frames later

/-- The condition for frames to stay apart, `used` being the bytes that stand
in each client's buffer: every payload fits, and a frame with another one
behind it is for a management client and fills its buffer so far that a second
payload of that length does not fit. -/
def StayApart (build : Build) : List Frame → (Client → Nat) → Prop
  | [], _ => True
  | frame :: frames, used =>
      ∃ client, serialMuxGetCallbacks build frame.header.type = some client ∧
        client ≠ .wifiData ∧
        0 < frame.payload.length ∧
        used client + frame.payload.length ≤ client.capacity build ∧
        (frames = [] ∨
          client.isMgmt = true ∧
            client.capacity build <
              used client + frame.payload.length + frame.payload.length ∧
            StayApart build frames fun other =>
              if other = client then used client + frame.payload.length
              else used other)

/-- The bytes that stand in each client's buffer. -/
def occupied (device : Device) (client : Client) : Nat :=
  client.occupied (device.clients client)


/-- The device after a whole frame was stored behind what its client counts. -/
def accepted (build : Build) (client : Client) (frame : Frame)
    (rest : List UInt8) (device : Device) : Device :=
  device.completed build client (some (device.occupied client)) frame rest

theorem accepted_count (device : Device) (build : Build) (client : Client)
    (frame : Frame) (rest : List UInt8) :
    (device.accepted build client frame rest).serialHeader.length.val -
        (device.accepted build client frame rest).bytesRead =
      frame.payload.length := by
  simp [accepted, frame.length_eq]

/-- A frame with the expected number that its client could hold, whole at the
head of the FIFO. -/
structure HeadFrame (build : Build) (client : Client) (frame : Frame)
    (rest : List UInt8) (device : Device) : Prop
    extends FrameAtHead build client frame rest device where
  expected : frame.header.sequenceNumber.val = device.rxSequenceNumber
  within : frame.payload.length ≤ client.capacity build

namespace HeadFrame

variable (head : HeadFrame build client frame rest device)

include head

/-- Without room for the payload, or a place to put it, there is no delivery. -/
theorem not_delivered
    (misplaced : client = .wifiData ∨
      client.capacity build < device.occupied client + frame.payload.length)
    (served : Serves build device later) :
    later.stray = true ∨
      completions later.trace = completions device.trace := by
  cases acquisition : client.acquireBuffer build (device.clients client)
      frame.payload.length with
  | refused =>
      right
      rw [head.toFrameAtHead.refused_iff acquisition] at served
      rw [served, refuseFrame_completions]
      simp
  | granted base =>
      left
      apply (returns_advances
        ((head.toFrameAtHead.granted_iff acquisition).mp served)).stray
      by_cases data : client = .wifiData
      · subst data
        have unset := Client.acquireBuffer_wifiData build
          (device.clients .wifiData) frame.payload.length
        simp only [acquisition, reduceCtorEq, false_or,
          Acquisition.granted.injEq] at unset
        rw [unset]
        exact completed_stray_of_none build .wifiData device frame rest
      · have beyond : client.capacity build <
            device.occupied client + frame.payload.length := by
          simpa [data] using misplaced
        have placed := Client.acquireBuffer_cases build
          (device.clients client) frame.payload.length data
        simp only [acquisition, reduceCtorEq, false_or,
          Acquisition.granted.injEq] at placed
        rw [placed, completed_stray]
        simpa [occupied] using Or.inr beyond

omit head in
/-- A message stored behind what its client counts is found there. -/
theorem messageBytes_deliveredState
    (small : (device.clients client).accumulated + frame.payload.length <
      sizeModulus ∨ client.keepsLength = false) :
    messageBytes client frame.payload.length
        (deliveredState client (device.occupied client) frame device) =
      frame.payload := by
  have start : client.occupied
      (deliveredState client (device.occupied client) frame device) -
        frame.payload.length = device.occupied client := by
    simp only [deliveredState, Client.occupied, Client.commitData, occupied]
    split
    · next keeps =>
        have noWrap : (device.clients client).accumulated +
            frame.payload.length < sizeModulus := by
          simpa [keeps] using small
        simp [sizeAdd_eq noWrap]
    · omega
  rw [messageBytes, start, deliveredState, Client.commitData_buffer]
  exact Region.slice_store_self _ _ _

omit head in
theorem accumulated_small
    (fits : device.occupied client + frame.payload.length ≤
      client.capacity build) :
    (device.clients client).accumulated + frame.payload.length <
      sizeModulus ∨ client.keepsLength = false := by
  by_cases keeps : client.keepsLength = true
  · left
    have bounded := client.capacity_lt build
    have counts : device.occupied client =
        (device.clients client).accumulated := by
      simp [occupied, Client.occupied, keeps]
    omega
  · right
    simpa using keeps

variable (designates : client ≠ .wifiData)
  (fits : device.occupied client + frame.payload.length ≤
    client.capacity build)

include designates fits

theorem fitting_iff :
    Serves build device later ↔
      Loop.Returns payloadMissing (clientStep build client frame.header.type)
        (device.accepted build client frame rest) later :=
  head.toFrameAtHead.granted_iff (Client.acquireBuffer_fits designates fits)

/-- What the frame leaves in its client's buffer. -/
theorem occupied_accepted :
    (device.accepted build client frame rest).occupied client =
      if client.isMgmt then device.occupied client + frame.payload.length
      else 0 := by
  have small : (device.clients client).accumulated + frame.payload.length <
      sizeModulus ∨ client.isMgmt = false := by
    rcases accumulated_small fits with small | uncounted
    · exact Or.inl small
    · right
      revert uncounted
      cases client <;> decide
  rw [occupied, accepted, completed_clients build client _ rest head.expected]
  exact Client.occupied_messageComplete designates small

/-- When the loop is entered again, only a management client without room for
the same length refuses. -/
theorem refused_again_iff :
    client.acquireBuffer build
        ((device.accepted build client frame rest).clients client)
        frame.payload.length = .refused ↔
      client.isMgmt = true ∧ client.capacity build <
        device.occupied client + frame.payload.length +
          frame.payload.length := by
  have holds := head.occupied_accepted designates fits
  rw [occupied] at holds
  have within := head.within
  rw [Client.acquireBuffer_refused_iff designates _ frame.payload_length_le,
    holds]
  · split
    · next mgmt => simp [mgmt]
    · next other => simp [other]; omega
  · rw [holds]
    split <;> omega

/-- A frame with nothing behind it, or with no room for the same length once
more: the loop ends in its second round. -/
theorem serves_of_apart
    (apart : rest = [] ∨ client.isMgmt = true ∧ client.capacity build <
      device.occupied client + frame.payload.length + frame.payload.length) :
    ∃ later, Serves build device later ∧
      (later = device.accepted build client frame rest ∨
        later = (device.accepted build client frame rest).refuseFrame
          frame.header.type) := by
  have again : (device.accepted build client frame rest).payloadMissing =
      true :=
    completed_missing build client device _ frame rest head.positive
  have healthy : (device.accepted build client frame rest).rxError = false := by
    simpa [accepted] using head.healthy
  have fifo : (device.accepted build client frame rest).rxFifo = rest := by
    simp [accepted]
  have stepped :
      (device.accepted build client frame rest).clientStep build client
          frame.header.type = .stop (device.accepted build client frame rest) ∨
        (device.accepted build client frame rest).clientStep build client
          frame.header.type =
            .stop ((device.accepted build client frame rest).refuseFrame
              frame.header.type) := by
    rcases apart with last | full
    · exact clientStep_of_empty build client frame.header.type healthy
        (fifo.trans last)
    · right
      apply clientStep_of_refused
      have refused := (head.refused_again_iff designates fits).mpr full
      rw [← frame.length_eq] at refused
      simpa [accepted] using refused
  rcases stepped with same | refused
  · exact ⟨_, (head.fitting_iff designates fits).mpr
      (Loop.returns_of_stop again same), Or.inl rfl⟩
  · exact ⟨_, (head.fitting_iff designates fits).mpr
      (Loop.returns_of_stop again refused), Or.inr rfl⟩

/-- If the bytes behind the frame are still there after the receive event, the
client has refused the second round. -/
theorem apart_of_serves (served : Serves build device later)
    (kept : later.rxFifo = rest) (more : rest ≠ []) :
    client.isMgmt = true ∧ client.capacity build <
      device.occupied client + frame.payload.length +
        frame.payload.length := by
  have again : (device.accepted build client frame rest).payloadMissing =
      true :=
    completed_missing build client device _ frame rest head.positive
  have healthy : (device.accepted build client frame rest).rxError = false := by
    simpa [accepted] using head.healthy
  have fifo : (device.accepted build client frame rest).rxFifo = rest := by
    simp [accepted]
  have count := device.accepted_count build client frame rest
  rw [← head.refused_again_iff designates fits]
  cases acquisition : client.acquireBuffer build
      ((device.accepted build client frame rest).clients client)
      frame.payload.length with
  | refused => rfl
  | granted base =>
      -- The second round takes bytes that no later one gives back.
      exfalso
      have taken : rest.take frame.payload.length ≠ [] := by
        intro none
        rcases List.take_eq_nil_iff.mp none with zero | empty
        · exact Nat.ne_of_gt head.positive zero
        · exact more empty
      have stepped := (device.accepted build client frame
          rest).clientStep_of_granted frame.header.type base
        (rest.take frame.payload.length) (rest.drop frame.payload.length)
        healthy (by rw [count]; exact acquisition) (by rw [count, fifo])
        (by rw [count, fifo]) taken
      have returns := (head.fitting_iff designates fits).mp served
      have shrunk : later.rxFifo.length ≤
          (rest.drop frame.payload.length).length := by
        split at stepped
        · have advances := returns_advances
            ((Loop.returns_next_iff again stepped).mp returns)
          simpa using advances.fifo
        · have advances := returns_advances
            ((Loop.returns_next_iff again stepped).mp returns)
          simpa [commitData, setClient] using advances.fifo
      have positive := head.positive
      have nonempty : 0 < rest.length := List.length_pos_iff.mpr more
      rw [kept, List.length_drop] at shrunk
      omega

end HeadFrame

/-- A frame that its client is called for, without harm, fits the buffer. -/
theorem HeadFrame.placed_of_called
    (head : HeadFrame build client frame rest device)
    (served : Serves build device later) (unharmed : later.stray = false)
    {call : Client × Nat × ClientState}
    (called : completions later.trace =
      completions device.trace ++ [call]) :
    client ≠ .wifiData ∧
      device.occupied client + frame.payload.length ≤
        client.capacity build := by
  have wellPlaced : ¬(client = .wifiData ∨ client.capacity build <
      device.occupied client + frame.payload.length) := by
    intro misplaced
    rcases head.not_delivered misplaced served with stray | same
    · simp [unharmed] at stray
    · simp [called] at same
  exact ⟨fun data => wellPlaced (.inl data),
    Nat.le_of_not_lt fun beyond => wellPlaced (.inr beyond)⟩

/-- What the receive event of a delivered frame leaves behind. -/
structure Delivered (build : Build) (client : Client) (frame : Frame)
    (rest : List UInt8) (device later : Device) : Prop where
  atType : later.parsingState = .type
  healthy : later.rxError = false
  fifo : later.rxFifo = rest
  sequence : later.rxSequenceNumber = seqNext device.rxSequenceNumber
  stray : later.stray = device.stray
  called : completions later.trace = completions device.trace ++
    [(client, frame.payload.length,
      deliveredState client (device.occupied client) frame device)]
  clients : later.clients = (device.accepted build client frame rest).clients

theorem HeadFrame.delivered (head : HeadFrame build client frame rest device)
    (fits : device.occupied client + frame.payload.length ≤
      client.capacity build)
    (ended : later = device.accepted build client frame rest ∨
      later = (device.accepted build client frame rest).refuseFrame
        frame.header.type) :
    Delivered build client frame rest device later := by
  have placed : ¬client.capacity build <
      device.occupied client + frame.payload.length := by omega
  have accepted :
      Delivered build client frame rest device
        (device.accepted build client frame rest) := by
    constructor
    case atType => rfl
    case healthy => simpa [Device.accepted] using head.healthy
    case fifo => simp [Device.accepted]
    case sequence =>
      exact completed_rxSequenceNumber build client _ rest head.expected
    case stray => simp [Device.accepted, completed_stray, placed]
    case called =>
      exact completed_completions build client _ rest head.expected
    case clients => rfl
  rcases ended with rfl | rfl
  · exact accepted
  · exact
      { accepted with
        atType := rfl
        called := by rw [refuseFrame_completions]; exact accepted.called }

/-- The bytes in the buffers after a management frame has been delivered. -/
theorem Delivered.occupied_eq
    (delivered : Delivered build client frame rest device later)
    (head : HeadFrame build client frame rest device)
    (mgmt : client.isMgmt = true)
    (fits : device.occupied client + frame.payload.length ≤
      client.capacity build) :
    later.occupied = fun other =>
      if other = client then device.occupied client + frame.payload.length
      else device.occupied other := by
  have designates : client ≠ .wifiData := by
    rintro rfl
    exact absurd mgmt (by decide)
  funext other
  split
  · next same =>
      subst same
      rw [occupied, delivered.clients]
      have holds := head.occupied_accepted designates fits
      rw [if_pos mgmt] at holds
      exact holds
  · next different =>
      rw [occupied, delivered.clients]
      unfold Device.accepted
      rw [completed_clients_other build client device _ frame rest different]
      rfl

theorem encodeAll_ne_nil (nonempty : frames ≠ []) :
    Frame.encodeAll frames ≠ [] := by
  cases frames with
  | nil => exact absurd rfl nonempty
  | cons frame frames => simp [Frame.encode, SerialHeader.encode]

theorem positive_of_serves (served : Serves build device later)
    {len : Nat} {state : ClientState}
    (called : completions later.trace =
      completions device.trace ++ [(client, len, state)]) : 0 < len := by
  obtain ⟨calls, recorded, positive⟩ := serves_calls_positive served
  rw [called, List.append_cancel_left_eq] at recorded
  exact positive (client, len, state) (by simp [← recorded])

/-- Frames queued behind each other are delivered one by one if and only if
they stay apart. -/
theorem deliversInOrder_iff (build : Build) (frames : List Frame)
    (device : Device) (atType : device.parsingState = .type)
    (healthy : device.rxError = false) (clean : device.stray = false)
    (fifo : device.rxFifo = Frame.encodeAll frames)
    (registered : ∀ frame ∈ frames, ∃ client,
      serialMuxGetCallbacks build frame.header.type = some client ∧
        frame.payload.length ≤ client.capacity build)
    (consecutive : Consecutive device.rxSequenceNumber frames) :
    DeliversInOrder build frames device ↔
      StayApart build frames device.occupied := by
  induction frames generalizing device with
  | nil => simp [DeliversInOrder, StayApart]
  | cons frame frames induction =>
      obtain ⟨client, callbacks, bounded⟩ := registered frame (by simp)
      obtain ⟨expected, laterConsecutive⟩ := consecutive
      have headOf : 0 < frame.payload.length →
          HeadFrame build client frame (Frame.encodeAll frames) device :=
        fun positive =>
          { atType, healthy, fifo, callbacks, positive, expected
            within := bounded
            bounded := Nat.le_trans bounded (client.capacity_le build) }
      have continues : ∀ {later : Device},
          Delivered build client frame (Frame.encodeAll frames) device later →
          (DeliversInOrder build frames later ↔
            StayApart build frames later.occupied) := by
        intro later delivered
        apply induction later delivered.atType delivered.healthy
          (delivered.stray.trans clean) delivered.fifo
        · exact fun other member => registered other (by simp [member])
        · rw [delivered.sequence]
          exact laterConsecutive
      constructor
      · rintro ⟨other, later, state, otherCallbacks, served, kept, unharmed,
          called, bytes, delivers⟩
        obtain rfl : client = other :=
          Option.some.inj (callbacks.symm.trans otherCallbacks)
        have head := headOf (positive_of_serves served called)
        obtain ⟨designates, fits⟩ :=
          head.placed_of_called served unharmed called
        refine ⟨client, callbacks, designates, head.positive, fits, ?_⟩
        by_cases last : frames = []
        · exact Or.inl last
        · right
          have apart := head.apart_of_serves designates fits served kept
            (encodeAll_ne_nil last)
          obtain ⟨actual, actualServed, ended⟩ :=
            head.serves_of_apart designates fits (Or.inr apart)
          obtain rfl := served.unique actualServed
          have delivered := head.delivered fits ended
          refine ⟨apart.1, apart.2, ?_⟩
          rw [← delivered.occupied_eq head apart.1 fits]
          exact (continues delivered).mp delivers
      · rintro ⟨other, otherCallbacks, designates, positive, fits, apart⟩
        obtain rfl : client = other :=
          Option.some.inj (callbacks.symm.trans otherCallbacks)
        have head := headOf positive
        obtain ⟨later, served, ended⟩ := head.serves_of_apart designates fits
          (apart.imp (fun last => by simp [last])
            (fun full => ⟨full.1, full.2.1⟩))
        have delivered := head.delivered fits ended
        refine ⟨client, later, _, callbacks, served, delivered.fifo,
          delivered.stray.trans clean, delivered.called,
          HeadFrame.messageBytes_deliveredState
            (HeadFrame.accumulated_small fits), ?_⟩
        rcases apart with last | ⟨mgmt, -, further⟩
        · rw [last]
          trivial
        · rw [continues delivered, delivered.occupied_eq head mgmt fits]
          exact further

/-- A request that fills more than half of its proxy's buffer. -/
def longFrame : Frame :=
  .ofPayload .netIfMgmt 0 (List.replicate 300 0)
    (by rw [List.length_replicate]; decide)

theorem longFrame_length : longFrame.payload.length = 300 :=
  List.length_replicate

def longThenShort : List Frame :=
  [longFrame, .ofPayload .thread 1 [7] (by decide)]

theorem deliversInOrder_longThenShort :
    DeliversInOrder Build.full longThenShort
      (boot.arrive (Frame.encodeAll longThenShort)) := by
  have registered : ∀ frame ∈ longThenShort, ∃ client,
      serialMuxGetCallbacks Build.full frame.header.type = some client ∧
        frame.payload.length ≤ client.capacity Build.full := by
    intro frame member
    rcases List.mem_cons.mp member with rfl | member
    · exact ⟨.netIfMgmt, rfl, by rw [longFrame_length]; decide⟩
    · rw [List.mem_singleton.mp member]
      exact ⟨.ot, rfl, by decide⟩
  apply (deliversInOrder_iff Build.full longThenShort
    (boot.arrive (Frame.encodeAll longThenShort)) rfl rfl rfl rfl registered
    ⟨rfl, rfl, trivial⟩).mpr
  refine ⟨.netIfMgmt, rfl, by decide, ?_, ?_, Or.inr ⟨rfl, ?_, ?_⟩⟩
  · rw [longFrame_length]; decide
  · rw [longFrame_length]; decide
  · rw [longFrame_length]; decide
  · exact ⟨.ot, rfl, by decide, by decide, by decide, Or.inl rfl⟩

/-- Two frames of one byte for the OpenThread proxy. -/
def twoShort : List Frame :=
  [.ofPayload .thread 0 [1] Frame.one_bounded,
    .ofPayload .thread 1 [2] (by decide)]

/-- The handler of the first frame also swallows the second one. -/
theorem twoShort_swallowed :
    (∀ frame ∈ twoShort, ∃ client,
      serialMuxGetCallbacks Build.full frame.header.type = some client ∧
        frame.payload.length ≤ client.capacity Build.full) ∧
      Consecutive boot.rxSequenceNumber twoShort ∧
      ¬DeliversInOrder Build.full twoShort
        (boot.arrive (Frame.encodeAll twoShort)) := by
  refine ⟨?_, ⟨rfl, rfl, trivial⟩, ?_⟩
  · intro frame member
    rcases List.mem_cons.mp member with rfl | member
    · exact ⟨.ot, rfl, by decide⟩
    · rw [List.mem_singleton.mp member]
      exact ⟨.ot, rfl, by decide⟩
  · rintro ⟨client, later, state, -, served, kept, -⟩
    have ran : ((boot.arrive (Frame.encodeAll twoShort)).serviceRound
        Build.full 8).map rxFifo = some [] := by
      decide
    obtain ⟨last, round, empty⟩ := Option.map_eq_some_iff.mp ran
    cases served.unique ⟨8, round⟩
    rw [kept] at empty
    exact absurd empty (by decide)

end Device

end SerialLink
