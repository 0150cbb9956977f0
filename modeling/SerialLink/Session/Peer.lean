import SerialLink.Session.MockDevice

/-!
# The sequence rules of the device

`Peer` is the device as a session meets it: a pair of sequence numbers, and
clients that answer every accepted command with one frame.  A command without
a payload is dropped before its number is looked at.  The order of the
acknowledgement and the response, and what else the clients have to say, is up
to the device.  The model of the test suite is a peer that sends its response
first.
-/

namespace SerialLink

namespace Protocol

deriving instance DecidableEq for Request

/-- A frame the clients send of their own accord. -/
structure Notice where
  request : Request
  known : request.type.known = true
  sound : request.error = .noError
  bounded : request.payload.length ≤ serialMaxPayloadLen
  deriving DecidableEq

/-- What the client of a command has to say. -/
structure Reply where
  payload : List UInt8
  nonempty : payload ≠ []
  bounded : payload.length ≤ serialMaxPayloadLen
  /-- The acknowledgement is sent before the response. -/
  ackFirst : Bool
  /-- The frames that follow. -/
  notices : List Notice
  deriving DecidableEq

/-- What the device made of a frame. -/
inductive Heard where
  | query
  /-- A frame without a payload that is no query. -/
  | dropped
  | mismatch
  | accepted
  deriving DecidableEq, Repr

structure Peer where
  rx : Nat
  tx : Nat
  supportedTypesMask : Nat
  deriving DecidableEq, Repr

namespace Peer

/-- The frame `serial_send_frame` builds for a response. -/
def responseFrame (type : SerialType) (sequenceNumber : Nat)
    (payload : List UInt8) (bounded : payload.length ≤ serialMaxPayloadLen) :
    SerialLink.Frame :=
  Request.frame { type, error := .noError, noAck := false, payload }
    sequenceNumber bounded

/-- The response to a query. -/
def infoFrame (peer : Peer) : SerialLink.Frame :=
  responseFrame .protocolInfo peer.tx
    [UInt8.ofNat serialProtocolVersion,
      UInt8.ofNat (peer.supportedTypesMask % 256),
      UInt8.ofNat (peer.supportedTypesMask / 256), UInt8.ofNat peer.rx]
    (show 4 ≤ serialMaxPayloadLen by decide)

/-- The frames of a list of notices, numbered from `tx` on. -/
def noticeFrames : Nat → List Notice → List SerialLink.Frame
  | _, [] => []
  | tx, notice :: notices =>
      notice.request.frame tx notice.bounded ::
        noticeFrames (seqNext tx) notices

/-- The number behind a list of notices. -/
def afterNotices (tx : Nat) (notices : List Notice) : Nat :=
  notices.foldl (fun number _ => seqNext number) tx

/-- The answers to a command. -/
def answerFrames (peer : Peer) (frame : Frame) (reply : Reply) :
    List SerialLink.Frame :=
  let ack := ackFrame frame.rtype frame.seq.toNat .noError
  let response := responseFrame frame.rtype peer.tx reply.payload reply.bounded
  (if reply.ackFirst then [ack, response] else [response, ack]) ++
    noticeFrames (seqNext peer.tx) reply.notices

/-- A frame of legal length is received: the number is checked, except for a
query. -/
def handle (peer : Peer) (frame : Frame) (reply : Reply) :
    Peer × List SerialLink.Frame × Heard :=
  if frame.rtype = .protocolInfo then
    ({ peer with tx := seqNext peer.tx }, [peer.infoFrame], .query)
  else if frame.payload = [] then (peer, [], .dropped)
  else if frame.seq.toNat ≠ peer.rx then
    ({ peer with rx := 0 },
      [ackFrame frame.rtype peer.rx .incorrectSequenceNumber], .mismatch)
  else
    ({ peer with
        rx := seqNext peer.rx
        tx := afterNotices (seqNext peer.tx) reply.notices },
      peer.answerFrames frame reply, .accepted)

variable {peer : Peer} {frame : Frame} {reply : Reply}

theorem handle_query (query : frame.rtype = .protocolInfo) :
    peer.handle frame reply =
      ({ peer with tx := seqNext peer.tx }, [peer.infoFrame], .query) := by
  rw [handle, if_pos query]

theorem handle_empty (command : frame.rtype ≠ .protocolInfo)
    (empty : frame.payload = []) :
    peer.handle frame reply = (peer, [], .dropped) := by
  rw [handle, if_neg command, if_pos empty]

theorem handle_mismatch (command : frame.rtype ≠ .protocolInfo)
    (nonempty : frame.payload ≠ []) (unexpected : frame.seq.toNat ≠ peer.rx) :
    peer.handle frame reply =
      ({ peer with rx := 0 },
        [ackFrame frame.rtype peer.rx .incorrectSequenceNumber],
        .mismatch) := by
  rw [handle, if_neg command, if_neg nonempty, if_pos unexpected]

theorem handle_accepted (command : frame.rtype ≠ .protocolInfo)
    (nonempty : frame.payload ≠ []) (expected : frame.seq.toNat = peer.rx) :
    peer.handle frame reply =
      ({ peer with
          rx := seqNext peer.rx
          tx := afterNotices (seqNext peer.tx) reply.notices },
        peer.answerFrames frame reply, .accepted) := by
  rw [handle, if_neg command, if_neg nonempty,
    if_neg (not_not_intro expected)]

/-- The response of the model of the test suite: sent first, and alone. -/
def Follows (reply : Reply) (mock : MockDeviceState) : Prop :=
  reply.payload = mock.responsePayload ∧ reply.ackFirst = false ∧
    reply.notices = []

/-- The peer and the model have the same numbers. -/
structure Agrees (peer : Peer) (mock : MockDeviceState) : Prop where
  rx : mock.rxSeq.toNat = peer.rx
  rxBound : peer.rx ≤ sequenceNumberMax
  tx : mock.txSeq.toNat = peer.tx
  txBound : peer.tx ≤ sequenceNumberMax
  version : mock.version = 1
  mask : mock.supportedTypesMask = peer.supportedTypesMask
  honest : mock.corruptProtocolInfo = false

theorem encode_responseFrame (type : SerialType) (sequenceNumber : UInt8)
    (payload : List UInt8) (bounded : payload.length ≤ serialMaxPayloadLen) :
    (responseFrame type sequenceNumber.toNat payload bounded).encode =
      MockDeviceState.frameBytes type .noError sequenceNumber payload :=
  (frameBytes_eq type .noError sequenceNumber payload).symm

theorem encode_ackFrame (type : SerialType) (sequenceNumber : UInt8)
    (error : ErrorType) :
    (ackFrame type sequenceNumber.toNat error).encode =
      MockDeviceState.frameBytes type error sequenceNumber [] := by
  rw [ackBytes_eq, SerialLink.Frame.encode]
  exact List.append_nil _

/-- The model of the test suite is a peer, except that it takes a command
without a payload. -/
theorem Agrees.handle {mock : MockDeviceState} (agrees : Agrees peer mock)
    (follows : Follows reply mock)
    (nonempty : frame.rtype ≠ .protocolInfo → frame.payload ≠ []) :
    Agrees (peer.handle frame reply).1 (mock.handleHostFrame frame) ∧
      (mock.handleHostFrame frame).toHost = mock.toHost ++
        SerialLink.Frame.encodeAll (peer.handle frame reply).2.1 := by
  have counted := succ_and_low (agrees.tx ▸ agrees.txBound)
  by_cases query : frame.rtype = .protocolInfo
  · rw [handle_query query,
      MockDeviceState.handleHostFrame_query query agrees.honest]
    refine ⟨{ agrees with
      tx := counted.trans (congrArg seqNext agrees.tx)
      txBound := seqNext_le _ }, ?_⟩
    simp only [SerialLink.Frame.encodeAll_cons, SerialLink.Frame.encodeAll_nil,
      List.append_nil, infoFrame, ← agrees.tx, ← agrees.rx, ← agrees.mask,
      encode_responseFrame, UInt8.ofNat_toNat, agrees.version]
    rfl
  · by_cases expected : frame.seq.toNat = peer.rx
    · have equal : frame.seq = mock.rxSeq := by
        rw [← UInt8.toNat_inj, expected, agrees.rx]
      obtain ⟨payload, order, alone⟩ := follows
      have answers : mock.responsePayload ≠ [] := payload ▸ reply.nonempty
      have advanced := succ_and_low (agrees.rx ▸ agrees.rxBound)
      rw [handle_accepted query (nonempty query) expected,
        MockDeviceState.handleHostFrame_answered query equal answers]
      refine ⟨{ agrees with
        rx := advanced.trans (congrArg seqNext agrees.rx)
        rxBound := seqNext_le _
        tx := ?_
        txBound := ?_ }, ?_⟩
      · rw [alone]
        exact counted.trans (congrArg seqNext agrees.tx)
      · rw [alone]
        exact seqNext_le _
      · simp [answerFrames, order, alone, noticeFrames, ← agrees.tx,
          encode_responseFrame, encode_ackFrame, payload]
    · have different : frame.seq ≠ mock.rxSeq := by
        intro equal
        apply expected
        rw [equal, agrees.rx]
      rw [handle_mismatch query (nonempty query) expected,
        MockDeviceState.handleHostFrame_mismatch query different]
      refine ⟨{ agrees with rx := rfl, rxBound := Nat.zero_le _ }, ?_⟩
      simp [← agrees.rx, encode_ackFrame]

end Peer

end Protocol

end SerialLink
