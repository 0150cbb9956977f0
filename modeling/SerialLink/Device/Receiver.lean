import SerialLink.Library.Loop
import SerialLink.Device.Client

/-!
# The device receiver

`uart_irq_callback` reads header bytes one at a time and queues
`serial_work_handler`, which moves the payload from the UART into the buffers
of the client of the frame's type, checks the sequence number and answers.

Transmission is taken to succeed: a frame handed to `serial_data_tx` appears
whole in the trace.  `trace`, `consumed` and `stray` record what happened and
are read by no modelled function.
-/

namespace SerialLink

/-- Observable actions of the receiver. -/
inductive Event where
  /-- A header and payload handed to `serial_data_tx`. -/
  | send (header : SerialHeader) (payload : List UInt8)
  /-- A call of `message_complete`, with the client's state at the call. -/
  | messageComplete (client : Client) (len : Nat) (state : ClientState)
  /-- A byte read in `PARSING_STATE_TYPE`, by its position in the stream. -/
  | typeByte (position : Nat)

/-- `struct serial_config`, the UART behind it and the clients. -/
structure Device where
  /-- Bytes in the UART's receive FIFO, oldest first. -/
  rxFifo : List UInt8
  /-- `uart_fifo_read` returns a negative code. -/
  rxError : Bool
  parsingState : ParsingState
  serialHeader : SerialHeader
  bytesRead : Nat
  rxSequenceNumber : Nat
  txSequenceNumber : Nat
  /-- The work item is queued. -/
  workPending : Bool
  clients : Client → ClientState
  /-- Number of bytes taken from the FIFO so far. -/
  consumed : Nat
  /-- Bytes were stored through an unset pointer or past the end of the
  client's buffer: what the C program does from there on is undefined. -/
  stray : Bool
  trace : List Event

namespace Device

def log (device : Device) (event : Event) : Device :=
  { device with trace := device.trace ++ [event] }

def setClient (device : Device) (client : Client) (state : ClientState) :
    Device :=
  { device with
    clients := fun other => if other = client then state
      else device.clients other }

/-- Bytes become readable. -/
def arrive (device : Device) (bytes : List UInt8) : Device :=
  { device with rxFifo := device.rxFifo ++ bytes }

/-- `uart_fifo_read`: up to `count` bytes, or `none` for a negative code. -/
def uartFifoRead (device : Device) (count : Nat) :
    Option (List UInt8 × Device) :=
  if device.rxError then none
  else
    some (device.rxFifo.take count,
      { device with
        rxFifo := device.rxFifo.drop count
        consumed := device.consumed + (device.rxFifo.take count).length })

/-- The zero-length frame built by `send_ack`. -/
def ackHeader (type : SerialType) (sequenceNumber : Nat)
    (error : ErrorType) : SerialHeader :=
  { type, noAck := false, host := true, error, reserved := 0
    sequenceNumber := Fin.ofNat 16 sequenceNumber, length := 0 }

/-- `send_ack` -/
def sendAck (device : Device) (type : SerialType) (sequenceNumber : Nat)
    (error : ErrorType) : Device :=
  device.log (.send (ackHeader type sequenceNumber error) [])

/-- The header built by `serial_send_frame`. -/
def frameHeader (type : SerialType) (error : ErrorType) (noAck : Bool)
    (sequenceNumber length : Nat) : SerialHeader :=
  { type, noAck, host := true, error, reserved := 0
    sequenceNumber := Fin.ofNat 16 sequenceNumber
    length := Fin.ofNat 65536 length }

/-- `serial_send_frame` -/
def serialSendFrame (device : Device) (type : SerialType) (error : ErrorType)
    (noAck : Bool) (payload : List UInt8) : Except Errno Device :=
  if payload.length > serialMaxPayloadLen then .error .emsgsize
  else
    let header := frameHeader type error noAck device.txSequenceNumber
      payload.length
    .ok { device.log (.send header payload) with
      txSequenceNumber := seqNext device.txSequenceNumber }

/-- The payload of a protocol information response. -/
def protocolInfoPayload (build : Build) (device : Device) : List UInt8 :=
  let supportedTypes := serialMuxSupportedTypesMask build
  [UInt8.ofNat serialProtocolVersion, UInt8.ofNat (supportedTypes % 256),
    UInt8.ofNat (supportedTypes / 256), UInt8.ofNat device.rxSequenceNumber]

/-- `handle_protocol_info`, which ignores the result of the transmission. -/
def handleProtocolInfo (build : Build) (device : Device) : Device :=
  match device.serialSendFrame .protocolInfo .noError false
      (device.protocolInfoPayload build) with
  | .ok later => later
  | .error _ => device

/-- The response fits a frame, so that it is sent. -/
theorem handleProtocolInfo_eq (build : Build) (device : Device) :
    device.handleProtocolInfo build =
      { device.log (.send
          (frameHeader .protocolInfo .noError false device.txSequenceNumber 4)
          (device.protocolInfoPayload build)) with
        txSequenceNumber := seqNext device.txSequenceNumber } := by
  have short : ¬(device.protocolInfoPayload build).length >
      serialMaxPayloadLen := by
    show ¬4 > serialMaxPayloadLen
    decide
  simp only [handleProtocolInfo, serialSendFrame, if_neg short]
  rfl

/-- Writing header byte by byte into `serial_header`; the two length bytes are
first stored in wire order and then swapped, on a little-endian CPU. -/
def parseHeaderByte (device : Device) (byte : UInt8) : Device :=
  let header := device.serialHeader
  match device.parsingState with
  | .type =>
      { device.log (.typeByte device.consumed) with
        serialHeader := header.setByte0 byte
        parsingState := .sequenceNumber
        bytesRead := 0 }
  | .sequenceNumber =>
      { device with
        serialHeader := header.setByte1 byte
        parsingState := .length1 }
  | .length1 =>
      { device with
        serialHeader := { header with
          length := Fin.ofNat 65536 (header.length.val / 256 * 256 + byte.toNat) }
        parsingState := .length2 }
  | .length2 =>
      let wire := header.length.val % 256 + byte.toNat * 256
      let length : Fin 65536 := Fin.ofNat 65536 (wire % 256 * 256 + wire / 256)
      let device := { device with serialHeader := { header with length } }
      if length.val = 0 then
        if header.type = .protocolInfo then
          { device with parsingState := .data }
        else { device with parsingState := .type }
      else if length.val > serialMaxPayloadLen then
        { device.sendAck header.type header.sequenceNumber.val .lengthTooLong with
          parsingState := .type }
      else { device with parsingState := .data }
  | .data => device

/-- The loop of `uart_irq_callback` over the bytes of the FIFO. -/
def drainHeader : List UInt8 → Device → Device
  | [], device => { device with rxFifo := [] }
  | byte :: rest, device =>
      if device.parsingState = .data then
        { device with rxFifo := byte :: rest }
      else
        drainHeader rest
          { device.parseHeaderByte byte with consumed := device.consumed + 1 }

/-- `k_work_submit`, which does nothing if the work item is queued already. -/
def submitWork (device : Device) : Device :=
  { device with workPending := true }

/-- The work item is taken from the queue. -/
def takeWork (device : Device) : Device :=
  { device with workPending := false }

/-- `uart_irq_callback` -/
def uartIrqCallback (device : Device) : Device :=
  let device := if device.rxError then device
    else drainHeader device.rxFifo device
  if device.parsingState = .data then device.submitWork
  else device

/-- The bytes of a read are stored at `data_buffer + bytes_read`. -/
def storePayload (build : Build) (client : Client) (base : Option Nat)
    (bytes : List UInt8) (device : Device) : Device :=
  match base with
  | none => { device with stray := true }
  | some base =>
      let offset := base + device.bytesRead
      let state := device.clients client
      { device.setClient client
          { state with buffer := Region.store state.buffer offset bytes } with
        stray := device.stray ||
          decide (client.capacity build < offset + bytes.length) }

def commitData (client : Client) (len : Nat) (device : Device) : Device :=
  device.setClient client (client.commitData (device.clients client) len)

def messageComplete (build : Build) (client : Client) (len : Nat)
    (device : Device) : Device :=
  let state := device.clients client
  (device.log (.messageComplete client len state)).setClient client
    (client.messageComplete build state)

/-- A complete payload: the sequence check, delivery and the answer. -/
def completeFrame (build : Build) (client : Client) (frameType : SerialType)
    (device : Device) : Device :=
  let header := device.serialHeader
  if device.rxSequenceNumber ≠ header.sequenceNumber.val then
    { device.sendAck frameType device.rxSequenceNumber
        .incorrectSequenceNumber with rxSequenceNumber := 0 }
  else
    let device := (device.commitData client header.length.val).messageComplete
      build client header.length.val
    let device :=
      { device with rxSequenceNumber := seqNext device.rxSequenceNumber }
    if header.noAck then device
    else device.sendAck frameType header.sequenceNumber.val .noError

/-- Reset parser for next frame. -/
def resetParser (device : Device) : Device :=
  { device with
    parsingState := .type
    bytesRead := 0 }

/-- The end of a protocol information frame, which also clears the length so
that the loop exits instead of re-entering with a stale header. -/
def answerProtocolInfo (build : Build) (device : Device) : Device :=
  { (device.handleProtocolInfo build).resetParser with
    serialHeader := { device.serialHeader with length := 0 } }

/-- Discarding the payload of a protocol information frame. -/
def protocolInfoStep (build : Build) (device : Device) :
    Loop.Outcome Device :=
  match device.uartFifoRead
      (min (device.serialHeader.length.val - device.bytesRead) 64) with
  | none => .stop device
  | some (bytes, device) =>
      let device :=
        { device with bytesRead := device.bytesRead + bytes.length }
      if device.bytesRead ≥ device.serialHeader.length.val then
        .next (device.answerProtocolInfo build)
      else .next device

/-- Discarding the payload of a frame no client is registered for. -/
def discardStep (frameType : SerialType) (device : Device) :
    Loop.Outcome Device :=
  match device.uartFifoRead
      (min (device.serialHeader.length.val - device.bytesRead) 64) with
  | none => .stop device
  | some (bytes, device) =>
      let device :=
        { device with bytesRead := device.bytesRead + bytes.length }
      if device.bytesRead ≥ device.serialHeader.length.val then
        .next (device.sendAck frameType
          device.serialHeader.sequenceNumber.val .lengthTooLong).resetParser
      else .next device

/-- The answer to a refused `acquire_buffer`. -/
def refuseFrame (frameType : SerialType) (device : Device) : Device :=
  (device.sendAck frameType device.serialHeader.sequenceNumber.val
    .outOfBuffers).resetParser

/-- Reading payload bytes into the buffer of a client. -/
def clientStep (build : Build) (client : Client) (frameType : SerialType)
    (device : Device) : Loop.Outcome Device :=
  let bufferSize := device.serialHeader.length.val - device.bytesRead
  match client.acquireBuffer build (device.clients client) bufferSize with
  | .refused => .stop (device.refuseFrame frameType)
  | .granted base =>
      match device.uartFifoRead bufferSize with
      | none => .stop device
      | some (bytes, device) =>
          if bytes.length = 0 then .stop device
          else
            let device := device.storePayload build client base bytes
            let device :=
              { device with bytesRead := device.bytesRead + bytes.length }
            if device.bytesRead ≥ device.serialHeader.length.val then
              .next (device.completeFrame build client frameType).resetParser
            else .next (device.commitData client bytes.length)

/-- The body of the loop of `serial_work_handler`. -/
def workStep (build : Build) (frameType : SerialType) (device : Device) :
    Loop.Outcome Device :=
  if frameType = .protocolInfo then device.protocolInfoStep build
  else
    match serialMuxGetCallbacks build frameType with
    | none => device.discardStep frameType
    | some client => device.clientStep build client frameType

/-- `bytes_read < serial_header.length` -/
def payloadMissing (device : Device) : Bool :=
  device.bytesRead < device.serialHeader.length.val

/-- `serial_work_handler`; `none` when the loop needs more than `fuel` tests
of its condition. -/
def serialWorkHandler (build : Build) (fuel : Nat) (device : Device) :
    Option Device :=
  let frameType := device.serialHeader.type
  if frameType = .protocolInfo ∧ device.serialHeader.length.val = 0 then
    some (device.answerProtocolInfo build)
  else Loop.iterate payloadMissing (workStep build frameType) fuel device

/-- The system work queue runs the handler if it is queued. -/
def runWork (build : Build) (fuel : Nat) (device : Device) : Option Device :=
  if device.workPending then
    serialWorkHandler build fuel device.takeWork
  else some device

/-- One receive event: the callback, then the handler it queued. -/
def serviceRound (build : Build) (fuel : Nat) (device : Device) :
    Option Device :=
  device.uartIrqCallback.runWork build fuel

/-- `initialize_uart` on an interface with an empty FIFO. -/
def initializeUart (device : Device) : Device :=
  { device with
    parsingState := .type
    bytesRead := 0
    rxSequenceNumber := 0
    txSequenceNumber := 0 }

/-- The device after `initialize_uart`, its static memory zero. -/
def boot : Device :=
  initializeUart
    { rxFifo := []
      rxError := false
      parsingState := .type
      serialHeader :=
        { type := .wifiMgmt, noAck := false, host := false, error := .noError
          reserved := 0, sequenceNumber := 0, length := 0 }
      bytesRead := 0
      rxSequenceNumber := 0
      txSequenceNumber := 0
      workPending := false
      clients := fun _ =>
        { buffer := fun _ => 0, accumulated := 0, dataComplete := false }
      consumed := 0
      stray := false
      trace := [] }

end Device

end SerialLink
