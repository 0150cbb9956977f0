import SerialLink.Library.Region
import SerialLink.Wire

/-!
# The host bus

The host's receiver reads headers in `bus_rx_isr` and payloads in
`bus_rx_work`, which hands a complete frame to the thread waiting in
`bus_request` or `bus_sync`, or to the handler of its type.  The two sides
share the header slot `last_hdr`, the buffer `rx_buf` and the semaphore
`rx_sem`, whose count is at most 1.

`bus_request` and `bus_sync` are taken apart into the steps between which a
frame can arrive; see `Host.Thread`.  `wire`, `received` and `disposals` record
what happened and are read by no modelled function.
-/

namespace SerialLink

/-- `bus_header_encode` -/
def busHeaderEncode (header : SerialHeader) : List UInt8 :=
  [UInt8.ofNat (header.error.toNat <<< 6 ||| header.host.toNat <<< 5 |||
      header.noAck.toNat <<< 4 ||| (header.type.toNat &&& 0x0F)),
    UInt8.ofNat (header.sequenceNumber.val <<< 4 |||
      (header.reserved.val &&& 0x0F)),
    UInt8.ofNat (header.length.val >>> 8),
    UInt8.ofNat (header.length.val &&& 0xFF)]

/-- `bus_header_decode` -/
def busHeaderDecode (in0 in1 in2 in3 : UInt8) : SerialHeader :=
  { type := SerialType.ofBits (in0 &&& 0x0F).toNat
    noAck := (in0 >>> 4) &&& 0x1 != 0
    host := (in0 >>> 5) &&& 0x1 != 0
    error := ErrorType.ofBits ((in0 >>> 6) &&& 0x3).toNat
    reserved := Fin.ofNat 16 (in1 &&& 0x0F).toNat
    sequenceNumber := Fin.ofNat 16 ((in1 >>> 4) &&& 0x0F).toNat
    length := Fin.ofNat 65536 (in2.toNat <<< 8 ||| in3.toNat) }

/-- `bus_validate_tx` -/
def busValidateTx (type : SerialType) (len : Nat) : Except Errno Unit :=
  if len > serialMaxPayloadLen then .error .emsgsize
  else if len = 0 ∧ type ≠ .protocolInfo then .error .einval
  else .ok ()

/-- `bus_validate_rx` -/
def busValidateRx (header : SerialHeader) : Except Errno Unit :=
  if header.reserved ≠ 0 then .error .einval
  else if header.type.known = false then .error .einval
  else if header.length.val > serialMaxPayloadLen then .error .emsgsize
  else .ok ()

/-- `E80211_BUS_RX_BUF_SIZE` -/
def busRxBufSize : Nat := serialMaxPayloadLen

/-- `BUS_SYNC_RETRIES` -/
def busSyncRetries : Nat := 4

/-- What a frame on the host's wire was sent for. -/
inductive Purpose where
  | ack
  | query
  | request
  deriving DecidableEq, Repr

/-- The arguments of `bus_request`; `resp` tells whether the caller passes a
response buffer. -/
structure Call where
  type : SerialType
  request : List UInt8
  resp : Bool
  deriving DecidableEq, Repr

/-- What became of a frame with a payload. -/
inductive Fate where
  /-- The result of a `bus_request`. -/
  | returned (call : Call)
  /-- Passed to the handler of its type. -/
  | handled
  /-- No handler is registered for its type. -/
  | unhandled
  /-- Taken by `bus_sync`. -/
  | synced
  deriving DecidableEq, Repr

inductive Result where
  | success (response : Option (List UInt8))
  | failure (errno : Errno)
  deriving DecidableEq, Repr

/-- Who has called `bus_sync`: `bus_open`, or the given attempt of a
`bus_request`. -/
inductive SyncCaller where
  | busOpen
  | busRequest (call : Call) (attempt : Nat)
  deriving DecidableEq, Repr

/-- Where the thread stands in `bus_request` or `bus_sync`: between any two of
these steps a frame can arrive. -/
inductive Thread where
  | outside
  /-- At the condition of the attempt loop. -/
  | requestLoop (call : Call) (attempt : Nat) (retried : Bool)
  /-- `request_pending` is set; the frame is to be sent. -/
  | requestSend (call : Call) (attempt : Nat) (retried : Bool)
      (header : SerialHeader)
  /-- At `k_sem_take`. -/
  | requestTake (call : Call) (attempt : Nat) (retried : Bool)
  /-- The semaphore is taken; `last_hdr` is to be read. -/
  | requestInspect (call : Call) (attempt : Nat) (retried : Bool)
  /-- `last` is the header of a data frame; `rx_buf` is to be read. -/
  | requestFrame (call : Call) (attempt : Nat) (retried : Bool)
      (last : SerialHeader)
  /-- `request_pending` is to be cleared before `bus_sync`. -/
  | requestResync (call : Call) (attempt : Nat)
  /-- `request_pending` is to be cleared before the return. -/
  | requestReturn (call : Call) (result : Result)
  /-- At the condition of the attempt loop of `bus_sync`. -/
  | syncLoop (caller : SyncCaller) (attempt : Nat)
  /-- Discarding stale frames. -/
  | syncDrain (caller : SyncCaller) (attempt : Nat) (query : SerialHeader)
  | syncSend (caller : SyncCaller) (attempt : Nat) (query : SerialHeader)
  | syncTake (caller : SyncCaller) (attempt : Nat)
  | syncInspect (caller : SyncCaller) (attempt : Nat)
  /-- The attempt has failed; `request_pending` is to be cleared. -/
  | syncClear (caller : SyncCaller) (attempt : Nat)
  /-- `last_hdr` fits a response; `request_pending` is to be cleared. -/
  | syncAccept (caller : SyncCaller)
  /-- `rx_buf` is to be read. -/
  | syncResponse (caller : SyncCaller)
  deriving DecidableEq, Repr

/-- `struct bus_state`, the UART behind it and the thread that uses it. -/
structure Bus where
  rxFifo : List UInt8
  state : ParsingState
  hdr : SerialHeader
  bytesRead : Nat
  rxBuf : Nat → UInt8
  /-- `rx_work` is queued. -/
  rxWorkPending : Bool
  txSeq : Nat
  /-- The count of `rx_sem` is 1. -/
  rxSem : Bool
  requestPending : Bool
  lastHdr : SerialHeader
  supportedTypes : Nat
  /-- `handler[type] != NULL` -/
  handler : SerialType → Bool
  opened : Bool
  thread : Thread
  /-- The results of `bus_request`, oldest first. -/
  results : List (Call × Result)
  /-- The results of `bus_open`. -/
  opens : List (Except Errno Unit)
  wire : List (Purpose × SerialHeader × List UInt8)
  /-- The valid frames with a payload, in the order of their arrival. -/
  received : List (SerialType × List UInt8)
  disposals : List (Fate × SerialType × List UInt8)

namespace Bus

/-- `bus_send_raw`: header and payload are written under one mutex. -/
def busSendRaw (bus : Bus) (purpose : Purpose) (header : SerialHeader)
    (payload : List UInt8) : Bus :=
  { bus with wire := bus.wire ++ [(purpose, header, payload)] }

/-- The zero-length frame built by `bus_send_ack`. -/
def ackHeader (type : SerialType) (sequenceNumber : Fin 16)
    (error : ErrorType) : SerialHeader :=
  { type, noAck := false, host := false, error, reserved := 0
    sequenceNumber, length := 0 }

/-- `bus_send_ack` -/
def busSendAck (bus : Bus) (type : SerialType) (sequenceNumber : Fin 16)
    (error : ErrorType) : Bus :=
  bus.busSendRaw .ack (ackHeader type sequenceNumber error) []

/-- The body of the loop of `bus_rx_isr` for the byte it has read. -/
def parseHeaderByte (bus : Bus) (byte : UInt8) : Bus :=
  let header := bus.hdr
  match bus.state with
  | .type =>
      { bus with
        hdr := { header with
          type := SerialType.ofBits byte.toNat
          noAck := byte.toNat / 16 % 2 == 1
          host := byte.toNat / 32 % 2 == 1
          error := ErrorType.ofBits (byte.toNat / 64) }
        bytesRead := 0
        state := .sequenceNumber }
  | .sequenceNumber =>
      { bus with
        hdr := { header with
          reserved := Fin.ofNat 16 byte.toNat
          sequenceNumber := Fin.ofNat 16 (byte.toNat / 16) }
        state := .length1 }
  | .length1 =>
      { bus with
        hdr := { header with length := Fin.ofNat 65536 (byte.toNat <<< 8) }
        state := .length2 }
  | .length2 =>
      let length : Fin 65536 :=
        Fin.ofNat 65536 (header.length.val ||| byte.toNat)
      let bus := { bus with hdr := { header with length } }
      if length.val = 0 then { bus with state := .data }
      else if length.val > serialMaxPayloadLen then
        { bus.busSendAck header.type header.sequenceNumber .lengthTooLong with
          state := .type }
      else { bus with state := .data }
  | .data => bus

/-- The loop of `bus_rx_isr` over the bytes of the FIFO. -/
def drainHeader : List UInt8 → Bus → Bus
  | [], bus => { bus with rxFifo := [] }
  | byte :: rest, bus =>
      if bus.state = .data then { bus with rxFifo := byte :: rest }
      else drainHeader rest (bus.parseHeaderByte byte)

/-- `bus_rx_isr` -/
def busRxIsr (bus : Bus) : Bus :=
  let bus := drainHeader bus.rxFifo bus
  if bus.state = .data then { bus with rxWorkPending := true } else bus

/-- The loop of `bus_rx_work`.  A read returns what the FIFO holds of the
bytes asked for, so that a second one finds the payload complete or the FIFO
empty. -/
def readPayload (bus : Bus) : Bus :=
  let bytes := bus.rxFifo.take (bus.hdr.length.val - bus.bytesRead)
  { bus with
    rxFifo := bus.rxFifo.drop (bus.hdr.length.val - bus.bytesRead)
    rxBuf := Region.store bus.rxBuf bus.bytesRead bytes
    bytesRead := bus.bytesRead + bytes.length }

def resetParser (bus : Bus) : Bus :=
  { bus with
    state := .type
    bytesRead := 0 }

/-- `last_hdr` is set and `rx_sem` given. -/
def wake (bus : Bus) : Bus :=
  { bus with
    lastHdr := bus.hdr
    rxSem := true }

def dispose (bus : Bus) (fate : Fate) (type : SerialType)
    (payload : List UInt8) : Bus :=
  { bus with disposals := bus.disposals ++ [(fate, type, payload)] }

/-- The call of the handler of a type, if there is one. -/
def callHandler (bus : Bus) (type : SerialType) (payload : List UInt8) : Bus :=
  bus.dispose (if bus.handler type then .handled else .unhandled) type payload

/-- The first `len` bytes of `rx_buf`. -/
def rxPayload (bus : Bus) (len : Nat) : List UInt8 :=
  Region.slice bus.rxBuf 0 len

def recordFrame (bus : Bus) : Bus :=
  { bus with
    received := bus.received ++
      [(bus.hdr.type, bus.rxPayload bus.hdr.length.val)] }

def acknowledge (bus : Bus) : Bus :=
  if bus.hdr.noAck then bus
  else bus.busSendAck bus.hdr.type bus.hdr.sequenceNumber .noError

/-- The waiting thread is woken, or the handler called. -/
def deliver (bus : Bus) : Bus :=
  if bus.requestPending then bus.wake
  else bus.callHandler bus.hdr.type (bus.rxPayload bus.hdr.length.val)

/-- A valid frame with a payload. -/
def dispatchData (bus : Bus) : Bus :=
  bus.recordFrame.acknowledge.deliver

/-- The part of `bus_rx_work` behind the payload. -/
def completeFrame (bus : Bus) : Bus :=
  match busValidateRx bus.hdr with
  | .error _ => bus.resetParser
  | .ok () =>
      if bus.hdr.length.val = 0 then
        (if bus.requestPending then bus.wake else bus).resetParser
      else bus.dispatchData.resetParser

/-- `bus_rx_work` -/
def busRxWork (bus : Bus) : Bus :=
  let bus := bus.readPayload
  if bus.bytesRead < bus.hdr.length.val then bus else bus.completeFrame

/-- The work item is taken from the queue. -/
def takeWork (bus : Bus) : Bus :=
  { bus with rxWorkPending := false }

end Bus

end SerialLink
