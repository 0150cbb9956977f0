import SerialLink.Device.Machine
import SerialLink.Host.Thread

/-!
# The host and the device on one link

The two ends are joined by lossless channels that keep the order of the bytes.
A channel is what its sender has written, together with the number of bytes
that have become readable at the other end.
-/

namespace SerialLink

/-- The bytes the host has written. -/
def Bus.written (bus : Bus) : List UInt8 :=
  bus.wire.flatMap fun (_, header, payload) =>
    busHeaderEncode header ++ payload

/-- The frames the device has written. -/
def Device.sent (device : Device) : List (SerialHeader × List UInt8) :=
  device.trace.filterMap fun event =>
    match event with
    | .send header payload => some (header, payload)
    | _ => none

/-- The bytes the device has written. -/
def Device.written (device : Device) : List UInt8 :=
  device.sent.flatMap fun (header, payload) => header.encode ++ payload

structure Link where
  host : Bus
  receiver : Receiver
  /-- Number of bytes that have reached the device. -/
  down : Nat
  /-- Number of bytes that have reached the host. -/
  up : Nat

namespace Link

inductive Label where
  /-- `bus_sync` is called. -/
  | busSync
  /-- The thread inside `bus_sync` takes its next step. -/
  | advance
  | expire
  | busRxIsr
  /-- The work queue of the host runs `bus_rx_work`. -/
  | busRxWork
  /-- Bytes become readable at the device. -/
  | carryDown (count : Nat)
  /-- Bytes become readable at the host. -/
  | carryUp (count : Nat)
  | device (action : Receiver.Action)
  deriving DecidableEq, Repr

def downBytes (link : Link) (count : Nat) : List UInt8 :=
  (link.host.written.drop link.down).take count

def upBytes (link : Link) (count : Nat) : List UInt8 :=
  (link.receiver.device.written.drop link.up).take count

def carryDown (link : Link) (count : Nat) : Link :=
  { link with
    receiver := { link.receiver with
      device := link.receiver.device.arrive (link.downBytes count) }
    down := link.down + (link.downBytes count).length }

def carryUp (link : Link) (count : Nat) : Link :=
  { link with
    host := { link.host with
      rxFifo := link.host.rxFifo ++ link.upBytes count }
    up := link.up + (link.upBytes count).length }

def withHost (link : Link) (host : Bus) : Link :=
  { link with host }

def withReceiver (link : Link) (receiver : Receiver) : Link :=
  { link with receiver }

def step (build : Build) (link : Link) : Label → Option Link
  | .busSync =>
      if link.host.thread = .outside then
        some (link.withHost (link.host.moveTo (.syncLoop .busOpen 0)))
      else none
  | .advance => link.host.advance.map link.withHost
  | .expire => link.host.expire.map link.withHost
  | .busRxIsr => some (link.withHost link.host.busRxIsr)
  | .busRxWork =>
      if link.host.rxWorkPending then
        some (link.withHost link.host.takeWork.busRxWork)
      else none
  | .carryDown count => some (link.carryDown count)
  | .carryUp count => some (link.carryUp count)
  | .device action => (link.receiver.step build action).map link.withReceiver

/-- Both ends after they have been started. -/
def boot (handler : SerialType → Bool) : Link where
  host := Bus.boot handler
  receiver := { device := Device.boot, handling := none }
  down := 0
  up := 0

end Link

end SerialLink
