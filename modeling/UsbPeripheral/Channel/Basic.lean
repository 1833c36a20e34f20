import UsbPeripheral.Channel.Operation
import UsbPeripheral.Event
import UsbPeripheral.Settings
import UsbPeripheral.Udc

/-!
# Channels: the kernel as a device sees it

A **channel** carries out the operations by which a device is bound to a controller, fetches events,
answers on endpoint 0, manages its data endpoints and moves their data.  An instance of `Channel σ`
says what every operation does to the channel's state, a value of `σ`; each operation is one atomic
step.

Reading from a data endpoint may have to wait.  It is therefore taken apart: the first step either
finishes or leaves the reader **waiting**, and a waiting reader is resumed until it finishes.

A read of the data stage fits into the room that it was given: what claims to be longer is no
channel.
-/

namespace UsbPeripheral

/-- Names an endpoint between its being enabled and disabled. -/
abbrev Handle := UInt32

namespace Handle

/-- The handle as diagnostics show it. -/
def text (h : Handle) : String := s!"ep#{h.toNat}"

end Handle

/-- What a read moved: the bytes put at the front of the buffer, and the count reported. -/
structure Received where
  /-- Bytes put into the buffer. -/
  data : Bytes
  /-- Number of bytes reported. -/
  count : Nat
  deriving DecidableEq, Repr

/-- One step of a read. -/
inductive ReadReply where
  /-- Nothing to read yet. -/
  | waiting
  | finished (result : Except TransferError Received)

/-- The operations of the kernel channel on a state of type `σ`. -/
class Channel (σ : Type) where
  /-- Bind to a controller. -/
  bind (driver device : String) (speed : Speed) : σ → Except DeviceError Unit × σ
  /-- Show the device to the host. -/
  run : σ → Except DeviceError Unit × σ
  fetchEvent : σ → Except DeviceError EventRecord × σ
  /-- Take at most `room` bytes of the data stage; no room acknowledges the request. -/
  ep0Read (room : Nat) : σ → Except DeviceError Bytes × σ
  /-- What was read fits into the room for it. -/
  ep0Read_fits (room : Nat) {s s' : σ} {data : Bytes} :
    ep0Read room s = (.ok data, s') → data.length ≤ room
  ep0Write (data : Bytes) : σ → Except DeviceError Nat × σ
  ep0Stall : σ → Except DeviceError Unit × σ
  enable (endpoint : Endpoint) : σ → Except DeviceError Handle × σ
  disable (handle : Handle) : σ → Except DeviceError Unit × σ
  /-- Start, or resume, a read of at most `room` bytes. -/
  read (resumed : Bool) (handle : Handle) (room : Nat) : σ → ReadReply × σ
  write (handle : Handle) (data : Bytes) : σ → Except TransferError Nat × σ
  /-- Interrupt a transfer. -/
  wake (handle : Handle) : σ → σ
  /-- Report that the device is configured. -/
  configure : σ → Except DeviceError Unit × σ
  vbusDraw (milliamps : UInt32) : σ → Except DeviceError Unit × σ
  /-- The controller's endpoints. -/
  endpoints : σ → Except DeviceError (List UdcEndpoint) × σ
  /-- Halt an endpoint. -/
  setHalt (handle : Handle) : σ → Except DeviceError Unit × σ
  /-- End the halt of an endpoint. -/
  clearHalt (handle : Handle) : σ → Except DeviceError Unit × σ
  /-- Halt an endpoint against the host's wish. -/
  setWedge (handle : Handle) : σ → Except DeviceError Unit × σ

end UsbPeripheral
