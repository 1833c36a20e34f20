import UsbPeripheral.Bytes
import UsbPeripheral.Descriptor.Kind
import UsbPeripheral.Setup.RequestType

/-!
# Endpoint descriptors

An endpoint is declared by its address (bit 7 is the direction, the rest the number), its kind of
transfer, the size of its packets and its polling interval.  Its descriptor has seven bytes.
-/

namespace UsbPeripheral

/-- How an endpoint moves data. -/
inductive TransferKind where
  | control
  | isochronous
  | bulk
  | interrupt
  deriving DecidableEq, Repr

namespace TransferKind

/-- The value in a descriptor's attributes. -/
def code : TransferKind → UInt8
  | control => 0
  | isochronous => 1
  | bulk => 2
  | interrupt => 3

/-- The name in diagnostics. -/
def name : TransferKind → String
  | control => "Control"
  | isochronous => "Isochronous"
  | bulk => "Bulk"
  | interrupt => "Interrupt"

end TransferKind

/-- An endpoint address: direction bit and number. -/
abbrev Address := UInt8

namespace Address

/-- The direction bit. -/
def direction (a : Address) : Direction := .ofByte a

/-- The number without the direction bit. -/
def number (a : Address) : Nat := a.toNat % 128

end Address

/-- An endpoint as a configuration declares it. -/
structure Endpoint where
  /-- Direction and number. -/
  address : Address
  transfer : TransferKind
  maxPacketSize : UInt16
  /-- Polling interval of interrupt and isochronous endpoints. -/
  interval : UInt8
  deriving DecidableEq, Repr

namespace Endpoint

/-- A bulk endpoint. -/
def bulk (address : Address) (maxPacketSize : UInt16) : Endpoint :=
  ⟨address, .bulk, maxPacketSize, 0⟩

/-- An interrupt endpoint. -/
def interrupt (address : Address) (maxPacketSize : UInt16) (interval : UInt8) : Endpoint :=
  ⟨address, .interrupt, maxPacketSize, interval⟩

/-- The direction in which the endpoint moves data. -/
def direction (e : Endpoint) : Direction := e.address.direction

/-- Number of bytes of an endpoint descriptor. -/
def size : UInt8 := 7

/-- The descriptor. -/
def toBytes (e : Endpoint) : Bytes :=
  [size, Descriptor.Kind.endpoint, e.address, e.transfer.code] ++
    Bytes.ofWord16 e.maxPacketSize ++ [e.interval]

end Endpoint

end UsbPeripheral
