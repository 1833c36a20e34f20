import UsbPeripheral.Bytes
import UsbPeripheral.Descriptor.Kind

/-!
# Device, interface and configuration descriptors

The descriptors by which a device introduces itself: the device descriptor and its qualifier, the
interface descriptor, and the configuration descriptor, whose header announces the length of
everything that follows it.  A host takes a configuration apart by the length byte that opens every
block (`split`).
-/

namespace UsbPeripheral.Descriptor

/-- Index of the manufacturer's name among the strings. -/
def manufacturerIndex : UInt8 := 1

/-- Index of the product's name among the strings. -/
def productIndex : UInt8 := 2

/-- Index of the serial number among the strings. -/
def serialIndex : UInt8 := 3

/-- Version 2.0 of the standard. -/
def usbVersion : UInt16 := 0x0200

/-- What tells one device from another. -/
structure Identity where
  vendor : UInt16
  product : UInt16
  release : UInt16
  /-- Device class, 0 if the interfaces have their own. -/
  deviceClass : UInt8
  subclass : UInt8
  protocol : UInt8
  /-- Packet size of endpoint 0. -/
  maxPacketSize : UInt8
  deriving DecidableEq, Repr

namespace Identity

/-- The fields that both descriptors share. -/
def shared (i : Identity) : Bytes :=
  Bytes.ofWord16 usbVersion ++ [i.deviceClass, i.subclass, i.protocol, i.maxPacketSize]

/-- The device descriptor, with one configuration and the three usual strings. -/
def deviceDescriptor (i : Identity) : Bytes :=
  [18, Kind.device] ++ i.shared ++ Bytes.ofWord16 i.vendor ++ Bytes.ofWord16 i.product ++
    Bytes.ofWord16 i.release ++ [manufacturerIndex, productIndex, serialIndex, 1]

/-- The device qualifier, with one configuration. -/
def deviceQualifier (i : Identity) : Bytes := [10, Kind.deviceQualifier] ++ i.shared ++ [1, 0]

end Identity

/-- The descriptor of an interface without a name. -/
def interface (number endpoints interfaceClass subclass protocol : UInt8) : Bytes :=
  [9, Kind.interface, number, 0, endpoints, interfaceClass, subclass, protocol, 0]

/-- Number of bytes of a configuration descriptor's header. -/
def configurationHeaderSize : Nat := 9

/-- The current in units of two milliampere, at most what a byte holds. -/
def powerUnits (milliamps : UInt32) : UInt8 := UInt8.ofNat (min (milliamps.toNat / 2) 255)

/-- The configuration descriptor with the blocks `body` after its header. -/
def configuration (value interfaces : UInt8) (milliamps : UInt32) (selfPowered : Bool)
    (body : Bytes) : Bytes :=
  [9, Kind.configuration] ++
    Bytes.ofWord16 (UInt16.ofNat (configurationHeaderSize + body.length)) ++
    [interfaces, value, 0, if selfPowered then 0xc0 else 0x80, powerUnits milliamps] ++ body

/-- The blocks of a configuration, each as long as its first byte says.  Fails on a block that says
zero or more than is left. -/
def split (data : Bytes) : Option (List Bytes) :=
  match data with
  | [] => some []
  | length :: rest =>
    if _h : 0 < length.toNat ∧ length.toNat ≤ rest.length + 1 then
      (split ((length :: rest).drop length.toNat)).map ((length :: rest).take length.toNat :: ·)
    else none
  termination_by data.length
  decreasing_by
    simp
    omega

end UsbPeripheral.Descriptor
