import UsbPeripheral.Descriptor.Endpoint
import UsbPeripheral.Text.Hex

/-!
# Controller endpoints: what the hardware can carry

A device controller has a table of endpoints, each with the transfers and directions that it is
capable of, the largest packet that it takes, and either a fixed number or none.  `supports` says
whether such an endpoint can carry one that a configuration declares.
-/

namespace UsbPeripheral

/-- What an endpoint of a controller is capable of. -/
structure Capabilities where
  control : Bool := false
  isochronous : Bool := false
  bulk : Bool := false
  interrupt : Bool := false
  toHost : Bool := false
  toDevice : Bool := false
  deriving DecidableEq, Repr

namespace Capabilities

/-- The capabilities among the bits of a word; other bits are dropped. -/
def ofBits (w : UInt32) : Capabilities where
  control := w.toNat.testBit 0
  isochronous := w.toNat.testBit 1
  bulk := w.toNat.testBit 2
  interrupt := w.toNat.testBit 3
  toHost := w.toNat.testBit 4
  toDevice := w.toNat.testBit 5

/-- The capabilities as bits. -/
def toBits (c : Capabilities) : UInt32 :=
  UInt32.ofNat (c.control.toNat + 2 * c.isochronous.toNat + 4 * c.bulk.toNat +
    8 * c.interrupt.toNat + 16 * c.toHost.toNat + 32 * c.toDevice.toNat)

/-- Whether transfers of a kind are possible. -/
def carries (c : Capabilities) : TransferKind → Bool
  | .control => c.control
  | .isochronous => c.isochronous
  | .bulk => c.bulk
  | .interrupt => c.interrupt

/-- Whether a direction is possible. -/
def goes (c : Capabilities) : Direction → Bool
  | .toHost => c.toHost
  | .toDevice => c.toDevice

/-- The names of the capabilities, in the order of their bits. -/
def names (c : Capabilities) : List String :=
  [(c.control, "CONTROL"), (c.isochronous, "ISO"), (c.bulk, "BULK"), (c.interrupt, "INTERRUPT"),
    (c.toHost, "DIR_IN"), (c.toDevice, "DIR_OUT")].filterMap
      fun (has, name) => if has then some name else none

/-- The capabilities as diagnostics show them. -/
def text (c : Capabilities) : String :=
  match c.names with
  | [] => "EndpointCaps(0x0)"
  | names => "EndpointCaps(" ++ " | ".intercalate names ++ ")"

end Capabilities

/-- An endpoint of a controller. -/
structure UdcEndpoint where
  name : String
  /-- Its number, if it is fixed. -/
  number : Option UInt8
  /-- What it is capable of. -/
  capabilities : Capabilities
  maxPacketLimit : UInt16
  maxStreams : UInt16
  deriving DecidableEq, Repr

namespace UdcEndpoint

/-- Whether the controller's endpoint can carry `e`. -/
def supports (u : UdcEndpoint) (e : Endpoint) : Bool :=
  u.capabilities.carries e.transfer && u.capabilities.goes e.direction &&
    e.maxPacketSize ≤ u.maxPacketLimit &&
    match u.number with
    | some n => n.toNat == e.address.number
    | none => true

end UdcEndpoint

end UsbPeripheral
