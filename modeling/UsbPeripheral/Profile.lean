import UsbPeripheral.Routing
import UsbPeripheral.Worker.Depot

/-!
# Device profiles: what makes a device the device it is

A profile says which descriptors, requests, configurations and endpoint data a device has, over a
state `P` of the device class.  Only the descriptors and the configurations are required.
-/

namespace UsbPeripheral

/-- A configuration that a host can select. -/
structure Configuration where
  /-- The value that selects it, not 0. -/
  value : UInt8
  /-- Current drawn while it is selected, in milliampere. -/
  maxPower : UInt32
  /-- Numbers of its interfaces. -/
  interfaces : List UInt8
  /-- Endpoints that are enabled while it is selected. -/
  endpoints : List Endpoint
  deriving DecidableEq, Repr

/-- A device class on states of type `P`. -/
class DeviceProfile (P : Type) where
  /-- The descriptor that a query asks for. -/
  descriptor? : P → Descriptor.Query → Option Bytes
  /-- The handlers of class and vendor requests. -/
  handlers : P → HandlerTable P := fun _ => .empty
  configurations : P → List Configuration
  /-- The configuration that a value selects. -/
  configuration? : P → UInt8 → Option Configuration :=
    fun p value => (configurations p).find? (·.value == value)
  /-- What stands behind an endpoint of the configuration being selected. -/
  endpointData : P → Endpoint → Option EndpointData × P := fun p _ => (none, p)
  /-- Select an alternate setting of an interface; the result is whether it exists. -/
  setInterface : P → UInt8 → UInt8 → Bool × P := fun p _ alternate => (alternate == 0, p)
  /-- Whether the device has its own power. -/
  selfPowered : P → Bool := fun _ => false
  /-- What a bus reset or a disconnect does to the device class. -/
  onReset : P → P := fun p => p

end UsbPeripheral
