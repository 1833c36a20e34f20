import UsbPeripheral.ByteMap
import UsbPeripheral.Descriptor.Endpoint

/-!
# The state of a device

What a host can see of a device apart from its descriptors: the stage of its life, whether the bus is
suspended, the selected configuration, whether it may wake the host, which endpoints are halted, and
the alternate settings of its interfaces.

Selecting a configuration ends all halts and alternate settings, and keeps the rest.  A reset
forgets everything.
-/

namespace UsbPeripheral

/-- A stage in the life of a device. -/
inductive Lifecycle where
  /-- Not connected. -/
  | unattached
  /-- Started, no host yet. -/
  | powered
  /-- Connected or reset. -/
  | default
  /-- Without a configuration again. -/
  | addressed
  /-- With a configuration. -/
  | configured
  /-- On a suspended bus. -/
  | suspended
  deriving DecidableEq, Repr

namespace Lifecycle

/-- The name of a stage. -/
def name : Lifecycle → String
  | unattached => "Unattached"
  | powered => "Powered"
  | default => "Default"
  | addressed => "Addressed"
  | configured => "Configured"
  | suspended => "Suspended"

end Lifecycle

/-- The state of a device. -/
structure DeviceState where
  /-- The stage, apart from suspension. -/
  base : Lifecycle := .unattached
  /-- Whether the bus is suspended. -/
  suspended : Bool := false
  /-- The selected configuration, 0 for none. -/
  configuration : UInt8 := 0
  /-- Whether the device may wake the host. -/
  remoteWakeup : Bool := false
  halted : ByteSet := .empty
  /-- Alternate settings that were selected, by interface. -/
  alternates : ByteMap UInt8 := .empty

namespace DeviceState

/-- The state of a device that was not started. -/
def initial : DeviceState := {}

/-- The stage, which is suspended while the bus is. -/
def lifecycle (s : DeviceState) : Lifecycle := if s.suspended then .suspended else s.base

/-- Whether a configuration is selected. -/
def isConfigured (s : DeviceState) : Bool := s.base == .configured

/-- Whether an endpoint is halted. -/
def isHalted (s : DeviceState) (address : Address) : Bool := s.halted.contains address

/-- The alternate setting of an interface, 0 if none was selected. -/
def alternate (s : DeviceState) (interface : UInt8) : UInt8 :=
  (s.alternates.get? interface).getD 0

/-- Halt an endpoint, or end its halt. -/
def setHalted (s : DeviceState) (address : Address) (halted : Bool) : DeviceState :=
  { s with halted := if halted then s.halted.add address else s.halted.erase address }

/-- Select an alternate setting. -/
def setAlternate (s : DeviceState) (interface alternate : UInt8) : DeviceState :=
  { s with alternates := s.alternates.insert interface alternate }

/-- Select a configuration, or none by the value 0. -/
def select (s : DeviceState) (value : UInt8) : DeviceState :=
  { s with
    configuration := value
    base := if value = 0 then .addressed else .configured
    halted := .empty
    alternates := .empty }

/-- Forget everything and enter a stage. -/
def reset (base : Lifecycle) : DeviceState := { base }

end DeviceState

end UsbPeripheral
