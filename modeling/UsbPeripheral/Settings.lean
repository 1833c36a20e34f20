/-!
# Settings of a device

Which controller a device binds to, at what bus speed, and the limits of its endpoint workers.
-/

namespace UsbPeripheral

/-- A bus speed; `unknown` leaves the choice to the controller. -/
inductive Speed where
  | unknown
  | low
  | full
  | high
  | wireless
  | super
  | superPlus
  deriving DecidableEq, Repr

namespace Speed

/-- Every speed, slowest first. -/
def all : List Speed := [unknown, low, full, high, wireless, super, superPlus]

/-- The code that the kernel takes. -/
def code : Speed → UInt8
  | unknown => 0
  | low => 1
  | full => 2
  | high => 3
  | wireless => 4
  | super => 5
  | superPlus => 6

/-- The name in diagnostics. -/
def name : Speed → String
  | unknown => "Unknown"
  | low => "Low"
  | full => "Full"
  | high => "High"
  | wireless => "Wireless"
  | super => "Super"
  | superPlus => "SuperPlus"

end Speed

/-- The settings of a device. -/
structure Settings where
  /-- Name of the controller's driver. -/
  driver : String := "dummy_udc"
  /-- Name of the controller. -/
  device : String := "dummy_udc.0"
  /-- Speed to ask for. -/
  speed : Speed := .high
  /-- How often a failed transfer to the host is tried again before its data is dropped. -/
  writeRetries : Nat := 3
  /-- Largest transfer of a data endpoint, in bytes. -/
  maxTransfer : Nat := 4096
  deriving DecidableEq, Repr

namespace Settings

/-- The settings of a device that nobody configured. -/
def standard : Settings := {}

end Settings

end UsbPeripheral
