/-!
# Descriptor kinds: codes and names

The kind of a descriptor is one byte, its second.  The kinds that this library writes have a
constant; `Kind.name` knows every kind that the standard and the common classes assign.
-/

namespace UsbPeripheral.Descriptor

/-- The code of a kind of descriptor. -/
abbrev Kind := UInt8

namespace Kind

/-- The device itself. -/
def device : Kind := 0x01

/-- A configuration with its interfaces and endpoints. -/
def configuration : Kind := 0x02

/-- A text, or the table of languages at index 0. -/
def string : Kind := 0x03

/-- An interface. -/
def interface : Kind := 0x04

/-- An endpoint. -/
def endpoint : Kind := 0x05

/-- The device at its other speed. -/
def deviceQualifier : Kind := 0x06

/-- A human interface device. -/
def hid : Kind := 0x21

/-- The report format of a human interface device. -/
def report : Kind := 0x22

/-- The assigned codes with their names. -/
def names : List (Kind × String) :=
  [(0x01, "DEVICE"), (0x02, "CONFIGURATION"), (0x03, "STRING"), (0x04, "INTERFACE"),
    (0x05, "ENDPOINT"), (0x06, "DEVICE_QUALIFIER"), (0x07, "OTHER_SPEED_CONFIGURATION"),
    (0x08, "INTERFACE_POWER"), (0x09, "OTG"), (0x0a, "DEBUG"), (0x0b, "INTERFACE_ASSOCIATION"),
    (0x0c, "SECURITY"), (0x0d, "KEY"), (0x0e, "ENCRYPTION_TYPE"), (0x0f, "BOS"),
    (0x10, "DEVICE_CAPABILITY"), (0x11, "WIRELESS_ENDPOINT_COMP"), (0x21, "HID"),
    (0x22, "REPORT"), (0x23, "PHYSICAL"), (0x24, "PIPE_USAGE"), (0x30, "SS_ENDPOINT_COMP")]

/-- The name of a kind, `unknown` for a code that is not assigned. -/
def name (kind : Kind) : String := (names.lookup kind).getD "unknown"

end Kind

/-- What a GET_DESCRIPTOR request asks for. -/
structure Query where
  /-- Kind of descriptor. -/
  kind : Kind
  /-- Which of that kind. -/
  index : UInt8
  /-- Language of a string, 0 for every other kind. -/
  language : UInt16
  deriving DecidableEq, Repr

end UsbPeripheral.Descriptor
