/-!
# Standard requests

The requests that the USB standard defines for every device, by their code.
-/

namespace UsbPeripheral

/-- A request that the USB standard defines. -/
inductive StandardRequest where
  | getStatus
  | clearFeature
  | setFeature
  | setAddress
  | getDescriptor
  | setDescriptor
  | getConfiguration
  | setConfiguration
  | getInterface
  | setInterface
  | synchFrame
  deriving DecidableEq, Repr

namespace StandardRequest

/-- The request code. -/
def code : StandardRequest → UInt8
  | getStatus => 0
  | clearFeature => 1
  | setFeature => 3
  | setAddress => 5
  | getDescriptor => 6
  | setDescriptor => 7
  | getConfiguration => 8
  | setConfiguration => 9
  | getInterface => 10
  | setInterface => 11
  | synchFrame => 12

/-- The request with a given code. -/
def ofCode? (code : UInt8) : Option StandardRequest :=
  match code.toNat with
  | 0 => some getStatus
  | 1 => some clearFeature
  | 3 => some setFeature
  | 5 => some setAddress
  | 6 => some getDescriptor
  | 7 => some setDescriptor
  | 8 => some getConfiguration
  | 9 => some setConfiguration
  | 10 => some getInterface
  | 11 => some setInterface
  | 12 => some synchFrame
  | _ => none

theorem ofCode?_code (r : StandardRequest) : ofCode? r.code = some r := by
  cases r <;> rfl

/-- The name of a request. -/
def name : StandardRequest → String
  | getStatus => "GET_STATUS"
  | clearFeature => "CLEAR_FEATURE"
  | setFeature => "SET_FEATURE"
  | setAddress => "SET_ADDRESS"
  | getDescriptor => "GET_DESCRIPTOR"
  | setDescriptor => "SET_DESCRIPTOR"
  | getConfiguration => "GET_CONFIGURATION"
  | setConfiguration => "SET_CONFIGURATION"
  | getInterface => "GET_INTERFACE"
  | setInterface => "SET_INTERFACE"
  | synchFrame => "SYNCH_FRAME"

/-- The name of the request with a given code, `unknown` if the standard has none. -/
def describe (code : UInt8) : String :=
  match ofCode? code with
  | some r => r.name
  | none => "unknown"

end StandardRequest

/-- The features that a host can set and clear. -/
inductive Feature where
  | endpointHalt
  | remoteWakeup
  deriving DecidableEq, Repr

namespace Feature

/-- The value that selects a feature. -/
def code : Feature → UInt16
  | endpointHalt => 0
  | remoteWakeup => 1

end Feature

end UsbPeripheral
