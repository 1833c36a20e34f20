import UsbPeripheral.CommandLine.Help
import UsbPeripheral.CommandLine.Reader
import UsbPeripheral.Kernel.RawChannel

/-!
# The programs

Two programs bring the ready devices to a controller: `usb-printer` and `usb-keyboard`.  They share
the parameters that say which controller, at what speed and with what limits.

A program that is asked for help prints it and is successful.  Misuse ends with status 2, a device
that cannot work with status 1.
-/

namespace UsbPeripheral

namespace Speed

/-- The word for a speed on a command line. -/
def keyword : Speed → String
  | unknown => "unknown"
  | low => "low"
  | full => "full"
  | high => "high"
  | wireless => "wireless"
  | super => "super"
  | superPlus => "super-plus"

/-- What a speed means. -/
def summary : Speed → String
  | unknown => "Let the UDC decide"
  | low => "1.5 Mbit/s"
  | full => "12 Mbit/s"
  | high => "480 Mbit/s"
  | wireless => "Wireless USB"
  | super => "5 Gbit/s"
  | superPlus => "10 Gbit/s"

/-- The speed behind a word. -/
def ofKeyword? (word : String) : Option Speed := all.find? (·.keyword == word)

theorem ofKeyword?_keyword (s : Speed) : ofKeyword? s.keyword = some s := by
  cases s <;> decide

end Speed

namespace CommandLine

/-! ### Parameters -/

/-- The name of the controller's driver. -/
def driver : Parameter where
  placeholder := "DRIVER"
  summary := "UDC driver name"
  standard := Settings.standard.driver
  assign value i := .ok { i with settings := { i.settings with driver := value } }

/-- The name of the controller. -/
def device : Parameter where
  placeholder := "DEVICE"
  summary := "UDC device name"
  standard := Settings.standard.device
  assign value i := .ok { i with settings := { i.settings with device := value } }

/-- The speed. -/
def speed : Parameter where
  name := "speed"
  placeholder := "SPEED"
  summary := "Speed requested from the UDC"
  standard := Settings.standard.speed.keyword
  choices := Speed.all.map fun s => ⟨s.keyword, s.summary⟩
  assign value i :=
    match Speed.ofKeyword? value with
    | some speed => .ok { i with settings := { i.settings with speed } }
    | none => .error (.notAChoice "speed" value)

/-- How often a failed transfer is tried again, a number of 32 bits. -/
def writeRetries : Parameter where
  name := "write-retries"
  placeholder := "N"
  summary := "Retries of a failed IN transfer before its data is dropped"
  standard := toString Settings.standard.writeRetries
  assign value i :=
    match signedNumber? UInt32.size value with
    | some writeRetries => .ok { i with settings := { i.settings with writeRetries } }
    | none => .error (.notANumber "write-retries" value)

/-- The largest transfer, a number of 64 bits. -/
def maxTransfer : Parameter where
  name := "max-transfer"
  placeholder := "BYTES"
  summary := "Largest single data endpoint transfer"
  standard := toString Settings.standard.maxTransfer
  assign value i :=
    match number? UInt64.size value with
    | some maxTransfer => .ok { i with settings := { i.settings with maxTransfer } }
    | none => .error (.notANumber "max-transfer" value)

/-- The device ID of a printer. -/
def deviceId : Parameter where
  name := "device-id"
  placeholder := "ID"
  summary := "IEEE 1284 device ID reported to the host"
  assign value i := .ok { i with deviceId := some value }

/-- The time between two key presses, a number of 64 bits. -/
def interval : Parameter where
  name := "interval"
  placeholder := "MS"
  summary := "Milliseconds between two key presses"
  standard := "1000"
  assign value i :=
    match number? UInt64.size value with
    | some interval => .ok { i with interval }
    | none => .error (.notANumber "interval" value)

/-- The positional parameters of all programs. -/
def sharedPositionals : List Parameter := [driver, device]

/-- The options of all programs. -/
def sharedOptions : List Parameter := [speed, writeRetries, maxTransfer]

namespace Program

/-- A program with the shared parameters only. -/
def bare : Program where
  name := "usb-device"
  summary := "Emulated USB device on a raw-gadget UDC"
  positionals := sharedPositionals
  options := sharedOptions

/-- The printer. -/
def printer : Program where
  name := "usb-printer"
  summary := "Emulated USB printer on a raw-gadget UDC, print data goes to stdout"
  positionals := sharedPositionals
  options := sharedOptions ++ [deviceId]

/-- The keyboard. -/
def keyboard : Program where
  name := "usb-keyboard"
  summary := "Emulated HID boot keyboard on a raw-gadget UDC"
  positionals := sharedPositionals
  options := sharedOptions ++ [interval]

/-- The programs that a user can start. -/
def all : List Program := [printer, keyboard]

/-- The program of a name. -/
def ofName? (name : String) : Option Program := all.find? (·.name == name)

end Program

/-! ### Outcomes -/

/-- How a program ends. -/
structure Outcome where
  status : UInt8
  output : String := ""
  /-- What it reports about itself. -/
  diagnostics : String := ""
  deriving DecidableEq, Repr

/-- How a program ends on a system that does not open the device node. -/
def Program.outcome (p : Program) (failure : OpenFailure) (arguments : List String) : Outcome :=
  match p.read arguments with
  | .ok _ =>
    { status := 1
      diagnostics := line (DeviceError.unopened Kernel.nodePath failure).message }
  | .error (.help full) => { status := 0, output := p.help full }
  | .error (.misuse e) =>
    { status := 2
      diagnostics := "\n".intercalate
        [line s!"error: {e.message}", line p.usage,
          line "For more information, try '--help'."] }

/-- Start the program that the first argument names, on such a system. -/
def start (failure : OpenFailure) : List String → IO UInt32
  | name :: arguments =>
    match Program.ofName? name with
    | some program => do
      let outcome := program.outcome failure arguments
      IO.print outcome.output
      IO.eprint outcome.diagnostics
      return outcome.status.toUInt32
    | none => do
      IO.eprintln s!"no program {name}"
      return 2
  | [] => do
    IO.eprintln ("programs: " ++ ", ".intercalate (Program.all.map (·.name)))
    return 2

end CommandLine

end UsbPeripheral
