import UsbPeripheral.Settings

/-!
# Parameters of the command lines

A program is started with **parameters**: positional ones, which are told apart by their order, and
options, which are named.  Each has at most one value, and knows what its value means for the
**invocation** that the whole command line describes.

A number is written in decimal digits, with an optional sign before them, and lies below a limit.
Most numbers may have a plus sign only.  Others are read with either sign, so that a minus sign is
right before zero and wrong before anything else.
-/

namespace UsbPeripheral.CommandLine

/-- What a command line asks for. -/
structure Invocation where
  /-- The settings of the device. -/
  settings : Settings := .standard
  /-- The device ID of a printer, if not the usual one. -/
  deviceId : Option String := none
  /-- Milliseconds between two key presses of a keyboard. -/
  interval : Nat := 1000
  deriving DecidableEq, Repr

/-- What is wrong with a command line. -/
inductive UsageError where
  /-- There is no such option, or no place for one more positional argument. -/
  | unknownArgument (argument : String)
  /-- An option came without its value. -/
  | missingValue (name : String)
  /-- A value is none of the choices. -/
  | notAChoice (name value : String)
  /-- A value is no number, or too large. -/
  | notANumber (name value : String)
  /-- An option was given twice. -/
  | repeated (name : String)
  /-- An option that takes no value came with one. -/
  | unwantedValue (name value : String)
  deriving DecidableEq, Repr

namespace UsageError

/-- The error in words. -/
def message : UsageError → String
  | unknownArgument argument => s!"unexpected argument '{argument}' found"
  | missingValue name => s!"a value is required for '--{name}' but none was supplied"
  | notAChoice name value => s!"invalid value '{value}' for '--{name}'"
  | notANumber name value => s!"invalid number '{value}' for '--{name}'"
  | repeated name => s!"the argument '--{name}' cannot be used multiple times"
  | unwantedValue name value => s!"unexpected value '{value}' for '--{name}' found"

end UsageError

/-! ### Numbers -/

/-- The value of a decimal digit; only the ten digits of ASCII are digits. -/
def digit? (c : Char) : Option Nat :=
  if '0' ≤ c ∧ c ≤ '9' then some (c.toNat - '0'.toNat) else none

/-- The number that the digits continue which were read so far. -/
def digitsFrom : (value : Nat) → List Char → Option Nat
  | value, [] => some value
  | value, c :: rest => do
    let d ← digit? c
    digitsFrom (10 * value + d) rest

/-- The number behind at least one digit. -/
def digits? : List Char → Option Nat
  | [] => none
  | cs => digitsFrom 0 cs

/-- A number below `limit`, with or without a plus sign. -/
def number? (limit : Nat) (text : String) : Option Nat :=
  (match text.toList with
    | '+' :: cs => digits? cs
    | cs => digits? cs).filter (· < limit)

/-- A number below `limit`, with or without a sign. -/
def signedNumber? (limit : Nat) (text : String) : Option Nat :=
  match text.toList with
  | '-' :: cs => (digits? cs).filter (· = 0)
  | _ => number? limit text

/-! ### Parameters -/

/-- A value that a parameter can have, with what it means. -/
structure Choice where
  value : String
  summary : String
  deriving DecidableEq, Repr

/-- A parameter of a program. -/
structure Parameter where
  /-- The name of an option; a positional parameter is never named. -/
  name : String := ""
  /-- What stands for the value in the help. -/
  placeholder : String
  /-- What the parameter is for. -/
  summary : String
  /-- The value if none is given. -/
  standard : Option String := none
  /-- The possible values, if they are listed. -/
  choices : List Choice := []
  /-- The invocation in which the parameter has a value. -/
  assign : String → Invocation → Except UsageError Invocation

/-- A program with its parameters. -/
structure Program where
  /-- The name by which it is called. -/
  name : String
  summary : String
  /-- The positional parameters in order. -/
  positionals : List Parameter
  /-- The options, in the order of the help. -/
  options : List Parameter

namespace Program

/-- The option of a name. -/
def option? (p : Program) (name : String) : Option Parameter :=
  p.options.find? (·.name == name)

end Program

end UsbPeripheral.CommandLine
