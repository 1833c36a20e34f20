import UsbPeripheral.CommandLine.Parameter

/-!
# Reading a command line

The arguments are read one after the other.  An argument is

* `--`: everything after it is positional;
* `--name` or `--name=value`: an option, with its value attached or as the next argument;
* `-x`: an option of one letter, of which only `-h` exists;
* anything else, `-` included: the value of the option before it, or a positional argument.

`--help` and `-h` end the reading.  An option whose value is the next argument stays **pending**
until an argument comes that is not its value; only then its value is looked at.  So an argument that
cannot be read at all is reported before the bad value of an option that is pending, and that one
before a request for help.
-/

namespace UsbPeripheral.CommandLine

/-- Why a command line starts nothing. -/
inductive Halt where
  /-- The user asks for help, in full or in short. -/
  | help (full : Bool)
  | misuse (error : UsageError)
  deriving DecidableEq, Repr

/-- An argument by its looks. -/
inductive Word where
  | separator
  | named (name : String) (value : Option String)
  | letter (c : Char)
  | plain
  deriving DecidableEq, Repr

namespace Word

/-- What an argument looks like. -/
def ofArgument (argument : String) : Word :=
  match argument.toList with
  | ['-', '-'] => .separator
  | '-' :: '-' :: cs =>
    let name := String.ofList (cs.takeWhile (· != '='))
    match cs.dropWhile (· != '=') with
    | _ :: value => .named name (some (String.ofList value))
    | [] => .named name none
  | '-' :: c :: _ => .letter c
  | _ => .plain

end Word

/-- How far a command line was read. -/
structure Reader where
  /-- What the arguments so far ask for. -/
  invocation : Invocation := {}
  /-- The names of the options that have their value. -/
  given : List String := []
  /-- An option whose value was not looked at, and the value if it came. -/
  pending : Option (Parameter × Option String) := none
  /-- The positional parameters without a value. -/
  free : List Parameter
  /-- Whether everything is positional. -/
  literal : Bool := false

namespace Reader

/-- The reader after an option with its value, if it has one. -/
def give (r : Reader) (p : Parameter) (value : Option String) : Except Halt Reader :=
  match value with
  | none => .error (.misuse (.missingValue p.name))
  | some value =>
    if p.name ∈ r.given then .error (.misuse (.repeated p.name))
    else
      match p.assign value r.invocation with
      | .ok invocation => .ok { r with invocation, given := p.name :: r.given }
      | .error e => .error (.misuse e)

/-- The reader without a pending option. -/
def resolve (r : Reader) : Except Halt Reader :=
  match r.pending with
  | some (p, value) => { r with pending := none }.give p value
  | none => .ok r

/-- The reader after a positional argument. -/
def place (r : Reader) (argument : String) : Except Halt Reader :=
  match r.free with
  | p :: free => do
    let r ← r.resolve
    match p.assign argument r.invocation with
    | .ok invocation => .ok { r with invocation, free }
    | .error e => .error (.misuse e)
  | [] => .error (.misuse (.unknownArgument argument))

/-- The reader after an argument that is no option. -/
def value (r : Reader) (argument : String) : Except Halt Reader :=
  match r.pending with
  | some (p, none) => .ok { r with pending := some (p, some argument) }
  | _ => r.place argument

/-- The reader after a named option. -/
def name (program : Program) (r : Reader) (argument name : String) (attached : Option String) :
    Except Halt Reader :=
  if name = "help" then
    match attached with
    | some value => .error (.misuse (.unwantedValue name value))
    | none => do
      let _ ← r.resolve
      .error (.help true)
  else
    match program.option? name with
    | none => .error (.misuse (.unknownArgument argument))
    | some p => do
      let r ← r.resolve
      match attached with
      | some value => r.give p (some value)
      | none => .ok { r with pending := some (p, none) }

/-- The reader after one more argument. -/
def read (program : Program) (r : Reader) (argument : String) : Except Halt Reader :=
  if r.literal then r.place argument
  else
    match Word.ofArgument argument with
    | .separator => .ok { r with literal := true }
    | .named name attached => r.name program argument name attached
    | .letter c =>
      if c = 'h' then do
        let _ ← r.resolve
        .error (.help false)
      else .error (.misuse (.unknownArgument argument))
    | .plain => r.value argument

end Reader

namespace Program

/-- What the arguments of a program ask for. -/
def read (p : Program) (arguments : List String) : Except Halt Invocation := do
  let r ← arguments.foldlM (Reader.read p) { free := p.positionals }
  let r ← r.resolve
  return r.invocation

end Program

end UsbPeripheral.CommandLine
