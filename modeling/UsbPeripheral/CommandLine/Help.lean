import UsbPeripheral.CommandLine.Parameter

/-!
# Help texts

A program explains itself in two forms.  The short one has one line for every parameter, with all
explanations in one column.  The full one has a paragraph for every parameter, and explains every
possible value.
-/

namespace UsbPeripheral.CommandLine

/-- `n` spaces. -/
def spaces (n : Nat) : String := String.ofList (List.replicate n ' ')

/-- A text with spaces after it, at least `width` characters long. -/
def padTo (width : Nat) (text : String) : String := text ++ spaces (width - text.length)

/-- The greatest of some numbers, 0 if there are none. -/
def greatest (ns : List Nat) : Nat := ns.foldl max 0

/-- A line of text. -/
def line (text : String) : String := text ++ "\n"

/-- A parameter as the help shows it. -/
structure HelpEntry where
  /-- How the parameter is written. -/
  label : String
  summary : String
  /-- The value if none is given. -/
  standard : Option String := none
  /-- The possible values, if they are listed. -/
  choices : List Choice := []

namespace HelpEntry

/-- The entry of a positional parameter. -/
def positional (p : Parameter) : HelpEntry :=
  { label := s!"[{p.placeholder}]", summary := p.summary, standard := p.standard,
    choices := p.choices }

/-- The entry of an option. -/
def named (p : Parameter) : HelpEntry :=
  { label := s!"    --{p.name} <{p.placeholder}>", summary := p.summary, standard := p.standard,
    choices := p.choices }

/-- The entry of the help itself, which refers to the other form. -/
def help (full : Bool) : HelpEntry where
  label := "-h, --help"
  summary := if full then "Print help (see a summary with '-h')"
    else "Print help (see more with '--help')"

/-- The note on the value if none is given. -/
def standardNotes (e : HelpEntry) : List String :=
  (e.standard.map fun value => s!"[default: {value}]").toList

/-- The note on the possible values. -/
def choiceNotes (e : HelpEntry) : List String :=
  if e.choices.isEmpty then []
  else ["[possible values: " ++ ", ".intercalate (e.choices.map (·.value)) ++ "]"]

/-- The entry in one line, with the explanation after `width` characters. -/
def short (width : Nat) (e : HelpEntry) : String :=
  line ("  " ++ padTo width e.label ++ "  " ++
    " ".intercalate (e.summary :: (e.standardNotes ++ e.choiceNotes)))

/-- The possible values with their explanations. -/
def choiceLines (e : HelpEntry) : List String :=
  let width := greatest (e.choices.map (·.value.length)) + 1
  if e.choices.isEmpty then []
  else
    "" :: s!"{spaces 10}Possible values:" ::
      e.choices.map fun c =>
        spaces 10 ++ "- " ++ padTo width (c.value ++ ":") ++ " " ++ c.summary

/-- The entry as a paragraph. -/
def full (e : HelpEntry) : String :=
  String.join ((s!"  {e.label}" :: s!"{spaces 10}{e.summary}" :: e.choiceLines ++
    e.standardNotes.flatMap fun note => [spaces 10, spaces 10 ++ note]).map line)

end HelpEntry

/-- Several entries under a heading. -/
def helpSection (heading : String) (isFull : Bool) (entries : List HelpEntry) : String :=
  let width := greatest (entries.map (·.label.length))
  line s!"{heading}:" ++
    if isFull then "\n".intercalate (entries.map (·.full))
    else String.join (entries.map (·.short width))

namespace Program

/-- How a program is called. -/
def usage (p : Program) : String :=
  " ".intercalate (["Usage:", p.name, "[OPTIONS]"] ++
    p.positionals.map fun q => s!"[{q.placeholder}]")

/-- The help of a program. -/
def help (p : Program) (full : Bool) : String :=
  "\n".intercalate
    [line p.summary, line p.usage,
      helpSection "Arguments" full (p.positionals.map .positional),
      helpSection "Options" full (p.options.map .named ++ [.help full])]

end Program

end UsbPeripheral.CommandLine
