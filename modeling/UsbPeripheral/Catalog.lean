import UsbPeripheral.Descriptor.Text

/-!
# Catalogs: where descriptors come from

A catalog answers what GET_DESCRIPTOR asks for.  It is built step by step from fixed descriptors,
strings, a table of languages and, per kind, a function that serves the whole kind.  A later step for
the same key wins.

A look-up asks, in this order:

* the function of the kind, if there is one; its answer is final;
* for a string, the strings: one with an index other than 0 is served in language 0 and in the
  languages of the table, and not in any other;
* for another kind, the fixed descriptors.
-/

namespace UsbPeripheral

/-- The descriptors of a kind as a function of index and language. -/
abbrev DescriptorSource := UInt8 → UInt16 → Option Bytes

/-- The descriptors of a device.  Of two entries with one key the first counts. -/
structure Catalog where
  /-- Fixed descriptors by kind and index. -/
  descriptors : List ((Descriptor.Kind × UInt8) × Bytes) := []
  /-- String descriptors by index, the table of languages at 0. -/
  strings : List (UInt8 × Bytes) := []
  /-- Languages in which strings are served. -/
  languages : List UInt16 := []
  /-- Functions by the kind that they serve. -/
  sources : List (Descriptor.Kind × DescriptorSource) := []

namespace Catalog

/-- The catalog without descriptors. -/
def empty : Catalog := {}

/-- One step of building a catalog. -/
inductive Step where
  | descriptor (kind : Descriptor.Kind) (index : UInt8) (data : Bytes)
  /-- A string, at an index other than 0. -/
  | string (index : UInt8) (text : String)
  /-- The languages, which also are string 0. -/
  | languages (list : List UInt16)
  /-- A function that serves a kind. -/
  | source (kind : Descriptor.Kind) (f : DescriptorSource)

/-- The catalog after one more step. -/
def add (c : Catalog) : Step → Catalog
  | .descriptor kind index data =>
    { c with descriptors := ((kind, index), data) :: c.descriptors }
  | .string index text =>
    { c with strings := (index, Descriptor.ofText text) :: c.strings }
  | .languages list =>
    { c with languages := list, strings := (0, Descriptor.ofLanguages list) :: c.strings }
  | .source kind f => { c with sources := (kind, f) :: c.sources }

/-- The catalog that the steps build. -/
def ofSteps (steps : List Step) : Catalog := steps.foldl add empty

/-- The string descriptor that is served in a language. -/
def string? (c : Catalog) (index : UInt8) (language : UInt16) : Option Bytes :=
  if index = 0 ∨ language = 0 ∨ language ∈ c.languages then c.strings.lookup index else none

/-- The descriptor that a query asks for. -/
def lookup (c : Catalog) (q : Descriptor.Query) : Option Bytes :=
  match c.sources.lookup q.kind with
  | some f => f q.index q.language
  | none =>
    if q.kind = Descriptor.Kind.string then c.string? q.index q.language
    else c.descriptors.lookup (q.kind, q.index)

end Catalog

end UsbPeripheral
