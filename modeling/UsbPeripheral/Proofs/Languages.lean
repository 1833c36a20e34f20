import UsbPeripheral.Proofs.Descriptors

/-! # The languages of a catalog

A catalog keeps its languages twice: as the list by which it answers for a text, and as string 0, the
table in which a host looks them up (`Catalog.table?`).  The list has no limit, and the table has room
for 126 languages.  So a text is served in the languages that the table **lists** and in those that
were declared and that the table has **no room** for, and in no other one
(`Catalog.answers_iff_listed_or_crowdedOut`). -/

namespace UsbPeripheral

namespace Descriptor

/-- The units that stand in a string descriptor, which is as long as its first byte says. -/
def units : Bytes → List UInt16
  | [] => []
  | length :: rest => unitsOf ((rest.take (length.toNat - 1)).drop 1)

/-- A string descriptor holds the units that there is room for. -/
theorem units_ofUnits (list : List UInt16) : units (ofUnits list) = list.take maxUnits := by
  rw [ofUnits_eq]
  show unitsOf (((Kind.string :: (list.take maxUnits).flatMap Bytes.ofWord16).take _).drop 1) = _
  rw [toNat_lengthByte, List.take_of_length_le]
  · exact unitsOf_flatMap _
  · simp only [List.length_cons]
    omega

end Descriptor

namespace Catalog

/-- The table of languages that a host is served. -/
def table? (c : Catalog) (asked : UInt16) : Option Bytes :=
  c.lookup ⟨Descriptor.Kind.string, 0, asked⟩

/-- A text is served in a language. -/
def Answers (c : Catalog) (index : UInt8) (language : UInt16) : Prop :=
  (c.lookup ⟨Descriptor.Kind.string, index, language⟩).isSome = true

instance (c : Catalog) (index : UInt8) (language : UInt16) : Decidable (c.Answers index language) :=
  inferInstanceAs (Decidable (_ = true))

/-- A language stands in the table. -/
def Lists (table : Option Bytes) (language : UInt16) : Prop :=
  ∃ data ∈ table, language ∈ Descriptor.units data

/-- A step leaves the texts to the tables. -/
def Step.Tabled : Step → Prop
  | .source kind _ => kind ≠ Descriptor.Kind.string
  | _ => True

/-- The languages that count, which are those of the last step that declares any. -/
def languagesOf (steps : List Step) : List UInt16 := (latest? Step.languages? steps).getD []

/-- The languages that the table has no room for. -/
def crowdedOut (steps : List Step) : List UInt16 :=
  (languagesOf steps).drop Descriptor.maxUnits

section served

variable {steps : List Step} (hproper : ∀ s ∈ steps, s.Proper) (htabled : ∀ s ∈ steps, s.Tabled)
include hproper htabled

omit hproper in
/-- No function serves the texts. -/
theorem source?_of_tabled : latest? (Step.source? Descriptor.Kind.string) steps = none := by
  refine latest?_eq_none_iff.mpr fun s hs => ?_
  cases s with
  | source kind f => exact if_neg (htabled _ hs)
  | _ => rfl

/-- In whatever language the table is asked for, it is made of the languages that count. -/
theorem table?_ofSteps (asked : UInt16) :
    (ofSteps steps).table? asked = (latest? Step.languages? steps).map Descriptor.ofLanguages := by
  unfold table?
  rw [lookup_ofSteps hproper, declared, source?_of_tabled htabled]
  rfl

/-- The table lists the languages that it has room for. -/
theorem lists_table_iff (asked language : UInt16) :
    Lists ((ofSteps steps).table? asked) language ↔
      language ∈ (languagesOf steps).take Descriptor.maxUnits := by
  rw [table?_ofSteps hproper htabled, languagesOf]
  cases latest? Step.languages? steps with
  | none => simp [Lists]
  | some list =>
    have hunits : Descriptor.units (Descriptor.ofLanguages list) = list.take Descriptor.maxUnits :=
      Descriptor.units_ofUnits list
    simp [Lists, hunits]

/-- A text that was added is served in the languages that count. -/
theorem answers_iff_mem {index : UInt8} {text : String} (hadded : .string index text ∈ steps)
    {language : UInt16} (hlanguage : language ≠ 0) :
    (ofSteps steps).Answers index language ↔ language ∈ languagesOf steps := by
  have hindex : index ≠ 0 := hproper _ hadded
  have htext : ((latest? (Step.text? index) steps).map Descriptor.ofText).isSome = true := by
    rw [Option.isSome_map]
    exact latest?_isSome_of_mem hadded (by simp [Step.text?])
  unfold Answers languagesOf
  rw [lookup_ofSteps hproper, declared, source?_of_tabled htabled]
  dsimp only
  rw [if_pos rfl, if_neg hindex]
  by_cases hmem : language ∈ (latest? Step.languages? steps).getD []
  · rw [if_pos (.inr hmem)]
    exact iff_of_true htext hmem
  · rw [if_neg (not_or.mpr ⟨hlanguage, hmem⟩)]
    exact iff_of_false Bool.false_ne_true hmem

/-- **A text is served in the languages that the table lists, and in those that it has no room for.**
If every language has room, these are the languages in the table, and without a table there is none. -/
theorem answers_iff_listed_or_crowdedOut {index : UInt8} {text : String}
    (hadded : .string index text ∈ steps) {language : UInt16} (hlanguage : language ≠ 0)
    (asked : UInt16) :
    let c := ofSteps steps
    (c.Answers index language ↔
        Lists (c.table? asked) language ∨ language ∈ crowdedOut steps) ∧
      ((languagesOf steps).length ≤ Descriptor.maxUnits →
        (c.Answers index language ↔ Lists (c.table? asked) language)) ∧
      (c.table? asked = none → ¬ c.Answers index language) := by
  intro c
  have hanswers : c.Answers index language ↔ language ∈ languagesOf steps :=
    answers_iff_mem hproper htabled hadded hlanguage
  have hlists : Lists (c.table? asked) language ↔ _ := lists_table_iff hproper htabled asked language
  have hsplit : language ∈ languagesOf steps ↔
      Lists (c.table? asked) language ∨ language ∈ crowdedOut steps := by
    rw [hlists, crowdedOut, ← List.mem_append, List.take_append_drop]
  refine ⟨hanswers.trans hsplit, fun hroom => ?_, fun hnone hanswer => ?_⟩
  · rw [hlists, List.take_of_length_le hroom]
    exact hanswers
  · have hlast : latest? Step.languages? steps = none := by
      rw [table?_ofSteps hproper htabled, Option.map_eq_none_iff] at hnone
      exact hnone
    have hmem := hanswers.mp hanswer
    rw [languagesOf, hlast] at hmem
    cases hmem

end served

/-- One language more than the table has room for. -/
def crowdedSteps : List Step :=
  [.languages ((List.range 127).map fun n => UInt16.ofNat (n + 1)), .string 1 "A"]

theorem crowdedSteps_proper : ∀ s ∈ crowdedSteps, s.Proper := by
  simp [crowdedSteps, Step.Proper]

theorem crowdedSteps_tabled : ∀ s ∈ crowdedSteps, s.Tabled := by
  simp [crowdedSteps, Step.Tabled]

/-- The last language is served, and the table does not list it. -/
theorem crowdedSteps_unlisted :
    (∀ s ∈ crowdedSteps, s.Proper) ∧ (∀ s ∈ crowdedSteps, s.Tabled) ∧
      .string 1 "A" ∈ crowdedSteps ∧
      ¬ ((ofSteps crowdedSteps).Answers 1 127 ↔ Lists ((ofSteps crowdedSteps).table? 0) 127) := by
  refine ⟨crowdedSteps_proper, crowdedSteps_tabled, by simp [crowdedSteps], fun h => ?_⟩
  have hanswers : (ofSteps crowdedSteps).Answers 1 127 := by decide +kernel
  have hlisted := h.mp hanswers
  rw [lists_table_iff crowdedSteps_proper crowdedSteps_tabled] at hlisted
  exact absurd hlisted (by decide +kernel)

/-- A language that the table has no room for is served. -/
theorem crowdedSteps_answers :
    (∀ s ∈ crowdedSteps, s.Proper) ∧ (∀ s ∈ crowdedSteps, s.Tabled) ∧
      .string 1 "A" ∈ crowdedSteps ∧ (127 : UInt16) ≠ 0 ∧
      ((ofSteps crowdedSteps).Answers 1 127 ↔
        Lists ((ofSteps crowdedSteps).table? 0) 127 ∨ 127 ∈ crowdedOut crowdedSteps) ∧
      (127 : UInt16) ∈ crowdedOut crowdedSteps := by
  have hadded : .string 1 "A" ∈ crowdedSteps := by simp [crowdedSteps]
  have hlanguage : (127 : UInt16) ≠ 0 := by decide
  have hanswers :=
    answers_iff_listed_or_crowdedOut crowdedSteps_proper crowdedSteps_tabled hadded hlanguage 0
  exact ⟨crowdedSteps_proper, crowdedSteps_tabled, hadded, hlanguage, hanswers.1, by decide +kernel⟩

end Catalog

end UsbPeripheral
