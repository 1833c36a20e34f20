import UsbPeripheral.Catalog
import UsbPeripheral.Proofs.History
import UsbPeripheral.Proofs.Latest

/-! # Descriptors are served as declared

A catalog is built by steps, in any order and with repetitions.  What it serves is told from the
steps alone: of the steps that say something about one thing the latest counts, and a function that
serves a kind is asked before all else (`Catalog.declared`).  Every catalog serves what its steps
declare (`Catalog.lookup_ofSteps`).

A host that asks a device for a descriptor gets what is declared, whatever the device has been through
(`Gadget.serves_declared`). -/

namespace UsbPeripheral

namespace Catalog

/-! ### What steps declare -/

namespace Step

/-- The function that a step has serve a kind. -/
def source? (kind : Descriptor.Kind) : Step → Option DescriptorSource
  | .source other f => if other = kind then some f else none
  | _ => none

/-- The languages that a step declares. -/
def languages? : Step → Option (List UInt16)
  | .languages list => some list
  | _ => none

/-- The text that a step puts at an index. -/
def text? (index : UInt8) : Step → Option String
  | .string other text => if other = index then some text else none
  | _ => none

/-- The descriptor that a step fixes. -/
def fixed? (kind : Descriptor.Kind) (index : UInt8) : Step → Option Bytes
  | .descriptor otherKind other data =>
    if otherKind = kind ∧ other = index then some data else none
  | _ => none

/-- A text stands at an index other than 0. -/
def Proper : Step → Prop
  | .string index _ => index ≠ 0
  | _ => True

end Step

/-- What steps declare for a query. -/
def declared (steps : List Step) (q : Descriptor.Query) : Option Bytes :=
  match latest? (Step.source? q.kind) steps with
  | some f => f q.index q.language
  | none =>
    if q.kind = Descriptor.Kind.string then
      if q.index = 0 then (latest? Step.languages? steps).map Descriptor.ofLanguages
      else if q.language = 0 ∨ q.language ∈ (latest? Step.languages? steps).getD [] then
        (latest? (Step.text? q.index) steps).map Descriptor.ofText
      else none
    else latest? (Step.fixed? q.kind q.index) steps

/-! ### The catalog that steps build -/

theorem lookup_cons_of_ne {κ α : Type} [BEq κ] [LawfulBEq κ] {key other : κ} (a : α)
    (entries : List (κ × α)) (h : other ≠ key) :
    ((other, a) :: entries).lookup key = entries.lookup key := by
  rw [List.lookup_cons, beq_false_of_ne h.symm]

section build

variable {steps : List Step}

theorem sources_ofSteps (kind : Descriptor.Kind) :
    (ofSteps steps).sources.lookup kind = latest? (Step.source? kind) steps := by
  refine read_foldl (fun c : Catalog => c.sources.lookup kind) _ id rfl ?_ ?_
  · intro c s _ hsay
    cases s with
    | source other f =>
        have hother : other ≠ kind := fun h => by simp [Step.source?, h] at hsay
        exact lookup_cons_of_ne _ _ hother
    | _ => rfl
  · intro c s _ f hsay
    cases s with
    | source other g =>
        obtain ⟨rfl, rfl⟩ : other = kind ∧ g = f := by simpa [Step.source?] using hsay
        exact List.lookup_cons_self
    | _ => cases hsay

theorem languages_ofSteps :
    (ofSteps steps).languages = (latest? Step.languages? steps).getD [] := by
  refine read_foldl (fun c : Catalog => c.languages) _ (·.getD []) rfl ?_ ?_
  · intro c s _ hsay
    cases s with
    | languages list => cases hsay
    | _ => rfl
  · intro c s _ list hsay
    cases s with
    | languages _ =>
        obtain rfl := Option.some.inj hsay
        rfl
    | _ => cases hsay

/-- String 0 is the table of languages. -/
theorem table_ofSteps (hproper : ∀ s ∈ steps, s.Proper) :
    (ofSteps steps).strings.lookup 0 = (latest? Step.languages? steps).map Descriptor.ofLanguages := by
  refine read_foldl (fun c : Catalog => c.strings.lookup 0) _
    (·.map Descriptor.ofLanguages) rfl ?_ ?_
  · intro c s hs hsay
    cases s with
    | languages list => cases hsay
    | string index text => exact lookup_cons_of_ne _ _ (hproper _ hs)
    | _ => rfl
  · intro c s _ list hsay
    cases s with
    | languages _ =>
        obtain rfl := Option.some.inj hsay
        rfl
    | _ => cases hsay

theorem texts_ofSteps {index : UInt8} (hindex : index ≠ 0) :
    (ofSteps steps).strings.lookup index =
      (latest? (Step.text? index) steps).map Descriptor.ofText := by
  refine read_foldl (fun c : Catalog => c.strings.lookup index) _
    (·.map Descriptor.ofText) rfl ?_ ?_
  · intro c s _ hsay
    cases s with
    | languages list => exact lookup_cons_of_ne _ _ hindex.symm
    | string other text =>
        have hother : other ≠ index := fun h => by simp [Step.text?, h] at hsay
        exact lookup_cons_of_ne _ _ hother
    | _ => rfl
  · intro c s _ text hsay
    cases s with
    | string other _ =>
        obtain ⟨rfl, rfl⟩ : other = index ∧ _ = text := by simpa [Step.text?] using hsay
        exact List.lookup_cons_self
    | _ => cases hsay

theorem descriptors_ofSteps (kind : Descriptor.Kind) (index : UInt8) :
    (ofSteps steps).descriptors.lookup (kind, index) = latest? (Step.fixed? kind index) steps := by
  refine read_foldl (fun c : Catalog => c.descriptors.lookup (kind, index)) _ id rfl ?_ ?_
  · intro c s _ hsay
    cases s with
    | descriptor otherKind other data =>
        have hother : (otherKind, other) ≠ (kind, index) := fun h => by
          simp [Step.fixed?, Prod.mk.inj h] at hsay
        exact lookup_cons_of_ne _ _ hother
    | _ => rfl
  · intro c s _ data hsay
    cases s with
    | descriptor otherKind other _ =>
        obtain ⟨⟨rfl, rfl⟩, rfl⟩ : (otherKind = kind ∧ other = index) ∧ _ = data := by
          simpa [Step.fixed?] using hsay
        exact List.lookup_cons_self
    | _ => cases hsay

/-- **A catalog serves what its steps declare.** -/
theorem lookup_ofSteps (hproper : ∀ s ∈ steps, s.Proper) (q : Descriptor.Query) :
    (ofSteps steps).lookup q = declared steps q := by
  unfold lookup declared
  rw [sources_ofSteps]
  cases latest? (Step.source? q.kind) steps with
  | some f => rfl
  | none =>
      dsimp only
      split
      · unfold string?
        rw [languages_ofSteps]
        by_cases hindex : q.index = 0
        · rw [if_pos (.inl hindex), if_pos hindex, hindex, table_ofSteps hproper]
        · rw [if_neg hindex, texts_ofSteps hindex]
          simp only [hindex, false_or]
      · exact descriptors_ofSteps q.kind q.index

end build

end Catalog

/-! ### A device that serves a catalog -/

namespace Gadget

section device

variable {σ P : Type} [Channel σ] [DeviceProfile P]

/-- A device class serves the catalog that some steps build. -/
def Serves (p : P) (steps : List Catalog.Step) : Prop :=
  ∀ q, DeviceProfile.descriptor? p q = (Catalog.ofSteps steps).lookup q

/-- A host is sent what the steps declare, or refused. -/
theorem sends_declared {steps : List Catalog.Step} (hproper : ∀ s ∈ steps, s.Proper)
    {g : Gadget (Traced σ) P} (hserves : Serves g.profile steps) {setup : Setup}
    (hasks : setup.Carries .getDescriptor .toHost) :
    (∀ data, Catalog.declared steps setup.descriptorQuery = some data → g.Sends setup data) ∧
      (Catalog.declared steps setup.descriptorQuery = none → g.Refuses setup) := by
  obtain ⟨journal, hanswer⟩ := answering_getDescriptor g hasks
  rw [hserves, Catalog.lookup_ofSteps hproper] at hanswer
  constructor
  · intro data hdata
    rw [hdata] at hanswer
    exact sends_of_answering hasks.2.2 hanswer rfl
  · intro hnone
    rw [hnone] at hanswer
    exact refuses_of_answering hanswer rfl

/-- **Descriptors are served as declared.**  A device in any state answers with the descriptor that
the steps of its catalog declare, cut to the length that the host asks for, or refuses if there is
none.  A device in any other state, asked for the same descriptor with any other length, answers with
more or less of the same. -/
theorem serves_declared {steps : List Catalog.Step} (hproper : ∀ s ∈ steps, s.Proper)
    {g : Gadget (Traced σ) P} (hserves : Serves g.profile steps) {setup : Setup}
    (hasks : setup.Carries .getDescriptor .toHost) :
    let kind := Bytes.high setup.value
    let language := if kind = Descriptor.Kind.string then setup.index else 0
    let descriptor := Catalog.declared steps ⟨kind, Bytes.low setup.value, language⟩
    (∀ data, descriptor = some data → g.Sends setup data) ∧
      (descriptor = none → g.Refuses setup) ∧
      ∀ (other : Gadget (Traced σ) P) (setup' : Setup), Serves other.profile steps →
        setup'.Carries .getDescriptor .toHost → setup'.value = setup.value →
        setup'.index = setup.index →
          (∃ data, g.Sends setup data ∧ other.Sends setup' data ∧
            (setup.length ≤ setup'.length →
              data.take setup.length.toNat <+: data.take setup'.length.toNat)) ∨
          (g.Refuses setup ∧ other.Refuses setup') := by
  intro kind language descriptor
  obtain ⟨hsends, hrefuses⟩ := sends_declared hproper hserves hasks
  refine ⟨hsends, hrefuses, ?_⟩
  intro other setup' hserves' hasks' hvalue hindex
  obtain ⟨hsends', hrefuses'⟩ := sends_declared hproper hserves' hasks'
  have hquery : setup'.descriptorQuery = setup.descriptorQuery := by
    unfold Setup.descriptorQuery
    rw [hvalue, hindex]
  rw [hquery] at hsends' hrefuses'
  cases hdeclared : Catalog.declared steps setup.descriptorQuery with
  | none => exact .inr ⟨hrefuses hdeclared, hrefuses' hdeclared⟩
  | some data =>
      refine .inl ⟨data, hsends data hdeclared, hsends' data hdeclared, ?_⟩
      intro hlength
      exact List.take_prefix_take_left (UInt16.le_iff_toNat_le.mp hlength)

end device

/-- A function is declared after a descriptor of its kind, and texts and languages in turn. -/
def lampSteps : List Catalog.Step :=
  [.string 1 "A", .languages [Descriptor.americanEnglish],
    .descriptor Descriptor.Kind.report 0 [0xee],
    .source Descriptor.Kind.report fun index _ => if index = 0 then some [5, 8] else none,
    .languages [0x0407], .string 1 "B"]

/-- A suspended device with the catalog. -/
def lamp : Gadget (Traced Bus) PlainDevice :=
  (new { inner := Bus.idle } {} ⟨.ofSteps lampSteps, []⟩ .standard).after
    [.start, .event .connect, .event .suspend]

/-- The function comes before the descriptor, the last text before the first one, and a text is not
served in a language that was declared before the last table. -/
theorem lamp_serves :
    let report : Setup := ⟨.toHost, StandardRequest.getDescriptor.code, 0x2200, 0, 1⟩
    let text : Setup := ⟨.toHost, StandardRequest.getDescriptor.code, 0x0301, 0x0407, 255⟩
    let foreign : Setup :=
      ⟨.toHost, StandardRequest.getDescriptor.code, 0x0301, Descriptor.americanEnglish, 255⟩
    (∀ s ∈ lampSteps, s.Proper) ∧ Serves lamp.profile lampSteps ∧
      lamp.Sends report [5, 8] ∧ lamp.Sends text [4, 3, 66, 0] ∧ lamp.Refuses foreign := by
  intro report text foreign
  have hproper : ∀ s ∈ lampSteps, s.Proper := by
    simp [lampSteps, Catalog.Step.Proper]
  have hserves : Serves lamp.profile lampSteps := fun _ => rfl
  refine ⟨hproper, hserves, ?report, ?text, ?foreign⟩
  case report => exact (serves_declared hproper hserves ⟨rfl, rfl, rfl⟩).1 _ (by decide +kernel)
  case text => exact (serves_declared hproper hserves ⟨rfl, rfl, rfl⟩).1 _ (by decide +kernel)
  case foreign => exact (serves_declared hproper hserves ⟨rfl, rfl, rfl⟩).2.1 (by decide +kernel)

end Gadget

end UsbPeripheral
