import Mathlib.Data.Finset.Card
import UsbPeripheral.Emulation.Bus
import UsbPeripheral.Profiles.Declared
import UsbPeripheral.Proofs.Classes
import UsbPeripheral.Proofs.History
import UsbPeripheral.Proofs.Latest
import UsbPeripheral.Proofs.Mirrors

/-! # Requests go to the handlers that were registered

The handlers of a device are registered by steps, in any order and with repetitions.  Which handler a
table has for a request is told from the steps alone (`HandlerTable.registered`,
`HandlerTable.lookup_ofSteps`):

* for a class request, the one that was registered last for its code;
* for a vendor request, the one that was registered last for its code, or else the fallback that was
  registered last;
* for every other request, none.

A device runs the handler that was registered for a request, and refuses a request without one, whatever
it has been through (`Gadget.routes_as_registered`).  What it makes of a standard request does not depend
on its handlers at all. -/

namespace UsbPeripheral

namespace HandlerTable

variable {P : Type}

/-! ### What steps register -/

namespace Step

/-- The handler that a step registers for the class requests of a code. -/
def classHandler? (code : UInt8) : Step P → Option (NamedHandler P)
  | .ofClass other name handler => if code = other then some ⟨name, handler⟩ else none
  | _ => none

/-- The handler that a step registers for the vendor requests of a code. -/
def vendorHandler? (code : UInt8) : Step P → Option (NamedHandler P)
  | .vendor other name handler => if code = other then some ⟨name, handler⟩ else none
  | _ => none

/-- The handler that a step registers for the other vendor requests. -/
def fallback? : Step P → Option (NamedHandler P)
  | .fallback handler => some ⟨"vendor", handler⟩
  | _ => none

/-- The handler of a step. -/
def handler : Step P → NamedHandler P
  | .ofClass _ name handler | .vendor _ name handler => ⟨name, handler⟩
  | .fallback handler => ⟨"vendor", handler⟩

/-- Whether a step registers a handler of class requests. -/
def isClass : Step P → Bool
  | .ofClass _ _ _ => true
  | _ => false

/-- The category and the code that a step registers a handler for.  A fallback has no code. -/
def key? : Step P → Option (Category × UInt8)
  | .ofClass code _ _ => some (.ofClass, code)
  | .vendor code _ _ => some (.vendor, code)
  | .fallback _ => none

end Step

/-- The handler that steps register for a request. -/
def registered (steps : List (Step P)) (category : Category) (code : UInt8) :
    Option (NamedHandler P) :=
  match category with
  | .ofClass => latest? (Step.classHandler? code) steps
  | .vendor => (latest? (Step.vendorHandler? code) steps).or (latest? Step.fallback? steps)
  | .standard | .reserved => none

/-! ### The table that steps build -/

theorem ofSteps_concat (steps : List (Step P)) (s : Step P) :
    ofSteps (steps ++ [s]) = (ofSteps steps).add s := List.foldl_concat ..

section build

variable {steps : List (Step P)}

theorem get?_insert_or (m : ByteMap (NamedHandler P)) (other code : UInt8) (h : NamedHandler P) :
    (m.insert other h).get? code = (if code = other then some h else none).or (m.get? code) := by
  rw [ByteMap.get?_insert]
  split <;> rfl

/-- A part of a table has what the latest step says that puts something into it. -/
theorem read_ofSteps {α : Type} (read : HandlerTable P → Option α) (say : Step P → Option α)
    (hempty : read empty = none) (hadd : ∀ t s, read (t.add s) = (say s).or (read t)) :
    read (ofSteps steps) = latest? say steps := by
  refine read_foldl read say id hempty ?_ ?_
  · intro t s _ hsay
    rw [hadd, hsay, Option.none_or]
  · intro t s _ a hsay
    rw [hadd, hsay, Option.some_or]
    rfl

theorem classes_ofSteps (code : UInt8) :
    (ofSteps steps).classes.get? code = latest? (Step.classHandler? code) steps := by
  refine read_ofSteps (fun t => t.classes.get? code) _ rfl fun t s => ?_
  cases s with
  | ofClass other name handler => exact get?_insert_or _ _ _ _
  | _ => rfl

theorem vendors_ofSteps (code : UInt8) :
    (ofSteps steps).vendors.get? code = latest? (Step.vendorHandler? code) steps := by
  refine read_ofSteps (fun t => t.vendors.get? code) _ rfl fun t s => ?_
  cases s with
  | vendor other name handler => exact get?_insert_or _ _ _ _
  | _ => rfl

theorem fallback_ofSteps :
    (ofSteps steps).fallback.map (NamedHandler.mk "vendor") = latest? Step.fallback? steps := by
  refine read_ofSteps (fun t => t.fallback.map (NamedHandler.mk "vendor")) _ rfl fun t s => ?_
  cases s <;> rfl

end build

/-- **A table has the handlers that its steps register.** -/
theorem lookup_ofSteps (steps : List (Step P)) (category : Category) (code : UInt8) :
    (ofSteps steps).lookup category code = registered steps category code := by
  cases category with
  | standard => rfl
  | ofClass => exact classes_ofSteps code
  | vendor =>
      dsimp only [registered]
      rw [← vendors_ofSteps, ← fallback_ofSteps]
      unfold lookup
      dsimp only
      cases (ofSteps steps).vendors.get? code <;> rfl
  | reserved => rfl

/-- Every handler of a table is that of a step, for the category and code of the step, if it has them. -/
theorem mem_of_lookup {steps : List (Step P)} {category : Category} {code : UInt8}
    {h : NamedHandler P} (hlookup : (ofSteps steps).lookup category code = some h) :
    ∃ s ∈ steps, s.handler = h ∧ ∀ key, s.key? = some key → key = (category, code) := by
  rw [lookup_ofSteps] at hlookup
  cases category with
  | standard => cases hlookup
  | ofClass =>
      obtain ⟨s, hs, hsay⟩ := exists_mem_of_latest? hlookup
      refine ⟨s, hs, ?_⟩
      cases s with
      | ofClass other name handler =>
          obtain ⟨rfl, hsame⟩ := (Option.ite_none_right_eq_some ..).mp hsay
          exact ⟨Option.some.inj hsame, fun key hkey => (Option.some.inj hkey).symm⟩
      | vendor other name handler => cases hsay
      | fallback handler => cases hsay
  | vendor =>
      rcases Option.or_eq_some_iff.mp hlookup with hlast | ⟨-, hlast⟩
      · obtain ⟨s, hs, hsay⟩ := exists_mem_of_latest? hlast
        refine ⟨s, hs, ?_⟩
        cases s with
        | ofClass other name handler => cases hsay
        | vendor other name handler =>
            obtain ⟨rfl, hsame⟩ := (Option.ite_none_right_eq_some ..).mp hsay
            exact ⟨Option.some.inj hsame, fun key hkey => (Option.some.inj hkey).symm⟩
        | fallback handler => cases hsay
      · obtain ⟨s, hs, hsay⟩ := exists_mem_of_latest? hlast
        refine ⟨s, hs, ?_⟩
        cases s with
        | ofClass other name handler => cases hsay
        | vendor other name handler => cases hsay
        | fallback handler => exact ⟨Option.some.inj hsay, fun _ hkey => by cases hkey⟩
  | reserved => cases hlookup

/-- Only the steps for class requests have a say in class requests. -/
theorem lookup_ofClass_congr {steps others : List (Step P)}
    (h : others.filter Step.isClass = steps.filter Step.isClass) (code : UInt8) :
    (ofSteps others).lookup .ofClass code = (ofSteps steps).lookup .ofClass code := by
  have hclass : ∀ s : Step P, s.isClass = false → s.classHandler? code = none := by
    rintro (_ | _ | _) hs
    · cases hs
    · rfl
    · rfl
  rw [lookup_ofSteps, lookup_ofSteps]
  dsimp only [registered]
  rw [← latest?_filter hclass others, h, latest?_filter hclass steps]

/-- They have no say in vendor requests. -/
theorem lookup_vendor_congr {steps others : List (Step P)}
    (h : others.filter (!·.isClass) = steps.filter (!·.isClass)) (code : UInt8) :
    (ofSteps others).lookup .vendor code = (ofSteps steps).lookup .vendor code := by
  have hvendor : ∀ s : Step P, (!s.isClass) = false → s.vendorHandler? code = none := by
    rintro (_ | _ | _) hs <;> first | rfl | cases hs
  have hfallback : ∀ s : Step P, (!s.isClass) = false → s.fallback? = none := by
    rintro (_ | _ | _) hs <;> first | rfl | cases hs
  rw [lookup_ofSteps, lookup_ofSteps]
  dsimp only [registered]
  rw [← latest?_filter hvendor others, ← latest?_filter hfallback others, h,
    latest?_filter hvendor steps, latest?_filter hfallback steps]

/-! ### The number of handlers -/

/-- What a table has handlers for. -/
def keys (t : HandlerTable P) : List (Category × UInt8) :=
  t.classes.keys.map (Prod.mk .ofClass) ++ t.vendors.keys.map (Prod.mk .vendor)

theorem length_keys (t : HandlerTable P) : t.keys.length = t.size := by
  simp [keys, size, ByteMap.keys, ByteMap.size]

theorem nodup_keys (t : HandlerTable P) : t.keys.Nodup := by
  have hinjective : ∀ category : Category, Function.Injective (Prod.mk category : UInt8 → _) :=
    fun _ _ _ h => (Prod.mk.inj h).2
  refine List.nodup_append.mpr ⟨?_, ?_, ?_⟩
  · exact t.classes.nodup_keys.map (hinjective _)
  · exact t.vendors.nodup_keys.map (hinjective _)
  · rintro k hk k' hk' rfl
    obtain ⟨code, -, rfl⟩ := List.mem_map.mp hk
    obtain ⟨code', -, h⟩ := List.mem_map.mp hk'
    cases h

/-- A table with one more handler inserted has one more key. -/
theorem mem_map_keys_insert (category : Category) (m : ByteMap (NamedHandler P)) (code : UInt8)
    (h : NamedHandler P) (k : Category × UInt8) :
    k ∈ (m.insert code h).keys.map (Prod.mk category) ↔
      (category, code) = k ∨ k ∈ m.keys.map (Prod.mk category) := by
  simp only [List.mem_map, ByteMap.mem_keys_insert, or_and_right, exists_or, exists_eq_left]

theorem mem_keys_add (t : HandlerTable P) (s : Step P) (k : Category × UInt8) :
    k ∈ (t.add s).keys ↔ s.key? = some k ∨ k ∈ t.keys := by
  unfold keys
  rw [List.mem_append, List.mem_append]
  cases s with
  | ofClass code name handler =>
      dsimp only [add, Step.key?]
      rw [mem_map_keys_insert, Option.some_inj, or_assoc]
  | vendor code name handler =>
      dsimp only [add, Step.key?]
      rw [mem_map_keys_insert, Option.some_inj, or_left_comm]
  | fallback handler => simp [add, Step.key?]

theorem mem_keys_ofSteps (steps : List (Step P)) (k : Category × UInt8) :
    k ∈ (ofSteps steps).keys ↔ k ∈ steps.filterMap Step.key? := by
  induction steps using List.reverseRecOn with
  | nil => exact Iff.rfl
  | append_singleton steps s ih =>
      rw [ofSteps_concat, mem_keys_add, ih, List.filterMap_append, List.mem_append, or_comm]
      simp

/-- A table has as many handlers as its steps name different requests. -/
theorem size_ofSteps (steps : List (Step P)) :
    (ofSteps steps).size = (steps.filterMap Step.key?).toFinset.card := by
  have hkeys : (ofSteps steps).keys.toFinset = (steps.filterMap Step.key?).toFinset := by
    ext k
    rw [List.mem_toFinset, List.mem_toFinset, mem_keys_ofSteps]
  rw [← hkeys, List.toFinset_card_of_nodup (nodup_keys _), length_keys]

end HandlerTable

namespace Gadget

open HandlerTable

variable {σ P : Type} [Channel σ] [DeviceProfile P]

/-! ### What a device does with a packet -/

/-- A packet is answered by a handler, and the reply of the handler is carried out. -/
def Runs (g : Gadget σ P) (setup : Setup) (h : NamedHandler P) : Prop :=
  g.does (handleEvent (.control setup)) =
    (g.routed setup h).does (complete setup (h.handler setup g.profile).reply)

/-- A packet is noted and endpoint 0 stalled, and that is all. -/
def TurnsAway (g : Gadget σ P) (setup : Setup) : Prop :=
  g.does (handleEvent (.control setup)) = ((Channel.ep0Stall g.around.channel).1,
    ((g.unrouted setup).noted [.stalling setup]).withChannel (Channel.ep0Stall g.around.channel).2)

/-- A packet is answered by a handler if there is one, and turned away otherwise. -/
def Obeys (g : Gadget σ P) (setup : Setup) : Option (NamedHandler P) → Prop
  | some h => g.Runs setup h
  | none => g.TurnsAway setup

/-- The device with other handlers. -/
def rerouted (g : Gadget σ P) (t : HandlerTable P) : Gadget σ P := { g with handlers := t }

/-- A packet is handled in the same way with any handlers. -/
def Disregards (g : Gadget σ P) (setup : Setup) : Prop :=
  ∀ t, (g.rerouted t).does (handleEvent (.control setup)) =
    ((g.does (handleEvent (.control setup))).1, (g.does (handleEvent (.control setup))).2.rerouted t)

theorem obeys_lookup (g : Gadget σ P) {setup : Setup} (hcategory : setup.category ≠ .standard) :
    g.Obeys setup (g.handlers.lookup setup.category setup.request) := by
  cases hlookup : g.handlers.lookup setup.category setup.request with
  | none =>
      show g.does (handleEvent (.control setup)) = _
      rw [does_handleEvent_control, answering_unrouted hcategory hlookup]
      rfl
  | some h =>
      show g.does (handleEvent (.control setup)) = _
      rw [does_handleEvent_control, answering_routed hcategory hlookup]

/-- What a handler sends as the answer to a packet, its host gets. -/
theorem sends_routed {g : Gadget (Traced σ) P} {setup : Setup} {h : NamedHandler P} {data : Bytes}
    (hcategory : setup.category ≠ .standard)
    (hlookup : g.handlers.lookup setup.category setup.request = some h)
    (hdirection : setup.direction = .toHost) (hreply : (h.handler setup g.profile).reply = .send data) :
    g.Sends setup data := by
  have hanswer := answering_routed hcategory hlookup
  rw [hreply] at hanswer
  exact sends_of_answering hdirection hanswer rfl

/-- Standard requests do not look at the handlers. -/
theorem disregards_standard (g : Gadget σ P) {setup : Setup} (h : setup.category = .standard) :
    g.Disregards setup := by
  intro t
  have hanswer : ∀ g : Gadget σ P, Refits id (fun _ => t) g (answer setup) (answer setup) := by
    intro g
    unfold answer
    rw [h]
    exact Refits.bind rfl fun _ g₁ => refits_standard mirrors_id setup g₁
  have hrefits : Refits id (fun _ => t) g (handleEvent (.control setup))
      (handleEvent (.control setup)) :=
    Refits.bind rfl fun _ g₁ => Refits.bind (hanswer g₁) fun reply g₂ =>
      refits_complete mirrors_id setup reply g₂
  exact hrefits

/-- No table has a handler for a reserved request. -/
theorem disregards_reserved (g : Gadget σ P) {setup : Setup} (h : setup.category = .reserved) :
    g.Disregards setup := by
  intro t
  have hcategory : setup.category ≠ .standard := by
    rw [h]
    exact nofun
  have hnone : ∀ t : HandlerTable P, t.lookup setup.category setup.request = none := by
    rw [h]
    exact fun _ => rfl
  have hobeys := obeys_lookup g hcategory
  have hobeys' := obeys_lookup (g.rerouted t) hcategory
  rw [hnone] at hobeys hobeys'
  unfold Obeys TurnsAway at hobeys hobeys'
  rw [hobeys, hobeys']
  rfl

/-- What the handlers that steps register mean for a device. -/
structure RoutesBy (g : Gadget σ P) (steps : List (Step P)) : Prop where
  /-- A class request runs the handler that was registered last for its code. -/
  ofClass (setup : Setup) : setup.category = .ofClass →
    g.Obeys setup (latest? (Step.classHandler? setup.request) steps)
  /-- A vendor request without a handler of its own runs the fallback that was registered last. -/
  vendor (setup : Setup) : setup.category = .vendor →
    g.Obeys setup
      ((latest? (Step.vendorHandler? setup.request) steps).or (latest? Step.fallback? steps))
  /-- Standard and reserved requests run no handler, whatever was registered. -/
  others (setup : Setup) : setup.category = .standard ∨ setup.category = .reserved →
    g.Disregards setup
  /-- A request without a handler leaves the device class alone. -/
  spared (setup : Setup) : setup.category ≠ .standard →
    registered steps setup.category setup.request = none →
    (g.does (handleEvent (.control setup))).2.profile = g.profile
  /-- What is registered for vendors has no say in class requests. -/
  classAlone {others : List (Step P)} :
    others.filter Step.isClass = steps.filter Step.isClass →
    ∀ code, (ofSteps others).lookup .ofClass code = g.handlers.lookup .ofClass code
  /-- What is registered for the class has no say in vendor requests. -/
  vendorAlone {others : List (Step P)} :
    others.filter (!·.isClass) = steps.filter (!·.isClass) →
    ∀ code, (ofSteps others).lookup .vendor code = g.handlers.lookup .vendor code
  /-- Handlers that were registered again are counted once, and fallbacks not at all. -/
  size : g.handlers.size = (steps.filterMap Step.key?).toFinset.card

theorem routesBy_of_ofSteps {g : Gadget σ P} {steps : List (Step P)}
    (h : g.handlers = ofSteps steps) : g.RoutesBy steps := by
  have hobeys : ∀ setup : Setup, setup.category ≠ .standard →
      g.Obeys setup (registered steps setup.category setup.request) := by
    intro setup hcategory
    have hlookup := obeys_lookup g hcategory
    rw [h, lookup_ofSteps] at hlookup
    exact hlookup
  refine ⟨?ofClass, ?vendor, ?others, ?spared, ?classAlone, ?vendorAlone, ?size⟩
  case ofClass =>
    intro setup hcategory
    have hclass := hobeys setup (by simp [hcategory])
    rw [hcategory] at hclass
    exact hclass
  case vendor =>
    intro setup hcategory
    have hvendor := hobeys setup (by simp [hcategory])
    rw [hcategory] at hvendor
    exact hvendor
  case others =>
    rintro setup (hstandard | hreserved)
    · exact disregards_standard g hstandard
    · exact disregards_reserved g hreserved
  case spared =>
    intro setup hcategory hnone
    have hlookup : g.handlers.lookup setup.category setup.request = none := by
      rw [h, lookup_ofSteps, hnone]
    exact (inherits_unrouted hcategory hlookup).profile.symm
  case classAlone =>
    intro others hothers code
    rw [h, lookup_ofClass_congr hothers]
  case vendorAlone =>
    intro others hothers code
    rw [h, lookup_vendor_congr hothers]
  case size => rw [h, size_ofSteps]

/-- **Requests go to the handlers that were registered.** -/
theorem routes_as_registered (channel : σ) (depot : Depot) (profile : P) (settings : Settings)
    {steps : List (Step P)} (h : DeviceProfile.handlers profile = ofSteps steps)
    (ms : List (Move σ P)) :
    ((new channel depot profile settings).after ms).RoutesBy steps :=
  routesBy_of_ofSteps (((new channel depot profile settings).handlers_after ms).trans h)

/-- A device that declares a class request and, twice, a vendor request of the same code, and answers
every other vendor request. -/
def overridden : DeclaredDevice where
  catalog := .empty
  configurations := []
  endpoints := .empty
  requests := [(.vendor, 1, "early", .ack), (.ofClass, 1, "class", .send [1]),
    (.vendor, 1, "late", .send [2])]
  fallback := some .auto

/-- The steps that register its handlers. -/
def overriddenSteps : List (Step DeclaredDevice) :=
  [.vendor 1 "early" (DeclaredDevice.handler .ack),
    .ofClass 1 "class" (DeclaredDevice.handler (.send [1])),
    .vendor 1 "late" (DeclaredDevice.handler (.send [2])),
    .fallback (DeclaredDevice.handler .auto)]

/-- The packet that asks the device for something by a code. -/
def asking (category : RequestType.Change) (code : UInt8) : Setup :=
  ⟨RequestType.toHost.apply category, code, 0, 0, 8⟩

/-- The later handler of the vendor request runs, and that of the class request beside it. -/
theorem overridden_routes :
    let g := (new Bus.idle {} overridden .standard).after [.start, .event .reset]
    g.handlers.size = 2 ∧
      g.Runs (asking .vendor 1) ⟨"late", DeclaredDevice.handler (.send [2])⟩ ∧
      g.Runs (asking .vendor 9) ⟨"vendor", DeclaredDevice.handler .auto⟩ ∧
      g.Runs (asking .ofClass 1) ⟨"class", DeclaredDevice.handler (.send [1])⟩ ∧
      g.TurnsAway (asking .ofClass 9) := by
  intro g
  have hsteps : DeviceProfile.handlers overridden = ofSteps overriddenSteps := rfl
  have hroutes : g.RoutesBy overriddenSteps :=
    routes_as_registered Bus.idle {} overridden .standard hsteps [.start, .event .reset]
  exact ⟨hroutes.size.trans (by decide), hroutes.vendor (asking .vendor 1) rfl,
    hroutes.vendor (asking .vendor 9) rfl, hroutes.ofClass (asking .ofClass 1) rfl,
    hroutes.ofClass (asking .ofClass 9) rfl⟩

end Gadget

end UsbPeripheral
