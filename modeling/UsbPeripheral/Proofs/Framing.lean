import UsbPeripheral.Descriptor.Text
import UsbPeripheral.Proofs.Configurations

/-! # Frames of string descriptors

What a host relies on in a string descriptor (`Descriptor.StringFrame`): its length is even and has
room in the first byte, which tells it, the second byte is the kind, and the rest is read unit by unit.

Texts of every length and tables of any number of languages are framed so
(`Descriptor.framed_at_every_length`).  A frame leaves no byte of its descriptor open: a host that
finds one around some units has been sent their descriptor and nothing else. -/

namespace UsbPeripheral.Descriptor

/-- A descriptor that frames as many of some units as it has room for, from the front. -/
structure StringFrame (units : List UInt16) (descriptor : Bytes) : Prop where
  even : 2 ∣ descriptor.length
  atLeast : 2 ≤ descriptor.length
  atMost : descriptor.length ≤ 254
  /-- The first byte is the length. -/
  framed : Framed descriptor
  kind : descriptor[1]? = some Kind.string
  body : unitsOf (descriptor.drop 2) = units.take (min maxUnits units.length)

/-! ### Descriptors have frames -/

theorem length_ofUnits (units : List UInt16) :
    (ofUnits units).length = 2 + 2 * min maxUnits units.length := by
  rw [ofUnits_eq, List.length_cons, List.length_cons, length_flatMap_ofWord16, List.length_take]
  omega

theorem framed_ofUnits (units : List UInt16) : Framed (ofUnits units) := by
  rw [ofUnits_eq, Framed, List.head?_cons, Option.map_some, toNat_lengthByte, List.length_cons,
    List.length_cons, Nat.add_comm]

theorem unitsOf_ofUnits (units : List UInt16) :
    unitsOf ((ofUnits units).drop 2) = units.take (min maxUnits units.length) := by
  rw [drop_ofUnits, unitsOf_flatMap, List.take_eq_take_min]

theorem stringFrame_ofUnits (units : List UInt16) : StringFrame units (ofUnits units) := by
  have hlength := length_ofUnits units
  have hroom : min maxUnits units.length ≤ 126 := Nat.min_le_left _ _
  refine ⟨?even, ?atLeast, ?atMost, framed_ofUnits units, ?kind, unitsOf_ofUnits units⟩
  case even => omega
  case atLeast => omega
  case atMost => omega
  case kind =>
    rw [ofUnits_eq]
    rfl

/-! ### Frames have one descriptor -/

/-- Whole words are written as they were read. -/
theorem flatMap_unitsOf {body : Bytes} (h : 2 ∣ body.length) :
    (unitsOf body).flatMap Bytes.ofWord16 = body := by
  fun_induction unitsOf body with
  | case1 lo hi rest ih =>
    have hrest : 2 ∣ rest.length := by
      rw [List.length_cons, List.length_cons] at h
      omega
    rw [List.flatMap_cons, Bytes.ofWord16_word16, ih hrest]
    rfl
  | case2 body hshort =>
    match body, hshort with
    | [], _ => rfl
    | [_], _ =>
      rw [List.length_singleton] at h
      omega
    | lo :: hi :: rest, hshort => exact (hshort lo hi rest rfl).elim

theorem StringFrame.eq_ofUnits {units : List UInt16} {descriptor : Bytes}
    (h : StringFrame units descriptor) : descriptor = ofUnits units := by
  obtain ⟨heven, hatLeast, -, hframed, hkind, hbody⟩ := h
  -- Two bytes are the least there is, and then every one is told: the first by the length of the
  -- whole, the second by the kind, and the others by the units they are read as.
  match descriptor with
  | length :: kind :: rest =>
    obtain rfl : kind = Kind.string := Option.some.inj hkind
    have hrest : (units.take maxUnits).flatMap Bytes.ofWord16 = rest := by
      rw [List.take_eq_take_min, ← hbody]
      refine flatMap_unitsOf ?_
      rw [List.length_cons, List.length_cons] at heven
      exact (Nat.dvd_add_left (Nat.dvd_refl 2)).mp heven
    have hlength : length.toNat = 2 + rest.length := by
      have hwhole : length.toNat = (length :: Kind.string :: rest).length := Option.some.inj hframed
      rw [List.length_cons, List.length_cons] at hwhole
      omega
    rw [ofUnits_eq, hrest, ← hlength, UInt8.ofNat_toNat]
  | [_] =>
    rw [List.length_singleton] at hatLeast
    omega
  | [] =>
    rw [List.length_nil] at hatLeast
    omega

/-- **String descriptors are framed**, those of texts of every length as well as those of tables of any
number of languages, and a frame belongs to one descriptor only. -/
theorem framed_at_every_length (text : String) (languages : List UInt16) :
    StringFrame (Utf16.encode text.toList) (ofText text) ∧
      StringFrame languages (ofLanguages languages) ∧
      ∀ units descriptor, StringFrame units descriptor → descriptor = ofUnits units :=
  ⟨stringFrame_ofUnits _, stringFrame_ofUnits languages, fun _ _ h => h.eq_ofUnits⟩

example : ofLanguages [americanEnglish] = [4, 3, 0x09, 0x04] := by decide

end UsbPeripheral.Descriptor
