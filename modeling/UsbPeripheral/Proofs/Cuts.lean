import UsbPeripheral.Descriptor.Text

/-! # Texts that do not fit

A string descriptor that is too short for its text holds the front of it, cut after a number of units
and not after a number of characters.  A character **straddles** the cut (`Utf16.Straddles`) if some of
its units have room and some have not.  Then the descriptor ends in a surrogate that stands alone, and
nothing can be read from it; any other descriptor holds whole characters from the front of its text
(`Descriptor.holdsFront_iff`). -/

namespace UsbPeripheral

namespace Utf16

/-- Some character begins before the cut and ends after it. -/
def Straddles (room : Nat) (cs : List Char) : Prop :=
  ∃ front c rest, cs = front ++ c :: rest ∧
    (encode front).length < room ∧ room < (encode (front ++ [c])).length

theorem encode_cons (c : Char) (cs : List Char) : encode (c :: cs) = units c ++ encode cs :=
  List.flatMap_cons

theorem encode_append (cs ds : List Char) : encode (cs ++ ds) = encode cs ++ encode ds :=
  List.flatMap_append

theorem length_encode_replicate (n : Nat) (c : Char) :
    (encode (List.replicate n c)).length = n * (units c).length := by
  rw [encode, List.length_flatMap, List.map_replicate, List.sum_replicate_nat]

theorem length_encode_cons (c : Char) (cs : List Char) :
    (encode (c :: cs)).length = (units c).length + (encode cs).length := by
  rw [encode_cons, List.length_append]

/-- The unit that opens a pair is never read on its own. -/
theorem decode_high {u : UInt16} (h : isHigh u = true) : decode [u] = none := by
  rw [decode, if_pos h]

/-- A character that is cut in the middle leaves the unit that opens a pair. -/
theorem take_units {c : Char} {room : Nat} (hpos : 0 < room) (hcut : room < (units c).length) :
    ∃ u, isHigh u = true ∧ (units c).take room = [u] := by
  unfold units at hcut ⊢
  split at hcut
  · exact absurd hcut (Nat.not_lt_of_le hpos)
  · rename_i h
    have hroom : room = 1 := Nat.le_antisymm (Nat.le_of_lt_succ hcut) hpos
    exact ⟨_, isHigh_first c, by rw [if_neg h, hroom]; rfl⟩

theorem decode_encode_append (cs : List Char) (rest : List UInt16) :
    decode (encode cs ++ rest) = (decode rest).map (cs ++ ·) := by
  induction cs with
  | nil => exact Option.map_id'.symm
  | cons c cs ih =>
    rw [encode_cons, List.append_assoc, decode_append_units, ih, Option.map_map]
    rfl

/-- Nothing can be read from a text that is cut inside a character. -/
theorem decode_take_of_straddles {room : Nat} {cs : List Char} (h : Straddles room cs) :
    decode ((encode cs).take room) = none := by
  obtain ⟨front, c, rest, rfl, hbefore, hafter⟩ := h
  rw [encode_append, List.length_append, encode_cons, List.length_append] at hafter
  have hcut : room - (encode front).length < (units c).length := by
    simp only [encode, List.flatMap_nil, List.length_nil] at hafter hbefore ⊢
    omega
  obtain ⟨u, hu, hunits⟩ := take_units (Nat.sub_pos_of_lt hbefore) hcut
  rw [encode_append, encode_cons, List.take_append, List.take_of_length_le (Nat.le_of_lt hbefore),
    List.take_append_of_le_length (Nat.le_of_lt hcut), hunits, decode_encode_append, decode_high hu]
  rfl

/-- A cut is made between two characters, or it is made inside one. -/
theorem straddles_or_front (room : Nat) (cs : List Char) :
    Straddles room cs ∨ ∃ front, front <+: cs ∧ (encode cs).take room = encode front := by
  induction cs generalizing room with
  | nil => exact .inr ⟨[], List.nil_prefix, List.take_nil⟩
  | cons c cs ih =>
    by_cases hfits : (units c).length ≤ room
    · rcases ih (room - (units c).length) with
        ⟨front, d, rest, rfl, hbefore, hafter⟩ | ⟨front, hfront, htake⟩
      · refine .inl ⟨c :: front, d, rest, rfl, ?_, ?_⟩
        · rw [length_encode_cons]
          omega
        · rw [List.cons_append, length_encode_cons]
          omega
      · refine .inr ⟨c :: front, List.cons_prefix_cons.mpr ⟨rfl, hfront⟩, ?_⟩
        rw [encode_cons, encode_cons, List.take_append, List.take_of_length_le hfits, htake]
    · cases room with
      | zero => exact .inr ⟨[], List.nil_prefix, List.take_zero⟩
      | succ room =>
        refine .inl ⟨[], c, cs, rfl, Nat.succ_pos room, ?_⟩
        rw [List.nil_append, length_encode_cons]
        exact Nat.lt_add_right _ (Nat.lt_of_not_le hfits)

end Utf16

namespace Descriptor

open Utf16 (encode Straddles)

/-- The text that stands in a descriptor's body, if the body is UTF-16 in little-endian words. -/
def textOf (body : Bytes) : Option (List Char) :=
  if body.length % 2 = 0 then Utf16.decode (unitsOf body) else none

/-- A body holds whole characters from the front of a text, and the whole text if there is room. -/
def HoldsFront (text : String) (body : Bytes) : Prop :=
  ∃ front, textOf body = some front ∧ front <+: text.toList ∧
    ((encode text.toList).length ≤ maxUnits → front = text.toList)

theorem textOf_ofText (text : String) :
    textOf ((ofText text).drop 2) = Utf16.decode ((encode text.toList).take maxUnits) := by
  rw [ofText, drop_ofUnits, textOf, unitsOf_flatMap, length_flatMap_ofWord16,
    if_pos (Nat.mul_mod_right 2 _)]

theorem not_holdsFront_of_straddles {text : String} (h : Straddles maxUnits text.toList) :
    ¬ HoldsFront text ((ofText text).drop 2) := by
  rintro ⟨front, htext, -, -⟩
  rw [textOf_ofText, Utf16.decode_take_of_straddles h] at htext
  cases htext

/-- **A string descriptor holds whole characters from the front of its text**, and the whole text if
there is room, exactly if no character straddles the place where the text is cut. -/
theorem holdsFront_iff (text : String) :
    HoldsFront text ((ofText text).drop 2) ↔ ¬ Straddles maxUnits text.toList := by
  constructor
  · exact fun h hstraddles => not_holdsFront_of_straddles hstraddles h
  · intro h
    obtain ⟨front, hfront, htake⟩ := (Utf16.straddles_or_front maxUnits text.toList).resolve_left h
    have htext : textOf ((ofText text).drop 2) = some front := by
      rw [textOf_ofText, htake, Utf16.decode_encode]
    refine ⟨front, htext, hfront, fun hroom => ?_⟩
    rw [textOf_ofText, List.take_of_length_le hroom, Utf16.decode_encode] at htext
    exact (Option.some.inj htext).symm

/-- Text with room for its last character up to the middle of it. -/
def splitText : String := String.ofList (List.replicate 125 'a' ++ ['😀'])

theorem straddles_splitText : Straddles maxUnits splitText.toList := by
  refine ⟨List.replicate 125 'a', '😀', [], String.toList_ofList, ?_, ?_⟩
  · rw [Utf16.length_encode_replicate]
    decide
  · rw [Utf16.encode_append, List.length_append, Utf16.length_encode_replicate]
    decide

/-- Not every string descriptor holds whole characters. -/
theorem not_forall_holdsFront : ¬ ∀ text, HoldsFront text ((ofText text).drop 2) :=
  fun h => not_holdsFront_of_straddles straddles_splitText (h splitText)

end Descriptor

end UsbPeripheral
