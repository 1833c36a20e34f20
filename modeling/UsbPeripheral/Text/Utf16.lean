/-!
# UTF-16

Descriptors hold text in units of sixteen bits.  A character below `0x10000` is one unit, any other
a **surrogate pair**: a high unit (`0xd800` to `0xdbff`) followed by a low one (`0xdc00` to
`0xdfff`).  Reading units back fails on a surrogate that stands alone, and undoes writing
(`decode_encode`).
-/

namespace UsbPeripheral.Utf16

/-- The units of a character. -/
def units (c : Char) : List UInt16 :=
  if c.toNat < 0x10000 then [UInt16.ofNat c.toNat]
  else
    [UInt16.ofNat (0xd800 + (c.toNat - 0x10000) / 0x400),
      UInt16.ofNat (0xdc00 + (c.toNat - 0x10000) % 0x400)]

/-- The units of a text. -/
def encode (cs : List Char) : List UInt16 := cs.flatMap units

/-- Whether a unit opens a surrogate pair. -/
def isHigh (u : UInt16) : Bool := 0xd800 ≤ u.toNat && u.toNat < 0xdc00

/-- Whether a unit closes a surrogate pair. -/
def isLow (u : UInt16) : Bool := 0xdc00 ≤ u.toNat && u.toNat < 0xe000

/-- The text behind units, if every surrogate has its partner. -/
def decode : List UInt16 → Option (List Char)
  | [] => some []
  | u :: rest =>
    if isHigh u then
      match rest with
      | [] => none
      | v :: rest' =>
        if isLow v then
          (decode rest').map
            (Char.ofNat (0x10000 + (u.toNat - 0xd800) * 0x400 + (v.toNat - 0xdc00)) :: ·)
        else none
    else if isLow u then none
    else (decode rest).map (Char.ofNat u.toNat :: ·)

/-! ### Reading undoes writing -/

/-- No character is a surrogate. -/
theorem not_surrogate (c : Char) : c.toNat < 0xd800 ∨ 0xdfff < c.toNat ∧ c.toNat < 0x110000 := by
  have h := c.valid
  simpa [UInt32.isValidChar, Nat.isValidChar] using h

theorem decode_unit {c : Char} (h : c.toNat < 0x10000) (rest : List UInt16) :
    decode (UInt16.ofNat c.toNat :: rest) = (decode rest).map (c :: ·) := by
  have hn : (UInt16.ofNat c.toNat).toNat = c.toNat := by simp; omega
  have hs := not_surrogate c
  have hh : isHigh (UInt16.ofNat c.toNat) = false := by simp [isHigh, hn]; omega
  have hl : isLow (UInt16.ofNat c.toNat) = false := by simp [isLow, hn]; omega
  rw [decode.eq_def]
  simp [hh, hl, hn]

/-- The unit that opens the pair of a character. -/
theorem toNat_first (c : Char) : (UInt16.ofNat (0xd800 + (c.toNat - 0x10000) / 0x400)).toNat =
    0xd800 + (c.toNat - 0x10000) / 0x400 := by
  have hs := not_surrogate c
  simp
  omega

theorem isHigh_first (c : Char) :
    isHigh (UInt16.ofNat (0xd800 + (c.toNat - 0x10000) / 0x400)) = true := by
  have hs := not_surrogate c
  simp only [isHigh, toNat_first, Bool.and_eq_true, decide_eq_true_eq]
  omega

theorem decode_pair {c : Char} (h : 0x10000 ≤ c.toNat) (rest : List UInt16) :
    decode (UInt16.ofNat (0xd800 + (c.toNat - 0x10000) / 0x400) ::
      UInt16.ofNat (0xdc00 + (c.toNat - 0x10000) % 0x400) :: rest) =
        (decode rest).map (c :: ·) := by
  have hs := not_surrogate c
  have hv : (UInt16.ofNat (0xdc00 + (c.toNat - 0x10000) % 0x400)).toNat =
      0xdc00 + (c.toNat - 0x10000) % 0x400 := by simp; omega
  have hl : isLow (UInt16.ofNat (0xdc00 + (c.toNat - 0x10000) % 0x400)) = true := by
    simp only [isLow, hv, Bool.and_eq_true, decide_eq_true_eq]
    omega
  have hc : 0x10000 + (0xd800 + (c.toNat - 0x10000) / 0x400 - 0xd800) * 0x400 +
      (0xdc00 + (c.toNat - 0x10000) % 0x400 - 0xdc00) = c.toNat := by omega
  rw [decode]
  simp only [isHigh_first, hl, if_true, toNat_first, hv, hc, Char.ofNat_toNat]

theorem decode_append_units (c : Char) (rest : List UInt16) :
    decode (units c ++ rest) = (decode rest).map (c :: ·) := by
  unfold units
  split
  · rename_i h
    exact decode_unit h rest
  · rename_i h
    exact decode_pair (Nat.le_of_not_lt h) rest

theorem decode_encode (cs : List Char) : decode (encode cs) = some cs := by
  induction cs with
  | nil => rfl
  | cons c cs ih =>
    show decode (units c ++ encode cs) = some (c :: cs)
    rw [decode_append_units, ih]
    rfl

end UsbPeripheral.Utf16
