/-!
# Hex: fixed-width hexadecimal text

Codes, addresses and request numbers are written in lower-case hexadecimal with a fixed number of
digits, `padded 2 10 = "0a"`.
-/

namespace UsbPeripheral.Hex

/-- The digit of a value below sixteen. -/
def digit (n : Nat) : Char :=
  if n < 10 then Char.ofNat (48 + n) else Char.ofNat (87 + n)

/-- The `width` low digits of `value`, most significant first. -/
def digits : (width : Nat) → (value : Nat) → List Char
  | 0, _ => []
  | width + 1, value => digits width (value / 16) ++ [digit (value % 16)]

/-- The `width` low digits of `value` as text. -/
def padded (width value : Nat) : String := String.ofList (digits width value)

theorem length_digits (width value : Nat) : (digits width value).length = width := by
  induction width generalizing value with
  | zero => rfl
  | succ width ih => simp [digits, ih]

/-- A byte as two digits. -/
def byte (b : UInt8) : String := padded 2 b.toNat

/-- A 16-bit word as four digits. -/
def word (w : UInt16) : String := padded 4 w.toNat

/-- The digits of a value without leading zeros, `0` for zero. -/
def shortest (value : Nat) : String :=
  match (digits 16 value).dropWhile (· == '0') with
  | [] => "0"
  | ds => String.ofList ds

end UsbPeripheral.Hex
