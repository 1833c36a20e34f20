/-!
# Bytes: payloads and little-endian words

Everything that crosses the bus or the kernel boundary is a list of bytes.  This module holds the
few operations that every layer shares:

* **words**: the little-endian forms of 16-bit and 32-bit words, with their readers;
* **buffers**: a buffer of a fixed size is a list that is cut or filled up with zeros (`fitted`),
  and a transfer covers the front of it (`overlay`).
-/

namespace UsbPeripheral

/-- A payload, in transmission order. -/
abbrev Bytes := List UInt8

namespace Bytes

/-! ### Words -/

/-- The low byte of a 16-bit word. -/
def low (w : UInt16) : UInt8 := UInt8.ofNat w.toNat

/-- The high byte of a 16-bit word. -/
def high (w : UInt16) : UInt8 := UInt8.ofNat (w.toNat / 256)

/-- The two bytes of a 16-bit word, low byte first. -/
def ofWord16 (w : UInt16) : Bytes := [low w, high w]

/-- The 16-bit word with low byte `lo` and high byte `hi`. -/
def word16 (lo hi : UInt8) : UInt16 := UInt16.ofNat (lo.toNat + 256 * hi.toNat)

theorem word16_low_high (w : UInt16) : word16 (low w) (high w) = w := by
  apply UInt16.toNat_inj.mp
  have := w.toNat_lt
  simp [word16, low, high]
  omega

theorem low_word16 (lo hi : UInt8) : low (word16 lo hi) = lo := by
  apply UInt8.toNat_inj.mp
  simp [word16, low]

theorem high_word16 (lo hi : UInt8) : high (word16 lo hi) = hi := by
  have hl := lo.toNat_lt
  have hh := hi.toNat_lt
  apply UInt8.toNat_inj.mp
  simp [word16, high]
  omega

theorem ofWord16_word16 (lo hi : UInt8) : ofWord16 (word16 lo hi) = [lo, hi] := by
  simp [ofWord16, low_word16, high_word16]

/-- Byte number `i` of a 32-bit word, counted from the low end. -/
def octet (w : UInt32) (i : Nat) : UInt8 := UInt8.ofNat (w.toNat >>> (8 * i))

/-- The four bytes of a 32-bit word, low byte first. -/
def ofWord32 (w : UInt32) : Bytes := [octet w 0, octet w 1, octet w 2, octet w 3]

/-- The 32-bit word with the bytes `a`, `b`, `c`, `d`, low byte first. -/
def word32 (a b c d : UInt8) : UInt32 :=
  UInt32.ofNat (a.toNat + 256 * b.toNat + 65536 * c.toNat + 16777216 * d.toNat)

theorem word32_octets (w : UInt32) :
    word32 (octet w 0) (octet w 1) (octet w 2) (octet w 3) = w := by
  apply UInt32.toNat_inj.mp
  have := w.toNat_lt
  simp [word32, octet, Nat.shiftRight_eq_div_pow]
  omega

theorem ofWord32_word32 (a b c d : UInt8) : ofWord32 (word32 a b c d) = [a, b, c, d] := by
  have ha := a.toNat_lt
  have hb := b.toNat_lt
  have hc := c.toNat_lt
  have hd := d.toNat_lt
  simp only [ofWord32, octet, word32, List.cons.injEq, and_true]
  refine ⟨?_, ?_, ?_, ?_⟩ <;> apply UInt8.toNat_inj.mp <;> simp <;> omega

theorem length_ofWord16 (w : UInt16) : (ofWord16 w).length = 2 := rfl

theorem length_ofWord32 (w : UInt32) : (ofWord32 w).length = 4 := rfl

/-! ### Buffers -/

/-- `n` zero bytes. -/
def zeros (n : Nat) : Bytes := List.replicate n 0

/-- The first `n` bytes of `data`, filled up with zeros where `data` is shorter. -/
def fitted (n : Nat) (data : Bytes) : Bytes := data.take n ++ zeros (n - data.length)

/-- The buffer `buffer` after `data` was written to its front. -/
def overlay (data buffer : Bytes) : Bytes := data ++ buffer.drop data.length

theorem length_fitted (n : Nat) (data : Bytes) : (fitted n data).length = n := by
  simp [fitted, zeros]
  omega

theorem length_overlay {data buffer : Bytes} (h : data.length ≤ buffer.length) :
    (overlay data buffer).length = buffer.length := by
  simp [overlay]
  omega

end Bytes

end UsbPeripheral
