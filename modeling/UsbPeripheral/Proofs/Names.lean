import UsbPeripheral.Kernel.Record
import UsbPeripheral.Text.Utf16

/-! # Names in fields

A name crosses the kernel boundary as UTF-8 in a field of a fixed size, with zeros behind it.  UTF-8 is read
back as the text that was written (`Utf8.decode_encode`), and has a zero byte only where the text has the
character of number zero (`Utf8.zero_mem_encode_iff`).

A name **fits** a number of bytes if it has no more bytes and no such character
(`Kernel.FitsName`).  What stands in a field before the first zero is then the name
(`Kernel.FitsName.nameBytes_fitted`), also where it fills the whole field and there is no zero. -/

namespace UsbPeripheral

namespace Utf8

/-! ### Reading undoes writing -/

theorem decodeFrom_cons (s : State) (b : UInt8) (rest : Bytes) :
    decodeFrom s (b :: rest) = (step s b).1 ++ decodeFrom (step s b).2 rest := by
  cases s <;> rfl

/-- A byte that begins a character puts nothing out. -/
theorem decodeFrom_lead {b : UInt8} {s : State} (h : start b = ([], s)) (rest : Bytes) :
    decodeFrom .ready (b :: rest) = decodeFrom s rest := by
  rw [decodeFrom_cons, step, h, List.nil_append]

section tail

variable {value left lo hi low : Nat} (hlow : low < 64) (hlo : lo ≤ low + 128) (hhi : low + 128 ≤ hi)
include hlow hlo hhi

/-- A byte inside a character adds six bits to it. -/
theorem step_owing :
    step (.owing value left lo hi) (UInt8.ofNat (low + 128)) =
      if left ≤ 1 then ([Char.ofNat (value * 64 + low)], .ready)
      else ([], .owing (value * 64 + low) (left - 1) 0x80 0xbf) := by
  have hbyte : (UInt8.ofNat (low + 128)).toNat = low + 128 := by
    rw [UInt8.toNat_ofNat']
    omega
  have hbits : (low + 128) % 64 = low := by omega
  simp only [step, hbyte, hbits, hlo, hhi, and_self, if_true]

theorem decodeFrom_inner (rest : Bytes) :
    decodeFrom (.owing value (left + 2) lo hi) (UInt8.ofNat (low + 128) :: rest) =
      decodeFrom (.owing (value * 64 + low) (left + 1) 0x80 0xbf) rest := by
  rw [decodeFrom_cons, step_owing hlow hlo hhi, if_neg (by omega), List.nil_append]
  rfl

theorem decodeFrom_last (rest : Bytes) :
    decodeFrom (.owing value 1 lo hi) (UInt8.ofNat (low + 128) :: rest) =
      Char.ofNat (value * 64 + low) :: decodeFrom .ready rest := by
  rw [decodeFrom_cons, step_owing hlow hlo hhi, if_pos (Nat.le_refl 1), List.singleton_append]

end tail

/-- A byte that is a character. -/
theorem decodeFrom_one {n : Nat} (h : n < 128) (rest : Bytes) :
    decodeFrom .ready (UInt8.ofNat n :: rest) = Char.ofNat n :: decodeFrom .ready rest := by
  have hbyte : (UInt8.ofNat n).toNat = n := by
    rw [UInt8.toNat_ofNat']
    omega
  have hstart : start (UInt8.ofNat n) = ([Char.ofNat n], .ready) := by
    simp only [start, hbyte]
    exact if_pos h
  rw [decodeFrom_cons, step, hstart, List.singleton_append]

/-- The first of two bytes. -/
theorem start_two : ∀ n : Fin 32, 2 ≤ n.val →
    start (UInt8.ofNat (n + 192)) = ([], .owing n 1 0x80 0xbf) := by
  decide

/-- The first of three bytes; the range of the second one rules out overlong forms and surrogates. -/
theorem start_three : ∀ n : Fin 16, start (UInt8.ofNat (n + 224)) =
    ([], .owing n 2 (if n.val = 0 then 0xa0 else 0x80) (if n.val = 13 then 0x9f else 0xbf)) := by
  decide

/-- The first of four bytes; the range of the second one rules out overlong forms and values past the last
code point. -/
theorem start_four : ∀ n : Fin 5, start (UInt8.ofNat (n + 240)) =
    ([], .owing n 3 (if n.val = 0 then 0x90 else 0x80) (if n.val = 4 then 0x8f else 0xbf)) := by
  decide

/-- A character is read from its bytes, whatever follows. -/
theorem decodeFrom_encodeChar (c : Char) (rest : Bytes) :
    decodeFrom .ready (String.utf8EncodeChar c ++ rest) = c :: decodeFrom .ready rest := by
  have hvalid : c.val.toNat < 0xd800 ∨ 0xdfff < c.val.toNat ∧ c.val.toNat < 0x110000 :=
    Utf16.not_surrogate c
  have hc : Char.ofNat c.val.toNat = c := Char.ofNat_toNat c
  unfold String.utf8EncodeChar
  dsimp only
  generalize c.val.toNat = v at hvalid hc
  subst hc
  -- The bytes of a character carry its number in groups of six bits, the high ones first.
  by_cases h1 : v ≤ 127
  · rw [if_pos h1]
    exact decodeFrom_one (Nat.lt_succ_of_le h1) rest
  rw [if_neg h1]
  by_cases h2 : v ≤ 2047
  · have hlead := start_two ⟨v / 64 % 32, by omega⟩ (by show 2 ≤ v / 64 % 32; omega)
    have hvalue : v / 64 % 32 * 64 + v % 64 = v := by omega
    rw [if_pos h2]
    refine (decodeFrom_lead hlead _).trans ?_
    refine (decodeFrom_last (by omega) (by omega) (by omega) rest).trans ?_
    rw [hvalue]
  rw [if_neg h2]
  by_cases h3 : v ≤ 65535
  · have hlead := start_three ⟨v / 4096 % 16, by omega⟩
    have hlo : (if v / 4096 % 16 = 0 then 0xa0 else 0x80) ≤ v / 64 % 64 + 128 := by split <;> omega
    have hhi : v / 64 % 64 + 128 ≤ if v / 4096 % 16 = 13 then 0x9f else 0xbf := by split <;> omega
    have hvalue : (v / 4096 % 16 * 64 + v / 64 % 64) * 64 + v % 64 = v := by omega
    rw [if_pos h3]
    refine (decodeFrom_lead hlead _).trans ?_
    refine (decodeFrom_inner (by omega) hlo hhi _).trans ?_
    refine (decodeFrom_last (by omega) (by omega) (by omega) rest).trans ?_
    rw [hvalue]
  · have hlead := start_four ⟨v / 262144 % 8, by omega⟩
    have hlo : (if v / 262144 % 8 = 0 then 0x90 else 0x80) ≤ v / 4096 % 64 + 128 := by
      split <;> omega
    have hhi : v / 4096 % 64 + 128 ≤ if v / 262144 % 8 = 4 then 0x8f else 0xbf := by split <;> omega
    have hvalue :
        ((v / 262144 % 8 * 64 + v / 4096 % 64) * 64 + v / 64 % 64) * 64 + v % 64 = v := by omega
    rw [if_neg h3]
    refine (decodeFrom_lead hlead _).trans ?_
    refine (decodeFrom_inner (by omega) hlo hhi _).trans ?_
    refine (decodeFrom_inner (by omega) (by omega) (by omega) _).trans ?_
    refine (decodeFrom_last (by omega) (by omega) (by omega) rest).trans ?_
    rw [hvalue]

theorem decodeFrom_flatMap (chars : List Char) :
    decodeFrom .ready (chars.flatMap String.utf8EncodeChar) = chars := by
  induction chars with
  | nil => rfl
  | cons c chars ih => rw [List.flatMap_cons, decodeFrom_encodeChar, ih]

theorem decode_encode (s : String) : decode (encode s) = s := by
  unfold decode encode
  rw [decodeFrom_flatMap, String.ofList_toList]

/-! ### Sizes and zeros -/

theorem length_encode (s : String) : (encode s).length = s.utf8ByteSize := by
  have hbytes : s.toByteArray = (encode s).toByteArray := by
    conv => lhs; rw [← String.ofList_toList (s := s)]
    rw [String.toByteArray_ofList]
    rfl
  show _ = s.toByteArray.size
  rw [hbytes]
  exact List.size_toByteArray.symm

/-- The bytes of a character have no zero among them, but for the character of number zero. -/
theorem zero_mem_encodeChar_iff (c : Char) : 0 ∈ String.utf8EncodeChar c ↔ c = '\x00' := by
  have hc : c = '\x00' ↔ c.val.toNat = 0 := by
    rw [Char.ext_iff, ← UInt32.toNat_inj]
    rfl
  have hzero : ∀ n, (0 : UInt8) = UInt8.ofNat n ↔ n % 256 = 0 := by
    intro n
    rw [← UInt8.toNat_inj, UInt8.toNat_ofNat', eq_comm]
    rfl
  rw [hc]
  unfold String.utf8EncodeChar
  dsimp only
  generalize c.val.toNat = v
  repeat' split
  all_goals
    simp only [List.mem_cons, List.not_mem_nil, or_false, hzero]
    omega

theorem zero_mem_encode_iff (s : String) : 0 ∈ encode s ↔ '\x00' ∈ s.toList := by
  unfold encode
  simp only [List.mem_flatMap, zero_mem_encodeChar_iff, exists_eq_right]

end Utf8

namespace Kernel

/-! ### Fields -/

/-- A name has room in so many bytes, and no zero among its own. -/
def FitsName (room : Nat) (name : String) : Prop := name.utf8ByteSize ≤ room ∧ '\x00' ∉ name.toList

instance (room : Nat) (name : String) : Decidable (FitsName room name) :=
  inferInstanceAs (Decidable (_ ∧ _))

/-- The bytes before the first zero of a field. -/
theorem nameBytes_fitted {size : Nat} {bytes : Bytes} (hzero : 0 ∉ bytes) (hsize : bytes.length ≤ size) :
    nameBytes (Bytes.fitted size bytes) = bytes := by
  have hkept : ∀ b ∈ bytes, (b != 0) = true := by
    intro b hb
    rw [bne_iff_ne]
    rintro rfl
    exact hzero hb
  unfold nameBytes Bytes.fitted Bytes.zeros
  rw [List.take_of_length_le hsize, List.takeWhile_append_of_pos hkept]
  simp

variable {room size : Nat} {name : String}

theorem FitsName.nameBytes_fitted (h : FitsName room name) (hsize : room ≤ size) :
    nameBytes (Bytes.fitted size (Utf8.encode name)) = Utf8.encode name := by
  obtain ⟨hroom, hzero⟩ := h
  apply Kernel.nameBytes_fitted
  · rwa [Utf8.zero_mem_encode_iff]
  · rw [Utf8.length_encode]
    exact Nat.le_trans hroom hsize

end Kernel

end UsbPeripheral
