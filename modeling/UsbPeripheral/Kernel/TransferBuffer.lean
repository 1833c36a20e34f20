import UsbPeripheral.Kernel.Request

/-!
# Transfer buffers

The argument of a transfer is a header of eight bytes with the payload behind it: the low 16 bits of the
endpoint's handle, no flags, the length of the payload, and the payload.  It is kept in whole words of
four bytes, so that the words of the header stand where the kernel expects words.

Memory is written a range at a time, and only with the proof that the range lies inside the words
(`TransferBuffer.put`).
-/

namespace UsbPeripheral

/-- Memory for the header and the payload of a transfer. -/
structure TransferBuffer where
  /-- Number of payload bytes. -/
  length : Nat
  /-- Number of words. -/
  words : Nat
  /-- The bytes of the words. -/
  memory : Bytes
  memory_length : memory.length = Kernel.wordSize * words
  /-- Header and payload lie inside the words. -/
  fits : Kernel.transferHeaderSize + length ≤ Kernel.wordSize * words

namespace TransferBuffer

/-- The fewest words that a header and a payload lie inside. -/
def wordsFor (length : Nat) : Nat :=
  (Kernel.transferHeaderSize + length + (Kernel.wordSize - 1)) / Kernel.wordSize

theorem le_wordsFor (length : Nat) :
    Kernel.transferHeaderSize + length ≤ Kernel.wordSize * wordsFor length := by
  simp only [wordsFor, Kernel.transferHeaderSize, Kernel.wordSize]
  omega

/-- Fresh memory. -/
def fresh (length : Nat) : TransferBuffer where
  length := length
  words := wordsFor length
  memory := Bytes.zeros (Kernel.wordSize * wordsFor length)
  memory_length := List.length_replicate
  fits := le_wordsFor length

/-- Memory keeps its size when a range inside it is written. -/
theorem length_written (b : TransferBuffer) (place : Nat) (data : Bytes)
    (inside : place + data.length ≤ Kernel.wordSize * b.words) :
    (b.memory.take place ++ Bytes.overlay data (b.memory.drop place)).length =
      Kernel.wordSize * b.words := by
  have hwhole := b.memory_length
  simp only [Bytes.overlay, List.length_append, List.length_take, List.length_drop]
  omega

/-- The buffer with `data` written from a place on. -/
def put (b : TransferBuffer) (place : Nat) (data : Bytes)
    (inside : place + data.length ≤ Kernel.wordSize * b.words) : TransferBuffer :=
  { b with
    memory := b.memory.take place ++ Bytes.overlay data (b.memory.drop place)
    memory_length := length_written b place data inside }

/-- The place of the length in the header. -/
def lengthPlace : Nat := 4

/-- The buffer of a transfer that has no payload yet. -/
def blank (handle : UInt16) (length : Nat) : TransferBuffer :=
  ((fresh length).put 0 (Bytes.ofWord16 handle) (by
      have hfits := (fresh length).fits
      simp only [Kernel.transferHeaderSize, Bytes.length_ofWord16] at hfits ⊢
      omega)).put lengthPlace (Bytes.ofWord32 (UInt32.ofNat length)) (by
      have hfits := (fresh length).fits
      simp only [put, lengthPlace, Kernel.transferHeaderSize, Bytes.length_ofWord32] at hfits ⊢
      omega)

/-- The buffer with a payload; what there is no room for is left out. -/
def fill (b : TransferBuffer) (payload : Bytes) : TransferBuffer :=
  b.put Kernel.transferHeaderSize (payload.take b.length) (by
    have hfits := b.fits
    have htaken := List.length_take_le b.length payload
    omega)

/-- The buffer of a transfer that carries `data`. -/
def holding (handle : UInt16) (data : Bytes) : TransferBuffer := (blank handle data.length).fill data

/-- The header. -/
def header (b : TransferBuffer) : Bytes := b.memory.take Kernel.transferHeaderSize

/-- The payload. -/
def payload (b : TransferBuffer) : Bytes :=
  (b.memory.drop Kernel.transferHeaderSize).take b.length

/-- Header and payload, without what is left of the last word. -/
def record (b : TransferBuffer) : Bytes := b.memory.take (Kernel.transferHeaderSize + b.length)

end TransferBuffer

end UsbPeripheral
