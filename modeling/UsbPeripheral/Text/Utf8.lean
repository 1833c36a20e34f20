import UsbPeripheral.Bytes

/-!
# UTF-8

Names cross the kernel boundary as UTF-8.  Writing is the standard encoding.  Reading never fails:
the longest run of bytes that begins a character but does not complete it, and every byte that begins
none, is read as one **replacement character** (`U+FFFD`).

The reader is a machine with one byte of input at a time.  Between characters it is `ready`; inside
one it is `owing` the rest, and it knows the range that the next byte has to lie in, which rules out
overlong forms, surrogates and values past the last code point.
-/

namespace UsbPeripheral.Utf8

/-- The bytes of a text. -/
def encode (s : String) : Bytes := s.toList.flatMap String.utf8EncodeChar

/-- Where the reader stands. -/
inductive State where
  | ready
  /-- Inside a character with the bits `value` so far: `left` more bytes are owed, the next one
  between `lo` and `hi`. -/
  | owing (value left lo hi : Nat)
  deriving DecidableEq, Repr

/-- What stands for bytes that are not text. -/
def replacement : Char := '\ufffd'

/-- The reader at a byte that may begin a character: what it puts out, and where it stands then. -/
def start (b : UInt8) : List Char × State :=
  let n := b.toNat
  if n < 0x80 then ([Char.ofNat n], .ready)
  else if n < 0xc2 then ([replacement], .ready)
  else if n < 0xe0 then ([], .owing (n % 32) 1 0x80 0xbf)
  else if n = 0xe0 then ([], .owing (n % 16) 2 0xa0 0xbf)
  else if n = 0xed then ([], .owing (n % 16) 2 0x80 0x9f)
  else if n < 0xf0 then ([], .owing (n % 16) 2 0x80 0xbf)
  else if n = 0xf0 then ([], .owing (n % 8) 3 0x90 0xbf)
  else if n < 0xf4 then ([], .owing (n % 8) 3 0x80 0xbf)
  else if n = 0xf4 then ([], .owing (n % 8) 3 0x80 0x8f)
  else ([replacement], .ready)

/-- The reader at any byte. -/
def step : State → UInt8 → List Char × State
  | .ready, b => start b
  | .owing value left lo hi, b =>
    if lo ≤ b.toNat ∧ b.toNat ≤ hi then
      let value' := value * 64 + b.toNat % 64
      if left ≤ 1 then ([Char.ofNat value'], .ready)
      else ([], .owing value' (left - 1) 0x80 0xbf)
    else
      let (out, next) := start b
      (replacement :: out, next)

/-- The text behind the bytes that are still to come. -/
def decodeFrom : State → Bytes → List Char
  | .ready, [] => []
  | .owing .., [] => [replacement]
  | s, b :: rest => (step s b).1 ++ decodeFrom (step s b).2 rest

/-- The text behind some bytes. -/
def decode (data : Bytes) : String := String.ofList (decodeFrom .ready data)

end UsbPeripheral.Utf8
