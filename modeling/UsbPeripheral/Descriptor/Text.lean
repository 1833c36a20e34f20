import UsbPeripheral.Bytes
import UsbPeripheral.Descriptor.Kind
import UsbPeripheral.Text.Utf16

/-!
# String descriptors

A string descriptor has a length byte, the kind and little-endian 16-bit units.  String 0 is the
table of the languages of a device, any other holds text as UTF-16.

A descriptor is written into a **buffer** that begins with two bytes, of which the first is set when
the length is known.  Units are added one by one, until another one would make the buffer longer than
the length byte can tell (`fill`).  So a descriptor has room for 126 units, and what does not fit is
cut (`ofUnits_eq`).
-/

namespace UsbPeripheral.Descriptor

/-- The greatest length that a length byte can tell. -/
def maxLength : Nat := 255

/-- Number of units that a string descriptor has room for. -/
def maxUnits : Nat := 126

/-- A buffer after units were added to it for as long as there was room. -/
def fill (buffer : Bytes) : List UInt16 → Bytes
  | [] => buffer
  | u :: us =>
    if maxLength < buffer.length + 2 then buffer else fill (buffer ++ Bytes.ofWord16 u) us

/-- The string descriptor that holds the units in front. -/
def ofUnits (units : List UInt16) : Bytes :=
  let buffer := fill [0, Kind.string] units
  buffer.set 0 (UInt8.ofNat buffer.length)

/-- The string descriptor of a text. -/
def ofText (text : String) : Bytes := ofUnits (Utf16.encode text.toList)

/-- The string descriptor of a table of languages. -/
def ofLanguages (languages : List UInt16) : Bytes := ofUnits languages

/-- The units that stand in a descriptor's body. -/
def unitsOf : Bytes → List UInt16
  | lo :: hi :: rest => Bytes.word16 lo hi :: unitsOf rest
  | _ => []

/-- US English. -/
def americanEnglish : UInt16 := 0x0409

theorem unitsOf_flatMap (units : List UInt16) :
    unitsOf (units.flatMap Bytes.ofWord16) = units := by
  induction units with
  | nil => rfl
  | cons u us ih =>
    show Bytes.word16 (Bytes.low u) (Bytes.high u) :: unitsOf (us.flatMap Bytes.ofWord16) = u :: us
    rw [Bytes.word16_low_high, ih]

theorem length_flatMap_ofWord16 (units : List UInt16) :
    (units.flatMap Bytes.ofWord16).length = 2 * units.length := by
  induction units with
  | nil => rfl
  | cons u us ih =>
    rw [List.flatMap_cons, List.length_append, ih, Bytes.length_ofWord16, List.length_cons]
    omega

/-! ### What there is room for -/

/-- Number of units that a buffer has room for. -/
def room (buffer : Bytes) : Nat := (maxLength - buffer.length) / 2

theorem room_of_full {buffer : Bytes} (h : maxLength < buffer.length + 2) : room buffer = 0 := by
  unfold room
  omega

/-- A unit that is added takes the room of one. -/
theorem room_append {buffer : Bytes} (h : ¬ maxLength < buffer.length + 2) (u : UInt16) :
    room buffer = room (buffer ++ Bytes.ofWord16 u) + 1 := by
  unfold room
  rw [List.length_append, Bytes.length_ofWord16]
  omega

theorem room_header : room [0, Kind.string] = maxUnits := rfl

/-- A buffer is filled with the units that it has room for, and with no part of another one. -/
theorem fill_eq (buffer : Bytes) (units : List UInt16) :
    fill buffer units = buffer ++ (units.take (room buffer)).flatMap Bytes.ofWord16 := by
  -- The buffer grows, so what stays the same from unit to unit is its contents with its room.
  induction units generalizing buffer with
  | nil => rw [fill, List.take_nil, List.flatMap_nil, List.append_nil]
  | cons u us ih =>
    rw [fill]
    split
    case isTrue hfull =>
      rw [room_of_full hfull, List.take_zero, List.flatMap_nil, List.append_nil]
    case isFalse hfits =>
      rw [ih, room_append hfits u, List.take_succ_cons, List.flatMap_cons, List.append_assoc]

theorem ofUnits_eq (units : List UInt16) :
    ofUnits units =
      UInt8.ofNat (2 + ((units.take maxUnits).flatMap Bytes.ofWord16).length) ::
        Kind.string :: (units.take maxUnits).flatMap Bytes.ofWord16 := by
  unfold ofUnits
  rw [fill_eq, room_header]
  dsimp only
  rw [List.length_append]
  rfl

theorem drop_ofUnits (units : List UInt16) :
    (ofUnits units).drop 2 = (units.take maxUnits).flatMap Bytes.ofWord16 := by
  rw [ofUnits_eq]
  rfl

/-- The length of a descriptor does not wrap around in its length byte. -/
theorem toNat_lengthByte (units : List UInt16) :
    (UInt8.ofNat (2 + ((units.take maxUnits).flatMap Bytes.ofWord16).length)).toNat =
      2 + ((units.take maxUnits).flatMap Bytes.ofWord16).length := by
  have hlength := length_flatMap_ofWord16 (units.take maxUnits)
  have hroom : (units.take maxUnits).length ≤ 126 := List.length_take_le _ _
  apply UInt8.toNat_ofNat_of_lt
  show _ < 256
  omega

end UsbPeripheral.Descriptor
