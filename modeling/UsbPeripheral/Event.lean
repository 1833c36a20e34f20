import UsbPeripheral.Bytes
import UsbPeripheral.Setup.Packet

/-!
# Bus events: records and their meaning

The kernel hands out **records**: a 32-bit tag, a 32-bit payload length and the payload, words in
little-endian order.  Reading a record never fails.  The payload is what is really there, at most
the announced length, and a buffer without room for the header is an empty record with the invalid
tag.

A record is decoded into a **bus event**.  A tag that is not known and a SETUP packet that is too
short become events of their own, so that nothing is lost and nothing is rejected.
-/

namespace UsbPeripheral

/-- An event record. -/
structure EventRecord where
  /-- What happened. -/
  tag : UInt32
  /-- The bytes that came with it. -/
  payload : Bytes
  deriving DecidableEq, Repr

/-- Something that happened on the bus. -/
inductive BusEvent where
  | connect
  | control (setup : Setup)
  | suspend
  | resume
  | reset
  | disconnect
  /-- A tag without a meaning. -/
  | unknown (tag : UInt32) (length : Nat)
  /-- A tag with a meaning and a payload too short for it. -/
  | malformed (tag : UInt32) (length : Nat)
  deriving DecidableEq, Repr

namespace EventRecord

/-! ### Tags -/

/-- No event. -/
def invalidTag : UInt32 := 0

/-- The controller was connected to a host. -/
def connectTag : UInt32 := 1

/-- A SETUP packet arrived. -/
def controlTag : UInt32 := 2

/-- The host suspended the bus. -/
def suspendTag : UInt32 := 3

/-- The host resumed the bus. -/
def resumeTag : UInt32 := 4

/-- The host reset the bus. -/
def resetTag : UInt32 := 5

/-- The host went away. -/
def disconnectTag : UInt32 := 6

/-! ### The wire form -/

/-- Number of bytes before the payload. -/
def headerSize : Nat := 8

/-- The record that carries a SETUP packet. -/
def ofSetup (s : Setup) : EventRecord := ⟨controlTag, s.toBytes⟩

/-- The record at the front of a buffer. -/
def ofBytes : Bytes → EventRecord
  | t₀ :: t₁ :: t₂ :: t₃ :: l₀ :: l₁ :: l₂ :: l₃ :: payload =>
    ⟨Bytes.word32 t₀ t₁ t₂ t₃, payload.take (Bytes.word32 l₀ l₁ l₂ l₃).toNat⟩
  | _ => ⟨invalidTag, []⟩

/-- The bytes of a record; the length field keeps the low 32 bits of the payload's length. -/
def toBytes (r : EventRecord) : Bytes :=
  Bytes.ofWord32 r.tag ++ Bytes.ofWord32 (UInt32.ofNat r.payload.length) ++ r.payload

/-- A record of the tag `tag` is read as what the tag means. -/
def decode (r : EventRecord) : BusEvent :=
  if r.tag = connectTag then .connect
  else if r.tag = controlTag then
    match Setup.ofBytes? r.payload with
    | some setup => .control setup
    | none => .malformed r.tag r.payload.length
  else if r.tag = suspendTag then .suspend
  else if r.tag = resumeTag then .resume
  else if r.tag = resetTag then .reset
  else if r.tag = disconnectTag then .disconnect
  else .unknown r.tag r.payload.length

end EventRecord

namespace BusEvent

/-- The event as diagnostics show it. -/
def text : BusEvent → String
  | connect => "connect"
  | control setup => s!"control, length: {Setup.size}, {setup.text}"
  | suspend => "suspend"
  | resume => "resume"
  | reset => "reset"
  | disconnect => "disconnect"
  | unknown tag length => s!"{tag.toNat} (unknown), length: {length}"
  | malformed tag length => s!"{tag.toNat} (malformed), length: {length}"

end BusEvent

end UsbPeripheral
