/-!
# Request types: the first byte of a SETUP packet

The byte has three fields that do not overlap: the **direction** of the data stage (bit 7), the
**category** of the request (bits 6 and 5) and the **recipient** (bits 4 to 0).  `RequestType` keeps
the fields apart and cannot hold a value outside its field, so `toByte` and `ofByte` are inverse to
each other (`ofByte_toByte`, `toByte_ofByte`).
-/

namespace UsbPeripheral

/-- The direction of a transfer, seen from the host. -/
inductive Direction where
  | toDevice
  | toHost
  deriving DecidableEq, Repr

namespace Direction

/-- The name in diagnostics. -/
def name : Direction → String
  | toDevice => "Out"
  | toHost => "In"

/-- The name in a packet's text. -/
def label : Direction → String
  | toDevice => "OUT"
  | toHost => "IN"

/-- The direction that bit 7 of a request type or an endpoint address gives. -/
def ofByte (b : UInt8) : Direction := if b.toNat < 128 then toDevice else toHost

/-- The value of the direction bit. -/
def code : Direction → Nat
  | toDevice => 0
  | toHost => 1

end Direction

/-- Who defines a request: the USB standard, a device class, or a vendor. -/
inductive Category where
  | standard
  | ofClass
  | vendor
  | reserved
  deriving DecidableEq, Repr

namespace Category

/-- The name in diagnostics. -/
def name : Category → String
  | standard => "Standard"
  | ofClass => "Class"
  | vendor => "Vendor"
  | reserved => "Reserved"

/-- The value of the field. -/
def code : Category → Nat
  | standard => 0
  | ofClass => 1
  | vendor => 2
  | reserved => 3

/-- The category with a given field value. -/
def ofCode : Nat → Category
  | 0 => standard
  | 1 => ofClass
  | 2 => vendor
  | _ => reserved

end Category

/-- What a request is addressed to. -/
inductive Recipient where
  | device
  | interface
  | endpoint
  | other
  | reserved
  deriving DecidableEq, Repr

namespace Recipient

/-- The name in diagnostics. -/
def name : Recipient → String
  | device => "Device"
  | interface => "Interface"
  | endpoint => "Endpoint"
  | other => "Other"
  | reserved => "Reserved"

/-- The recipient with a given field value. -/
def ofCode : Nat → Recipient
  | 0 => device
  | 1 => interface
  | 2 => endpoint
  | 3 => other
  | _ => reserved

end Recipient

/-- The request type of a SETUP packet. -/
structure RequestType where
  /-- Direction of the data stage. -/
  direction : Direction
  /-- Who defines the request. -/
  category : Category
  recipientCode : Fin 32
  deriving DecidableEq, Repr

namespace RequestType

/-- What the request is addressed to. -/
def recipient (t : RequestType) : Recipient := Recipient.ofCode t.recipientCode

/-- The standard device request that carries data to the device. -/
def toDevice : RequestType := ⟨.toDevice, .standard, 0⟩

/-- The standard device request that carries data to the host. -/
def toHost : RequestType := ⟨.toHost, .standard, 0⟩

/-! ### The byte -/

/-- The byte on the wire. -/
def toByte (t : RequestType) : UInt8 :=
  UInt8.ofNat (128 * t.direction.code + 32 * t.category.code + t.recipientCode)

/-- The request type behind a byte. -/
def ofByte (b : UInt8) : RequestType :=
  ⟨.ofByte b, .ofCode (b.toNat / 32 % 4), ⟨b.toNat % 32, Nat.mod_lt _ (by decide)⟩⟩

theorem ofByte_toByte (t : RequestType) : ofByte t.toByte = t := by
  obtain ⟨d, c, r⟩ := t
  revert r
  cases d <;> cases c <;> decide

theorem toByte_ofByte (b : UInt8) : (ofByte b).toByte = b := by
  have h : ∀ n : Fin 256, (ofByte (UInt8.ofNat n)).toByte = UInt8.ofNat n := by decide +kernel
  have hb := h ⟨b.toNat, b.toNat_lt⟩
  simpa using hb

/-! ### Changing one field -/

/-- One of the ways to set a field of a request type. -/
inductive Change where
  | standard
  | ofClass
  | vendor
  | device
  | interface
  | endpoint
  | other
  deriving DecidableEq, Repr

/-- The request type with one field set and the others kept. -/
def apply (t : RequestType) : Change → RequestType
  | .standard => { t with category := .standard }
  | .ofClass => { t with category := .ofClass }
  | .vendor => { t with category := .vendor }
  | .device => { t with recipientCode := 0 }
  | .interface => { t with recipientCode := 1 }
  | .endpoint => { t with recipientCode := 2 }
  | .other => { t with recipientCode := 3 }

namespace Change

/-- The category that a change sets. -/
def category? : Change → Option Category
  | .standard => some .standard
  | .ofClass => some .ofClass
  | .vendor => some .vendor
  | _ => none

/-- The recipient that a change sets. -/
def recipientCode? : Change → Option (Fin 32)
  | .device => some 0
  | .interface => some 1
  | .endpoint => some 2
  | .other => some 3
  | _ => none

end Change

theorem apply_eq (t : RequestType) (c : Change) :
    t.apply c =
      ⟨t.direction, c.category?.getD t.category, c.recipientCode?.getD t.recipientCode⟩ := by
  cases c <;> rfl

/-- The request type after a chain of changes, the first one applied first. -/
def applyAll (t : RequestType) (changes : List Change) : RequestType := changes.foldl apply t

end RequestType

end UsbPeripheral
