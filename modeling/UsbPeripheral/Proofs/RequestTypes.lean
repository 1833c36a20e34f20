import UsbPeripheral.Proofs.Latest
import UsbPeripheral.Proofs.Records

/-! # Request types keep their fields

A request type is made from a byte, or of one of the two directions, and then changed step by step.  Of
the changes to a field the **last** counts, and a field that no change sets is kept
(`RequestType.applyAll_eq`).

A request type may also be kept as three plain bytes, one for each field (`RequestType.Fields`).  Nothing
holds a plain byte inside its field, and one that is too large would spill into the next field when the
byte on the wire is put together by shifts.  No chain of changes makes such a byte
(`Fields.InRange.applyAll`), so the fields lie **apart** in the byte on the wire (`Fields.Apart`) and can
be taken out of it again.

**SETUP packets are encoded without loss**, those read from bytes as well as those that were built
(`Setup.encodes_without_loss`). -/

namespace UsbPeripheral

namespace RequestType

/-! ### What a chain of changes leaves -/

/-- A chain of changes keeps the direction, and sets the other fields as their last changes have them. -/
theorem applyAll_eq (t : RequestType) (changes : List Change) :
    t.applyAll changes =
      ⟨t.direction, (latest? Change.category? changes).getD t.category,
        (latest? Change.recipientCode? changes).getD t.recipientCode⟩ := by
  induction changes generalizing t with
  | nil => rfl
  | cons c changes ih =>
    have hstep : t.applyAll (c :: changes) = (t.apply c).applyAll changes := rfl
    rw [hstep, ih, apply_eq, latest?_cons, latest?_cons, Option.getD_or, Option.getD_or]

/-! ### Plain bytes -/

/-- The fields of a request type, each in a byte of its own. -/
structure Fields where
  direction : UInt8
  category : UInt8
  recipient : UInt8
  deriving DecidableEq, Repr

namespace Fields

/-- The byte on the wire, put together by shifts. -/
def toByte (f : Fields) : UInt8 := f.direction <<< 7 ||| f.category <<< 5 ||| f.recipient

/-- The fields of a byte. -/
def ofByte (b : UInt8) : Fields := ⟨b >>> 7, b >>> 5 &&& 3, b &&& 31⟩

/-- The fields with one of them set. -/
def apply (f : Fields) : Change → Fields
  | .standard => { f with category := 0 }
  | .ofClass => { f with category := 1 }
  | .vendor => { f with category := 2 }
  | .device => { f with recipient := 0 }
  | .interface => { f with recipient := 1 }
  | .endpoint => { f with recipient := 2 }
  | .other => { f with recipient := 3 }

/-- The fields after a chain of changes, the first one applied first. -/
def applyAll (f : Fields) (changes : List Change) : Fields := changes.foldl apply f

/-- Each byte is inside its field. -/
structure InRange (f : Fields) : Prop where
  direction : f.direction.toNat < 2
  category : f.category.toNat < 4
  recipient : f.recipient.toNat < 32

/-- No bit of the byte on the wire belongs to two fields. -/
structure Apart (f : Fields) : Prop where
  direction_category : f.direction <<< 7 &&& f.category <<< 5 = 0
  direction_recipient : f.direction <<< 7 &&& f.recipient = 0
  category_recipient : f.category <<< 5 &&& f.recipient = 0

end Fields

/-- The fields of a request type as plain bytes. -/
def fields (t : RequestType) : Fields :=
  ⟨UInt8.ofNat t.direction.code, UInt8.ofNat t.category.code, UInt8.ofNat t.recipientCode⟩

theorem toByte_fields (t : RequestType) : t.fields.toByte = t.toByte := by
  obtain ⟨d, c, r⟩ := t
  revert r
  cases d <;> cases c <;> decide

theorem fields_ofByte (b : UInt8) : (ofByte b).fields = Fields.ofByte b := by
  have hall : ∀ n : Fin 256, (ofByte (UInt8.ofNat n)).fields = Fields.ofByte (UInt8.ofNat n) := by
    decide +kernel
  have hb := hall ⟨b.toNat, b.toNat_lt⟩
  simpa using hb

/-- One change has the same effect on a request type and on its plain bytes. -/
theorem fields_apply (t : RequestType) (c : Change) : (t.apply c).fields = t.fields.apply c := by
  cases c <;> rfl

/-- So has every chain of changes. -/
theorem fields_applyAll (t : RequestType) (changes : List Change) :
    (t.applyAll changes).fields = t.fields.applyAll changes := by
  induction changes generalizing t with
  | nil => rfl
  | cons c changes ih =>
    have hstep : (t.applyAll (c :: changes)).fields = ((t.apply c).applyAll changes).fields := rfl
    rw [hstep, ih, fields_apply]
    rfl

namespace Fields

/-- Bytes that are inside their fields are those of a request type. -/
theorem inRange_iff {f : Fields} : f.InRange ↔ ∃ t : RequestType, t.fields = f := by
  constructor
  · rintro ⟨hd, hc, hr⟩
    obtain ⟨d, c, r⟩ := f
    have hdirection : ∃ direction : Direction, UInt8.ofNat direction.code = d := by
      have hall : ∀ n : Fin 2, ∃ direction : Direction,
          UInt8.ofNat direction.code = UInt8.ofNat n := by
        intro n
        match n with
        | 0 => exact ⟨.toDevice, rfl⟩
        | 1 => exact ⟨.toHost, rfl⟩
      simpa using hall ⟨d.toNat, hd⟩
    have hcategory : ∃ category : Category, UInt8.ofNat category.code = c := by
      have hall : ∀ n : Fin 4, UInt8.ofNat (Category.ofCode n).code = UInt8.ofNat n := by decide
      exact ⟨.ofCode c.toNat, by simpa using hall ⟨c.toNat, hc⟩⟩
    obtain ⟨direction, rfl⟩ := hdirection
    obtain ⟨category, rfl⟩ := hcategory
    exact ⟨⟨direction, category, ⟨r.toNat, hr⟩⟩, by simp [fields]⟩
  · rintro ⟨⟨direction, category, recipient⟩, rfl⟩
    have hdirection : direction.code < 2 := by cases direction <;> decide
    have hcategory : category.code < 4 := by cases category <;> decide
    have hrecipient : recipient.val < 32 := recipient.isLt
    constructor <;> simp only [fields, UInt8.toNat_ofNat'] <;> omega

variable {f : Fields}

/-- A chain of changes leaves every byte inside its field. -/
theorem InRange.applyAll (h : f.InRange) (changes : List Change) : (f.applyAll changes).InRange := by
  obtain ⟨t, rfl⟩ := inRange_iff.mp h
  exact inRange_iff.mpr ⟨t.applyAll changes, fields_applyAll t changes⟩

/-- Bytes inside their fields are taken out of the byte on the wire again. -/
theorem InRange.ofByte_toByte (h : f.InRange) : ofByte f.toByte = f := by
  obtain ⟨t, rfl⟩ := inRange_iff.mp h
  rw [toByte_fields, ← fields_ofByte, RequestType.ofByte_toByte]

theorem InRange.apart (h : f.InRange) : f.Apart := by
  obtain ⟨⟨d, c, r⟩, rfl⟩ := inRange_iff.mp h
  clear h
  constructor
  · cases d <;> cases c <;> simp only [fields] <;> decide
  · revert r
    cases d <;> simp only [fields] <;> decide
  · revert r
    cases c <;> simp only [fields] <;> decide

end Fields

/-! ### Where a chain starts -/

/-- What a request type is made from. -/
inductive Start where
  | toDevice
  | toHost
  | byte (b : UInt8)
  deriving DecidableEq, Repr

namespace Start

/-- The request type that is made. -/
def type : Start → RequestType
  | toDevice => RequestType.toDevice
  | toHost => RequestType.toHost
  | byte b => ofByte b

/-- Its fields, when they are kept as plain bytes. -/
def fields : Start → Fields
  | toDevice => ⟨0, 0, 0⟩
  | toHost => ⟨1, 0, 0⟩
  | byte b => Fields.ofByte b

/-- Its byte on the wire. -/
def wire : Start → UInt8
  | toDevice => 0
  | toHost => 0x80
  | byte b => b

theorem fields_type (s : Start) : s.type.fields = s.fields := by
  cases s with
  | toDevice => rfl
  | toHost => rfl
  | byte b => exact fields_ofByte b

theorem inRange_fields (s : Start) : s.fields.InRange :=
  Fields.inRange_iff.mpr ⟨s.type, fields_type s⟩

theorem toByte_type (s : Start) : s.type.toByte = s.wire := by
  cases s with
  | toDevice => rfl
  | toHost => rfl
  | byte b => exact toByte_ofByte b

end Start

/-! ### The law of fields -/

/-- What becomes of the fields of a request type in a chain of changes. -/
structure KeepsFields (start : Start) (changes : List Change) : Prop where
  /-- No change sets the direction. -/
  direction : (start.type.applyAll changes).direction = start.type.direction
  /-- It is the first bit of the byte. -/
  directionBit : (start.type.applyAll changes).toByte >>> 7 = start.wire >>> 7
  /-- The last change of the category counts. -/
  category : (start.type.applyAll changes).category =
    (latest? Change.category? changes).getD start.type.category
  /-- The last change of the recipient counts. -/
  recipient : (start.type.applyAll changes).recipientCode =
    (latest? Change.recipientCode? changes).getD start.type.recipientCode
  /-- Plain bytes go through the same changes. -/
  plain : (start.type.applyAll changes).fields = start.fields.applyAll changes
  /-- The byte on the wire is put together from them. -/
  byte : (start.type.applyAll changes).toByte = (start.fields.applyAll changes).toByte
  /-- Its fields do not overlap. -/
  apart : (start.fields.applyAll changes).Apart
  /-- It is read back as the same plain bytes. -/
  again : Fields.ofByte (start.fields.applyAll changes).toByte = start.fields.applyAll changes

theorem keepsFields (start : Start) (changes : List Change) : KeepsFields start changes := by
  have hplain : (start.type.applyAll changes).fields = start.fields.applyAll changes := by
    rw [fields_applyAll, Start.fields_type]
  have hrange : (start.fields.applyAll changes).InRange := start.inRange_fields.applyAll changes
  have hbyte : (start.type.applyAll changes).toByte = (start.fields.applyAll changes).toByte := by
    rw [← hplain, toByte_fields]
  have hdirection : (start.type.applyAll changes).direction = start.type.direction := by
    rw [applyAll_eq]
  have hbit : ∀ t : RequestType, t.toByte >>> 7 = t.fields.direction := by
    intro t
    rw [← toByte_fields, ← congrArg Fields.direction (Fields.inRange_iff.mpr ⟨t, rfl⟩).ofByte_toByte]
    rfl
  constructor
  · exact hdirection
  · rw [← Start.toByte_type, hbit, hbit]
    exact congrArg (fun d => UInt8.ofNat (Direction.code d)) hdirection
  · rw [applyAll_eq]
  · rw [applyAll_eq]
  · exact hplain
  · exact hbyte
  · exact hrange.apart
  · exact hrange.ofByte_toByte

end RequestType

namespace Setup

open RequestType (Start Change KeepsFields)

/-- Eight bytes are read as a packet, which is written as the same eight bytes. -/
theorem exists_toBytes_eq {data : Bytes} (h : data.length = size) :
    ∃ s, ofBytes? data = some s ∧ s.toBytes = data := by
  obtain ⟨s, hs⟩ := exists_ofBytes?_iff.mpr (Nat.le_of_eq h.symm)
  refine ⟨s, hs, ?_⟩
  rw [toBytes_of_ofBytes? hs, ← h, List.take_length]

/-- **SETUP packets are encoded without loss.**  Eight bytes are read as a packet and written as the same
eight bytes.  A packet with a request type that was built in any way is written and read as the same
packet, and the request type has the fields that its builder set. -/
theorem encodes_without_loss :
    (∀ data : Bytes, data.length = size → ∃ s, ofBytes? data = some s ∧ s.toBytes = data) ∧
      ∀ (start : Start) (changes : List Change), KeepsFields start changes ∧
        ∀ (request : UInt8) (value index length : UInt16),
          let s : Setup := ⟨start.type.applyAll changes, request, value, index, length⟩
          s.toBytes.length = size ∧ ofBytes? s.toBytes = some s := by
  refine ⟨fun data h => exists_toBytes_eq h, fun start changes => ?_⟩
  refine ⟨RequestType.keepsFields start changes, fun request value index length => ?_⟩
  intro s
  have hread := ofBytes?_toBytes s []
  rw [List.append_nil] at hread
  exact ⟨length_toBytes s, hread⟩

end Setup

end UsbPeripheral
