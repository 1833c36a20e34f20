import UsbPeripheral.Kernel.RawChannel
import UsbPeripheral.Proofs.Names

/-! # Controllers are bound by their exact names

The record that binds to a controller has a field of 128 bytes for each of the two names, and the code of
the speed behind them.  The kernel reads each field up to its first zero, so a name has to leave room for
one and must not contain one (`Kernel.FitsName`).

**Names reach the kernel intact or not at all** (`RawChannel.BindsExactly`, `RawChannel.binds_exactly`):
the request is made exactly if both names fit.  Its record is then read back as the two names and the
speed, so that different ones have different records (`Kernel.BindsTo.unique`).  Otherwise no request is
made, and the error has the first name that does not fit. -/

namespace UsbPeripheral

theorem Speed.eq_of_code_eq {s t : Speed} (h : s.code = t.code) : s = t := by
  revert h
  cases s <;> cases t <;> decide

namespace Kernel

/-! ### Records -/

/-- The most bytes of a name that leave room for the end mark. -/
abbrev maxNameBytes : Nat := 127

theorem fitsName_iff {name : String} :
    FitsName maxNameBytes name ↔
      ¬(nameSize ≤ (Utf8.encode name).length ∨ 0 ∈ Utf8.encode name) := by
  rw [Utf8.length_encode, Utf8.zero_mem_encode_iff, not_or, Nat.not_le, FitsName]
  exact and_congr_left' Nat.lt_succ_iff.symm

theorem nameField_eq (name : String) :
    nameField name =
      if FitsName maxNameBytes name then .ok (Bytes.fitted nameSize (Utf8.encode name))
      else .error (.invalidName name) := by
  unfold nameField
  dsimp only
  by_cases h : FitsName maxNameBytes name
  · rw [if_pos h, if_neg (fitsName_iff.mp h)]
  · rw [if_neg h, if_pos (Decidable.not_not.mp fun hfree => h (fitsName_iff.mpr hfree))]

/-- The record for two names that fit. -/
def recordOf (driver device : String) (speed : Speed) : Bytes :=
  Bytes.fitted nameSize (Utf8.encode driver) ++ Bytes.fitted nameSize (Utf8.encode device) ++
    [speed.code]

theorem bindRecord_eq (driver device : String) (speed : Speed) :
    bindRecord driver device speed =
      if FitsName maxNameBytes driver ∧ FitsName maxNameBytes device then
        .ok (recordOf driver device speed)
      else .error (.invalidName (if FitsName maxNameBytes driver then device else driver)) := by
  unfold bindRecord
  rw [nameField_eq, nameField_eq]
  by_cases hdriver : FitsName maxNameBytes driver
  · by_cases hdevice : FitsName maxNameBytes device
    · simp only [hdriver, hdevice, and_self, if_true]
      rfl
    · simp only [hdriver, hdevice, and_false, if_true, if_false]
      rfl
  · simp only [hdriver, false_and, if_false]
    rfl

/-- What stands in a field of a record, up to the first zero. -/
def nameAt (record : Bytes) (place : Nat) : Bytes := nameBytes ((record.drop place).take nameSize)

/-- What a record binds to, as the kernel reads it. -/
structure BindsTo (record : Bytes) (driver device : String) (speed : Speed) : Prop where
  size : record.length = 257
  driver : nameAt record 0 = Utf8.encode driver
  device : nameAt record 128 = Utf8.encode device
  /-- Each name ends with a zero inside its field. -/
  ended : (nameAt record 0).length < 128 ∧ (nameAt record 128).length < 128
  speed : record.getLast? = some speed.code

theorem bindsTo_recordOf {driver device : String} (hdriver : FitsName maxNameBytes driver)
    (hdevice : FitsName maxNameBytes device) (speed : Speed) :
    BindsTo (recordOf driver device speed) driver device speed := by
  have hfield : ∀ name, (Bytes.fitted 128 (Utf8.encode name)).length = 128 :=
    fun name => Bytes.length_fitted _ _
  have hfirst : nameAt (recordOf driver device speed) 0 = Utf8.encode driver := by
    unfold nameAt recordOf nameSize
    rw [List.drop_zero, List.append_assoc, List.take_left' (hfield driver)]
    exact hdriver.nameBytes_fitted (Nat.le_succ _)
  have hsecond : nameAt (recordOf driver device speed) 128 = Utf8.encode device := by
    unfold nameAt recordOf nameSize
    rw [List.append_assoc, List.drop_left' (hfield driver), List.take_left' (hfield device)]
    exact hdevice.nameBytes_fitted (Nat.le_succ _)
  refine ⟨?_, hfirst, hsecond, ?_, List.getLast?_concat⟩
  · unfold recordOf nameSize
    rw [List.length_append, List.length_append, hfield, hfield]
    rfl
  · rw [hfirst, hsecond, Utf8.length_encode, Utf8.length_encode]
    exact ⟨Nat.lt_succ_of_le hdriver.1, Nat.lt_succ_of_le hdevice.1⟩

/-- The names are read back as texts. -/
theorem BindsTo.texts {record : Bytes} {driver device : String} {speed : Speed}
    (h : BindsTo record driver device speed) :
    Utf8.decode (nameAt record 0) = driver ∧ Utf8.decode (nameAt record 128) = device := by
  rw [h.driver, h.device, Utf8.decode_encode, Utf8.decode_encode]
  exact ⟨rfl, rfl⟩

/-- A record binds to nothing else. -/
theorem BindsTo.unique {record : Bytes} {driver driver' device device' : String}
    {speed speed' : Speed} (h : BindsTo record driver device speed)
    (h' : BindsTo record driver' device' speed') :
    driver = driver' ∧ device = device' ∧ speed = speed' := by
  obtain ⟨hdriver, hdevice⟩ := h.texts
  obtain ⟨hdriver', hdevice'⟩ := h'.texts
  have hspeed : speed.code = speed'.code := Option.some.inj (h.speed.symm.trans h'.speed)
  exact ⟨hdriver.symm.trans hdriver', hdevice.symm.trans hdevice', Speed.eq_of_code_eq hspeed⟩

end Kernel

namespace RawChannel

open Kernel (FitsName maxNameBytes)

variable {κ : Type} [Kernel κ]

/-! ### Requests -/

theorem requests_order (operation : Operation) (argument : KernelArgument) (k : LoggedKernel κ) :
    (order operation argument k).2.requests = k.requests ++ [⟨operation, argument⟩] := by
  show (ask operation argument k).2.requests = _
  rw [ask_state, LoggedKernel.request_requests]

theorem order_reply (operation : Operation) (argument : KernelArgument) (k : κ) :
    (order operation argument k).1 =
      match (Kernel.request ⟨operation, argument⟩ k).1.result with
      | .ok _ => .ok ()
      | .error errno => .error (.channel operation errno) := by
  unfold order
  dsimp only
  rw [ask_reply]
  rcases (Kernel.request ⟨operation, argument⟩ k).1 with ⟨result, written⟩
  cases result <;> rfl

section bind

variable (driver device : String) (speed : Speed) (k : LoggedKernel κ)

theorem bind_of_fits (h : FitsName maxNameBytes driver ∧ FitsName maxNameBytes device) :
    bind driver device speed k = order .init (.record (Kernel.recordOf driver device speed)) k := by
  unfold bind
  rw [Kernel.bindRecord_eq, if_pos h]

theorem bind_of_not_fits (h : ¬(FitsName maxNameBytes driver ∧ FitsName maxNameBytes device)) :
    bind driver device speed k =
      (.error (.invalidName (if FitsName maxNameBytes driver then device else driver)), k) := by
  unfold bind
  rw [Kernel.bindRecord_eq, if_neg h]

/-- Binding makes one request, with this record. -/
def Issues (record : Bytes) : Prop :=
  (bind driver device speed k).2.requests = k.requests ++ [⟨.init, .record record⟩]

variable {driver device speed k}

theorem issues_iff {record : Bytes} :
    Issues driver device speed k record ↔
      (FitsName maxNameBytes driver ∧ FitsName maxNameBytes device) ∧
        record = Kernel.recordOf driver device speed := by
  unfold Issues
  by_cases h : FitsName maxNameBytes driver ∧ FitsName maxNameBytes device
  · have hrequests : (bind driver device speed k).2.requests =
        k.requests ++ [⟨.init, .record (Kernel.recordOf driver device speed)⟩] := by
      rw [bind_of_fits driver device speed k h]
      exact requests_order .init _ k
    rw [hrequests]
    simp [h, eq_comm]
  · rw [bind_of_not_fits driver device speed k h]
    simp [h]

/-- What an issued record binds to. -/
theorem Issues.bindsTo {record : Bytes} (h : Issues driver device speed k record) :
    Kernel.BindsTo record driver device speed := by
  obtain ⟨⟨hdriver, hdevice⟩, rfl⟩ := issues_iff.mp h
  exact Kernel.bindsTo_recordOf hdriver hdevice speed

variable (driver device speed k)

/-- What comes of binding to a controller. -/
structure BindsExactly : Prop where
  /-- The request is made if both names fit. -/
  issued_iff : (∃ record, Issues driver device speed k record) ↔
    FitsName 127 driver ∧ FitsName 127 device
  /-- Its record is read as the two names and the speed. -/
  intact : ∀ record, Issues driver device speed k record →
    Kernel.BindsTo record driver device speed ∧
      Utf8.decode (Kernel.nameAt record 0) = driver ∧ Utf8.decode (Kernel.nameAt record 128) = device
  /-- No other names and speed have this record. -/
  alone : ∀ record, Issues driver device speed k record → ∀ driver' device' speed' k',
    Issues driver' device' speed' (k' : LoggedKernel κ) record →
      driver' = driver ∧ device' = device ∧ speed' = speed
  /-- The kernel decides about the outcome. -/
  outcome : ∀ record, Issues driver device speed k record →
    (bind driver device speed k).1 =
      match (Kernel.request ⟨.init, .record record⟩ k).1.result with
      | .ok _ => .ok ()
      | .error errno => .error (.channel .init errno)
  /-- Otherwise the error has the first name that does not fit, and no request is made. -/
  withheld : ¬(FitsName 127 driver ∧ FitsName 127 device) →
    bind driver device speed k =
      (.error (.invalidName (if FitsName 127 driver then device else driver)), k)

/-- **Names reach the kernel intact or not at all.** -/
theorem binds_exactly : BindsExactly driver device speed k where
  issued_iff := by
    constructor
    · rintro ⟨record, h⟩
      exact (issues_iff.mp h).1
    · intro h
      exact ⟨_, issues_iff.mpr ⟨h, rfl⟩⟩
  intact := fun record h => ⟨h.bindsTo, h.bindsTo.texts⟩
  alone := by
    intro record h driver' device' speed' k' h'
    exact h'.bindsTo.unique h.bindsTo
  outcome := by
    intro record h
    obtain ⟨hfits, rfl⟩ := issues_iff.mp h
    rw [bind_of_fits driver device speed k hfits]
    exact order_reply .init _ k
  withheld := bind_of_not_fits driver device speed k

end bind

end RawChannel

end UsbPeripheral
