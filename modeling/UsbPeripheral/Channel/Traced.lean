import UsbPeripheral.Channel.Basic

/-!
# Traces: a channel that writes down its calls

`Traced σ` is a channel over another one.  Every operation goes through unchanged, and its **call**
is written down with its arguments and its result, the oldest first.
-/

namespace UsbPeripheral

/-- A call of a channel operation. -/
inductive Call where
  | bind (driver device : String) (speed : Speed) (result : Except DeviceError Unit)
  | run (result : Except DeviceError Unit)
  | fetchEvent (result : Except DeviceError EventRecord)
  | ep0Read (room : Nat) (result : Except DeviceError Bytes)
  | ep0Write (data : Bytes) (result : Except DeviceError Nat)
  | ep0Stall (result : Except DeviceError Unit)
  | enable (endpoint : Endpoint) (result : Except DeviceError Handle)
  | disable (handle : Handle) (result : Except DeviceError Unit)
  | read (resumed : Bool) (handle : Handle) (room : Nat) (reply : ReadReply)
  | write (handle : Handle) (data : Bytes) (result : Except TransferError Nat)
  | wake (handle : Handle)
  | configure (result : Except DeviceError Unit)
  | vbusDraw (milliamps : UInt32) (result : Except DeviceError Unit)
  | endpoints (result : Except DeviceError (List UdcEndpoint))
  | setHalt (handle : Handle) (result : Except DeviceError Unit)
  | clearHalt (handle : Handle) (result : Except DeviceError Unit)
  | setWedge (handle : Handle) (result : Except DeviceError Unit)

namespace Call

/-- Whether a call is on endpoint 0. -/
def onEndpoint0 : Call → Bool
  | ep0Read _ _ | ep0Write _ _ | ep0Stall _ => true
  | _ => false

end Call

/-- A channel with the calls that it has seen. -/
structure Traced (σ : Type) where
  inner : σ
  /-- The calls, oldest first. -/
  calls : List Call := []

namespace Traced

variable {σ α : Type}

/-- Let an operation through and write its call down. -/
def through (call : α → Call) (act : σ → α × σ) (t : Traced σ) : α × Traced σ :=
  ((act t.inner).1, { inner := (act t.inner).2, calls := t.calls ++ [call (act t.inner).1] })

theorem eq_of_through {call : α → Call} {act : σ → α × σ} {t t' : Traced σ} {a : α}
    (h : through call act t = (a, t')) : act t.inner = (a, t'.inner) := by
  obtain ⟨hresult, rfl⟩ := Prod.mk.inj h
  exact Prod.ext hresult rfl

instance [Channel σ] : Channel (Traced σ) where
  bind driver device speed := through (.bind driver device speed) (Channel.bind driver device speed)
  run := through .run Channel.run
  fetchEvent := through .fetchEvent Channel.fetchEvent
  ep0Read room := through (.ep0Read room) (Channel.ep0Read room)
  ep0Read_fits room _ _ _ h := Channel.ep0Read_fits room (eq_of_through h)
  ep0Write data := through (.ep0Write data) (Channel.ep0Write data)
  ep0Stall := through .ep0Stall Channel.ep0Stall
  enable endpoint := through (.enable endpoint) (Channel.enable endpoint)
  disable handle := through (.disable handle) (Channel.disable handle)
  read resumed handle room :=
    through (.read resumed handle room) (Channel.read resumed handle room)
  write handle data := through (.write handle data) (Channel.write handle data)
  wake handle t := { inner := Channel.wake handle t.inner, calls := t.calls ++ [.wake handle] }
  configure := through .configure Channel.configure
  vbusDraw milliamps := through (.vbusDraw milliamps) (Channel.vbusDraw milliamps)
  endpoints := through .endpoints Channel.endpoints
  setHalt handle := through (.setHalt handle) (Channel.setHalt handle)
  clearHalt handle := through (.clearHalt handle) (Channel.clearHalt handle)
  setWedge handle := through (.setWedge handle) (Channel.setWedge handle)

/-! ### Longer traces -/

/-- More calls were made, and all of them have a property. -/
def Appends (p : Call → Prop) (t t' : Traced σ) : Prop :=
  ∃ calls, t'.calls = t.calls ++ calls ∧ ∀ c ∈ calls, p c

variable {p : Call → Prop}

theorem Appends.refl (t : Traced σ) : Appends p t t :=
  ⟨[], (List.append_nil _).symm, fun _ h => absurd h List.not_mem_nil⟩

theorem Appends.trans {t₁ t₂ t₃ : Traced σ} (h₁ : Appends p t₁ t₂) (h₂ : Appends p t₂ t₃) :
    Appends p t₁ t₃ := by
  obtain ⟨calls₁, h₁, hp₁⟩ := h₁
  obtain ⟨calls₂, h₂, hp₂⟩ := h₂
  refine ⟨calls₁ ++ calls₂, by rw [h₂, h₁, List.append_assoc], ?_⟩
  intro c hc
  rcases List.mem_append.mp hc with hc | hc
  · exact hp₁ c hc
  · exact hp₂ c hc

theorem Appends.single {t t' : Traced σ} {c : Call} (hcalls : t'.calls = t.calls ++ [c])
    (hc : p c) : Appends p t t' := by
  refine ⟨[c], hcalls, ?_⟩
  intro c' h
  rw [List.mem_singleton.mp h]
  exact hc

end Traced

end UsbPeripheral
