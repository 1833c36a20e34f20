import UsbPeripheral.Emulation.Bus
import UsbPeripheral.Profiles.Printer
import UsbPeripheral.Proofs.History
import UsbPeripheral.Proofs.Routes

/-! # The device ID is read in two steps

A printer sends its device ID behind a length that counts itself, high byte first.  A host reads the
length alone, and then as much as the length **announces** (`Bytes.announced`).

The length saturates at what 16 bits can count, and the ID is cut to match (`Printer.replyLength`).  What
is announced is therefore what there is, for IDs of any length (`Printer.announced_deviceIdReply`); every
step of composing the reply stays within its bounds (`Printer.checkedReply_eq`); and a host that reads in
two steps gets all that it asks for (`Gadget.reads_device_id`). -/

namespace UsbPeripheral

/-! ### The reply -/

namespace Bytes

/-- The number that the first two bytes are, high byte first. -/
def announced : Bytes → Nat
  | hi :: lo :: _ => (word16 lo hi).toNat
  | _ => 0

/-- The first bytes of a payload, unless there are not so many. -/
def front? (n : Nat) (data : Bytes) : Option Bytes := if n ≤ data.length then some (data.take n) else none

/-- Cutting a payload to a length never asks for more than there is. -/
theorem front?_min (n : Nat) (data : Bytes) :
    data.front? (min data.length n) = some (data.take n) := by
  unfold front?
  rw [if_pos (Nat.min_le_left _ _), Nat.min_comm, ← List.take_eq_take_min]

end Bytes

namespace Printer

/-- The length of the reply: that of the ID and of itself, as far as 16 bits can count. -/
def replyLength (p : Printer) : Nat := min ((Utf8.encode p.deviceId).length + 2) 65535

theorem two_le_replyLength (p : Printer) : 2 ≤ p.replyLength := by
  unfold replyLength
  omega

theorem replyLength_lt (p : Printer) : p.replyLength < 65536 := by
  unfold replyLength
  omega

theorem replyLength_sub_le (p : Printer) : p.replyLength - 2 ≤ (Utf8.encode p.deviceId).length := by
  unfold replyLength
  omega

theorem length_deviceIdReply (p : Printer) : p.deviceIdReply.length = p.replyLength := by
  have htwo := p.two_le_replyLength
  show ((Utf8.encode p.deviceId).take (p.replyLength - 2)).length + 1 + 1 = p.replyLength
  rw [List.length_take_of_le p.replyLength_sub_le]
  omega

/-- **The reply announces its own length.** -/
theorem announced_deviceIdReply (p : Printer) : p.deviceIdReply.announced = p.replyLength := by
  show (Bytes.word16 (Bytes.low (UInt16.ofNat p.replyLength))
    (Bytes.high (UInt16.ofNat p.replyLength))).toNat = p.replyLength
  rw [Bytes.word16_low_high, UInt16.toNat_ofNat_of_lt' p.replyLength_lt]

/-- The first two bytes are enough to tell the length. -/
theorem announced_take_two (p : Printer) : Bytes.announced (p.deviceIdReply.take 2) = p.replyLength :=
  p.announced_deviceIdReply

/-- The reply, unless the length does not fit 16 bits, the subtraction is below zero or the ID is
shorter than what is taken of it. -/
def checkedReply (p : Printer) : Option Bytes := do
  let id := Utf8.encode p.deviceId
  let length := min (id.length + 2) 65535
  guard (length < 65536)
  guard (2 ≤ length)
  let front ← id.front? (length - 2)
  let word := UInt16.ofNat length
  pure (Bytes.high word :: Bytes.low word :: front)

/-- **Nothing goes out of range in composing the reply.** -/
theorem checkedReply_eq (p : Printer) : p.checkedReply = some p.deviceIdReply := by
  have hfits : min ((Utf8.encode p.deviceId).length + 2) 65535 < 65536 := p.replyLength_lt
  have htwo : 2 ≤ min ((Utf8.encode p.deviceId).length + 2) 65535 := p.two_le_replyLength
  have hfront : (Utf8.encode p.deviceId).front? (p.replyLength - 2) =
      some ((Utf8.encode p.deviceId).take (p.replyLength - 2)) := if_pos p.replyLength_sub_le
  unfold replyLength at hfront
  unfold checkedReply
  simp only [guard, if_pos hfits, if_pos htwo, hfront]
  rfl

/-- The reply is a matter of the ID. -/
theorem deviceIdReply_congr {p p' : Printer} (h : p'.deviceId = p.deviceId) :
    p'.deviceIdReply = p.deviceIdReply := by
  unfold deviceIdReply
  rw [h]

/-- No handler of a printer changes the ID or takes data. -/
theorem spares_deviceId {category : Category} {code : UInt8} {h : NamedHandler Printer}
    (hlookup : handlers.lookup category code = some h) (setup : Setup) (p : Printer) :
    (h.handler setup p).profile.deviceId = p.deviceId ∧
      (h.handler setup p).reply.receives = false := by
  obtain ⟨s, hs, rfl, -⟩ := HandlerTable.mem_of_lookup hlookup
  simp only [List.mem_cons, List.not_mem_nil, or_false] at hs
  rcases hs with rfl | rfl | rfl
  · simp only [HandlerTable.Step.handler, getDeviceId]
    split <;> exact ⟨rfl, rfl⟩
  · simp only [HandlerTable.Step.handler, getPortStatus]
    split <;> exact ⟨rfl, rfl⟩
  · simp only [HandlerTable.Step.handler, softReset]
    split <;> exact ⟨rfl, rfl⟩

/-- Nothing that a printer goes through changes its ID. -/
theorem lasting_deviceId : Lasting handlers fun p p' : Printer => p'.deviceId = p.deviceId where
  refl _ := rfl
  trans h₁ h₂ := h₂.trans h₁
  endpointData _ _ := rfl
  setInterface _ _ _ := rfl
  onReset _ := rfl
  handled hlookup setup p := (spares_deviceId hlookup setup p).1
  received {_ _ _ setup p _} hlookup hreply _ _ :=
    absurd hreply (Reply.ne_receive (spares_deviceId hlookup setup p).2 _)

end Printer

/-! ### Reading it -/

/-- A packet that asks a printer for its device ID, whichever part of it and however much. -/
structure Setup.AsksDeviceId (setup : Setup) : Prop where
  category : setup.category = .ofClass
  request : setup.request = 0
  direction : setup.direction = .toHost

/-- What a call writes on endpoint 0. -/
def Call.written : Call → Bytes
  | ep0Write data _ => data
  | _ => []

namespace Gadget

variable {σ P : Type} [Channel σ]

/-- What a host receives as the answer to a packet. -/
def received [DeviceProfile P] (g : Gadget (Traced σ) P) (setup : Setup) : Bytes :=
  ((g.does (handleEvent (.control setup))).2.calls.drop g.calls.length).flatMap Call.written

theorem received_of_sends [DeviceProfile P] {g : Gadget (Traced σ) P} {setup : Setup} {data : Bytes}
    (h : g.Sends setup data) : g.received setup = data.take setup.length.toNat := by
  obtain ⟨result, hcalls⟩ := h
  unfold received
  rw [hcalls, List.drop_left]
  exact List.append_nil _

/-- A move that leaves the ID of a printer alone, whatever else it does to the printer from outside. -/
def SameId : Move (Traced σ) Printer → Prop
  | .adjust f => ∀ p, (f p).deviceId = p.deviceId
  | _ => True

theorem inherits_sameId {g : Gadget (Traced σ) Printer} (hg : g.handlers = Printer.handlers)
    (ms : List (Move (Traced σ) Printer)) (hms : ∀ m ∈ ms, SameId m) :
    Inherits (fun p p' => p'.deviceId = p.deviceId) g (g.after ms) :=
  Lasting.after (hg ▸ Printer.lasting_deviceId) fun f hf => hms (.adjust f) hf

theorem sends_deviceId {g : Gadget (Traced σ) Printer} (hg : g.handlers = Printer.handlers)
    {setup : Setup} (h : setup.AsksDeviceId) : g.Sends setup g.profile.deviceIdReply := by
  obtain ⟨hcategory, hrequest, hdirection⟩ := h
  have hlookup : g.handlers.lookup setup.category setup.request =
      some ⟨"GET_DEVICE_ID", Printer.getDeviceId⟩ := by
    rw [hg, hcategory, hrequest]
    rfl
  exact sends_routed (by simp [hcategory]) hlookup hdirection
    (congrArg Handled.reply (if_pos hdirection))

/-- How the ID of a printer is read. -/
structure ReadsDeviceId (g : Gadget (Traced σ) Printer) (p : Printer) : Prop where
  /-- The answer is the reply, cut to the length that is asked for. -/
  answer (setup : Setup) : setup.AsksDeviceId → g.Sends setup p.deviceIdReply
  /-- As much is received as there is and is asked for. -/
  length (setup : Setup) : setup.AsksDeviceId →
    (g.received setup).length = min setup.length.toNat p.replyLength
  /-- A host that reads two bytes and, whatever happens in between, as much as they announce receives
  that much, and it is the whole reply. -/
  twoSteps (first second : Setup) (ms : List (Move (Traced σ) Printer)) : first.AsksDeviceId →
    first.length = 2 → second.AsksDeviceId →
    second.length.toNat = Bytes.announced (g.received first) → (∀ m ∈ ms, SameId m) →
    let g' := (g.next (.event (.control first))).after ms
    (g'.received second).length = second.length.toNat ∧ g'.received second = p.deviceIdReply

/-- A printer with an ID is read so. -/
theorem readsDeviceId_of_profile {g : Gadget (Traced σ) Printer} {p : Printer}
    (hg : g.handlers = Printer.handlers) (hid : g.profile.deviceId = p.deviceId) :
    g.ReadsDeviceId p := by
  have hsends : ∀ {g : Gadget (Traced σ) Printer}, g.handlers = Printer.handlers →
      g.profile.deviceId = p.deviceId → ∀ setup : Setup, setup.AsksDeviceId →
      g.Sends setup p.deviceIdReply := by
    intro g hg hid setup hasks
    rw [← Printer.deviceIdReply_congr hid]
    exact sends_deviceId hg hasks
  refine ⟨hsends hg hid, ?length, ?twoSteps⟩
  case length =>
    intro setup hasks
    rw [received_of_sends (hsends hg hid setup hasks), List.length_take, p.length_deviceIdReply]
  case twoSteps =>
    intro first second ms hfirst htwo hsecond hannounced hms g'
    have hlater : Inherits (fun p p' => p'.deviceId = p.deviceId) g g' :=
      inherits_sameId hg (.event (.control first) :: ms) (List.forall_mem_cons.mpr ⟨trivial, hms⟩)
    have hreceived := received_of_sends (hsends (hlater.handlers.trans hg)
      (hlater.profile.trans hid) second hsecond)
    have hlength : second.length.toNat = p.deviceIdReply.length := by
      rw [hannounced, received_of_sends (hsends hg hid first hfirst), htwo, p.length_deviceIdReply]
      exact p.announced_take_two
    rw [hlength, List.take_length] at hreceived
    exact ⟨(congrArg List.length hreceived).trans hlength.symm, hreceived⟩

/-- **The device ID can be read in two steps.** -/
theorem reads_device_id (channel : Traced σ) (depot : Depot) (p : Printer) (settings : Settings)
    {ms : List (Move (Traced σ) Printer)} (hms : ∀ m ∈ ms, SameId m) :
    ((new channel depot p settings).after ms).ReadsDeviceId p ∧
      p.deviceIdReply.length = p.replyLength ∧ p.deviceIdReply.announced = p.replyLength ∧
      p.deviceIdReply.drop 2 = (Utf8.encode p.deviceId).take (p.replyLength - 2) ∧
      p.checkedReply = some p.deviceIdReply ∧
      ∀ n, p.deviceIdReply.front? (min p.deviceIdReply.length n) = some (p.deviceIdReply.take n) := by
  obtain ⟨hid, hhandlers⟩ := inherits_sameId (g := new channel depot p settings) rfl ms hms
  exact ⟨readsDeviceId_of_profile hhandlers hid, p.length_deviceIdReply, p.announced_deviceIdReply,
    rfl, p.checkedReply_eq, fun n => Bytes.front?_min n _⟩

/-- A printer with a short ID. -/
def terse : Printer := { deviceId := "AB" }

/-- The packet that asks a printer for so much of its ID. -/
def askId (length : UInt16) : Setup := ⟨RequestType.toHost.apply .ofClass, 0, 0, 0, length⟩

/-- Two bytes announce four, and four are received, with a reset in between. -/
theorem terse_read :
    let g := (new ({ inner := Bus.idle } : Traced Bus) {} terse .standard).after [.start, .event .connect]
    g.received (askId 2) = [0, 4] ∧
      ((g.next (.event (.control (askId 2)))).after [.event .reset]).received (askId 4) =
        [0, 4, 65, 66] := by
  intro g
  have hms : ∀ m ∈ ([.start, .event .connect] : List (Move (Traced Bus) Printer)), SameId m := by
    simp [SameId]
  have hasks : ∀ length, (askId length).AsksDeviceId := fun _ => ⟨rfl, rfl, rfl⟩
  obtain ⟨hreads, -⟩ := reads_device_id ({ inner := Bus.idle } : Traced Bus) {} terse .standard hms
  have hfirst : g.received (askId 2) = [0, 4] := received_of_sends (hreads.answer _ (hasks 2))
  have hannounced : (askId 4).length.toNat = Bytes.announced (g.received (askId 2)) := by
    rw [hfirst]
    rfl
  obtain ⟨-, hsecond⟩ := hreads.twoSteps (askId 2) (askId 4) [.event .reset] (hasks 2) rfl
    (hasks 4) hannounced (by simp [SameId])
  exact ⟨hfirst, hsecond⟩

end Gadget

end UsbPeripheral
