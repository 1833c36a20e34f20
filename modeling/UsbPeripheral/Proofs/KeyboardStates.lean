import UsbPeripheral.Profiles.Keyboard
import UsbPeripheral.Proofs.DataStages
import UsbPeripheral.Proofs.History
import UsbPeripheral.Proofs.Routes

/-! # A keyboard has what its host wrote last

What a keyboard knows of its host's wishes is told from the **transactions** that it had: the events that
it handled, the newest first, with the data stages that the host sent along.

* The idle rate is that of the last SET_IDLE since the last reset or disconnect (`idleIn`).
* The protocol is that of the last SET_PROTOCOL since then that was not stalled (`protocolIn`).
* The lights are the first byte of the last report that had one, and outlast resets (`ledsIn`).

After every run without a failure a keyboard answers so, and nothing else changes what it answers
(`tells_last_written`). -/

namespace UsbPeripheral

/-! ### Transactions -/

/-- An event that was handled, with the data stage that was there for it. -/
structure Transaction (P : Type) extends Exchange P where
  dataStage : Option Bytes

/-- The packet of a class request. -/
def BusEvent.request? (code : UInt8) : BusEvent → Option Setup
  | .control setup =>
    if setup.category = .ofClass ∧ setup.request = code then some setup else none
  | _ => none

/-- The packet of a class request by which the host tells the device something. -/
def BusEvent.order? (code : UInt8) (event : BusEvent) : Option Setup :=
  (event.request? code).bind fun setup => if setup.direction = .toDevice then some setup else none

/-- Whether an event is a request by which the host can alter the state of a keyboard: a SET_REPORT, a
SET_IDLE or a SET_PROTOCOL. -/
def BusEvent.Alters : BusEvent → Prop
  | .control setup =>
    setup.category = .ofClass ∧ setup.direction = .toDevice ∧
      (setup.request = 0x09 ∨ setup.request = 0x0a ∨ setup.request = 0x0b)
  | _ => False

namespace Transaction

variable {P : Type} (x : Transaction P)

/-- Whether the device was reset or disconnected. -/
def forgets : Bool :=
  match x.event with
  | .reset | .disconnect => true
  | _ => false

/-- The idle rate that a SET_IDLE brings: the high byte of its value. -/
def idle? : Option UInt8 := (x.event.order? 0x0a).map fun setup => Bytes.high setup.value

/-- The protocol that a SET_PROTOCOL brings, unless it is stalled: the low byte of its value. -/
def protocol? : Option UInt8 :=
  if x.stalled then none else (x.event.request? 0x0b).map fun setup => Bytes.low setup.value

/-- The lights that a SET_REPORT brings: the first byte of its data stage, as far as it was announced. -/
def leds? : Option UInt8 :=
  (x.event.order? 0x09).bind fun setup => ((x.dataStage.getD []).take setup.length.toNat).head?

/-- What a transaction makes of a keyboard. -/
def onKeyboard (k : Keyboard) : Keyboard :=
  if x.forgets then { k with idle := 125, protocol := 1 }
  else
    { leds := x.leds?.getD k.leds, idle := x.idle?.getD k.idle, protocol := x.protocol?.getD k.protocol }

end Transaction

/-! ### Reading transactions -/

section reading

variable (h : List (Transaction Keyboard))

/-- What happened since the last reset or disconnect. -/
def sinceReset : List (Transaction Keyboard) := h.takeWhile fun x => !x.forgets

/-- The idle rate that was set last, or 500 ms. -/
def idleIn : UInt8 := ((sinceReset h).findSome? (·.idle?)).getD 125

/-- The protocol that was set last, or that of reports. -/
def protocolIn : UInt8 := ((sinceReset h).findSome? (·.protocol?)).getD 1

/-- The lights that were set last. -/
def ledsIn : UInt8 := (h.findSome? (·.leds?)).getD 0

/-- The keyboard that transactions make. -/
def keyboardIn : Keyboard := { leds := ledsIn h, idle := idleIn h, protocol := protocolIn h }

theorem sinceReset_cons (x : Transaction Keyboard) :
    sinceReset (x :: h) = if x.forgets then [] else x :: sinceReset h := by
  unfold sinceReset
  rw [List.takeWhile_cons]
  cases x.forgets <;> rfl

/-- A reset brings no lights. -/
theorem leds?_of_forgets {x : Transaction Keyboard} (hx : x.forgets = true) : x.leds? = none := by
  unfold Transaction.forgets at hx
  split at hx
  · rename_i hevent
    simp [Transaction.leds?, hevent, BusEvent.order?, BusEvent.request?]
  · rename_i hevent
    simp [Transaction.leds?, hevent, BusEvent.order?, BusEvent.request?]
  · cases hx

/-- One more transaction makes of the keyboard what it makes of any. -/
theorem keyboardIn_cons (x : Transaction Keyboard) :
    keyboardIn (x :: h) = x.onKeyboard (keyboardIn h) := by
  unfold keyboardIn Transaction.onKeyboard ledsIn idleIn protocolIn
  rw [sinceReset_cons]
  cases hx : x.forgets with
  | true =>
      rw [List.findSome?_cons, leds?_of_forgets hx]
      rfl
  | false =>
      simp only [Bool.false_eq_true, if_false, List.findSome?_cons]
      cases x.leds? <;> cases x.idle? <;> cases x.protocol? <;> rfl

end reading

/-! ### Requests to a keyboard -/

namespace Keyboard

open HandlerTable

/-- Standard requests leave a keyboard as it is. -/
theorem sturdy_eq : Sturdy (Eq : Keyboard → Keyboard → Prop) where
  refl _ := rfl
  trans := Eq.trans
  endpointData _ _ := rfl
  setInterface _ _ _ := rfl

/-- The lights are the first byte of a report, if it has one. -/
theorem outputReport_eq (setup : Setup) (data : Bytes) (k : Keyboard) :
    (outputReport setup data k).1 = { k with leds := data.head?.getD k.leds } := by
  cases data <;> rfl

/-- Handlers by which the host reads change nothing and take no data. -/
theorem quiet_of_lookup {setup : Setup} {k : Keyboard} {h : NamedHandler Keyboard}
    (hprotocol : setup.request ≠ 0x0b) (hidle : setup.request ≠ 0x0a)
    (hreport : setup.request ≠ 0x09)
    (hlookup : handlers.lookup .ofClass setup.request = some h) :
    (h.handler setup k).profile = k ∧ (h.handler setup k).reply.receives = false := by
  obtain ⟨s, hs, rfl, hkey⟩ := mem_of_lookup hlookup
  simp only [List.mem_cons, List.not_mem_nil, or_false] at hs
  rcases hs with rfl | rfl | rfl | rfl | rfl | rfl
  · simp only [Step.handler, getReport]
    split <;> exact ⟨rfl, rfl⟩
  · simp only [Step.handler, getIdle]
    split <;> exact ⟨rfl, rfl⟩
  · simp only [Step.handler, getProtocol]
    split <;> exact ⟨rfl, rfl⟩
  · exact absurd (congrArg Prod.snd (hkey _ rfl)).symm hreport
  · exact absurd (congrArg Prod.snd (hkey _ rfl)).symm hidle
  · exact absurd (congrArg Prod.snd (hkey _ rfl)).symm hprotocol

/-- A keyboard speaks one of the two protocols that there are. -/
def SpeaksKnown (k : Keyboard) : Prop := k.protocol = 0 ∨ k.protocol = 1

/-- The data that a keyboard takes is that of output reports. -/
theorem receives_of_lookup {category : Category} {code : UInt8} {h : NamedHandler Keyboard}
    {setup : Setup} {k : Keyboard} {handler : Setup → Bytes → Keyboard → Keyboard × List Note}
    (hlookup : handlers.lookup category code = some h)
    (hreply : (h.handler setup k).reply = .receive handler) : handler = outputReport := by
  obtain ⟨s, hs, rfl, -⟩ := mem_of_lookup hlookup
  simp only [List.mem_cons, List.not_mem_nil, or_false] at hs
  rcases hs with rfl | rfl | rfl | rfl | rfl | rfl
  · simp only [Step.handler, getReport] at hreply
    split at hreply <;> cases hreply
  · simp only [Step.handler, getIdle] at hreply
    split at hreply <;> cases hreply
  · simp only [Step.handler, getProtocol] at hreply
    split at hreply <;> cases hreply
  · simp only [Step.handler, setReport] at hreply
    split at hreply
    · cases hreply
      rfl
    · cases hreply
  · simp only [Step.handler, setIdle] at hreply
    split at hreply <;> cases hreply
  · simp only [Step.handler, setProtocol] at hreply
    split at hreply <;> cases hreply

/-- Nothing that a keyboard goes through brings it to a protocol that there is not. -/
theorem lasting_speaksKnown : Lasting handlers fun k k' : Keyboard =>
    k.SpeaksKnown → k'.SpeaksKnown where
  refl _ := id
  trans h₁ h₂ := h₂ ∘ h₁
  endpointData _ _ := id
  setInterface _ _ _ := id
  onReset _ _ := .inr rfl
  handled hlookup setup k hk := by
    obtain ⟨s, hs, rfl, -⟩ := mem_of_lookup hlookup
    simp only [List.mem_cons, List.not_mem_nil, or_false] at hs
    rcases hs with rfl | rfl | rfl | rfl | rfl | rfl
    · simp only [Step.handler, getReport]
      split <;> exact hk
    · simp only [Step.handler, getIdle]
      split <;> exact hk
    · simp only [Step.handler, getProtocol]
      split <;> exact hk
    · simp only [Step.handler, setReport]
      split <;> exact hk
    · simp only [Step.handler, setIdle]
      split <;> exact hk
    · simp only [Step.handler, setProtocol]
      split
      · rename_i hvalid
        exact hvalid.2
      · exact hk
  received hlookup hreply data k' hk := by
    rw [receives_of_lookup hlookup hreply, outputReport_eq]
    exact hk

theorem lookup_other {category : Category} (h : category ≠ .ofClass) (code : UInt8) :
    handlers.lookup category code = none := by
  cases category with
  | ofClass => exact absurd rfl h
  | _ => rfl

end Keyboard

namespace Transaction

variable {x : Transaction Keyboard} {setup : Setup}

/-- What a packet makes of a keyboard is told by its code. -/
theorem onKeyboard_control (hevent : x.event = .control setup) (hcategory : setup.category = .ofClass)
    (k : Keyboard) :
    x.onKeyboard k =
      if setup.request = 0x0b then
        { k with protocol := if x.stalled then k.protocol else Bytes.low setup.value }
      else if setup.direction ≠ .toDevice then k
      else if setup.request = 0x0a then { k with idle := Bytes.high setup.value }
      else if setup.request = 0x09 then
        { k with leds := ((x.dataStage.getD []).take setup.length.toNat).head?.getD k.leds }
      else k := by
  have hrequest : ∀ code, x.event.request? code =
      if setup.request = code then some setup else none := by
    intro code
    rw [hevent]
    simp [BusEvent.request?, hcategory]
  have hforgets : x.forgets = false := by
    unfold forgets
    rw [hevent]
  unfold onKeyboard leds? idle? protocol? BusEvent.order?
  rw [hforgets, hrequest, hrequest, hrequest]
  by_cases hprotocol : setup.request = 0x0b
  · cases x.stalled <;> simp [hprotocol]
  · by_cases hidle : setup.request = 0x0a
    · by_cases hdirection : setup.direction = .toDevice <;> simp [hidle, hdirection]
    · by_cases hreport : setup.request = 0x09
      · by_cases hdirection : setup.direction = .toDevice <;> simp [hreport, hdirection]
      · simp [hprotocol, hidle, hreport]

/-- An event without a class request makes nothing of a keyboard, unless it resets it. -/
theorem onKeyboard_silent (hforgets : x.forgets = false)
    (hsilent : ∀ code, x.event.request? code = none) (k : Keyboard) : x.onKeyboard k = k := by
  simp [onKeyboard, leds?, idle?, protocol?, BusEvent.order?, hforgets, hsilent]

end Transaction

/-- An event that is fetched comes with its data stage. -/
theorem Bus.dataStage_of_fetch {b b' : Bus} {record : EventRecord}
    (h : Channel.fetchEvent b = (.ok record, b')) :
    b'.dataStage = b.events.head?.bind (·.dataStage) := by
  have h : b.fetchEvent = (.ok record, b') := h
  unfold Bus.fetchEvent at h
  split at h
  · rename_i event rest hevents
    cases h
    rw [hevents]
    rfl
  · cases h

namespace Gadget

/-- The transaction that handling an event is. -/
def transacts {P : Type} [DeviceProfile P] (g : Gadget (Traced Bus) P) (event : BusEvent) :
    Transaction P where
  profile := g.profile
  event := event
  stalled := ((g.does (handleEvent event)).2.calls.drop g.calls.length).any Call.isStall
  dataStage := g.around.channel.inner.dataStage

/-- What is handed over on a bus is the data stage, as far as it was announced. -/
theorem handOver_receive {P : Type} {setup : Setup} {handler : Setup → Bytes → P → P × List Note}
    (hdirection : setup.direction = .toDevice) (channel : Traced Bus) (p : P) :
    handOver setup (.receive handler)
        ((stage setup (.receive handler : Reply P)).operate channel).1 p =
      (handler setup ((channel.inner.dataStage.getD []).take setup.length.toNat) p).1 := by
  have hstage : stage setup (.receive handler : Reply P) = .read setup.length.toNat := by
    unfold stage
    rw [hdirection]
  have hread : ((Stage.read setup.length.toNat).operate channel).1 =
      .ok ((channel.inner.dataStage.getD []).take setup.length.toNat) :=
    (channel.inner.ep0Read_eq _).1
  rw [hstage, hread]
  unfold handOver
  rw [hdirection]

/-- A keyboard is what a transaction makes of it.  What is stalled makes nothing of it, and so does every
other request. -/
structure Meets (x : Transaction Keyboard) (k k' : Keyboard) : Prop where
  told : k' = x.onKeyboard k
  spared : x.forgets = false → x.stalled = true ∨ ¬ x.event.Alters → k' = k

section packets

variable {g : Gadget (Traced Bus) Keyboard} (hg : g.handlers = Keyboard.handlers) {setup : Setup}
include hg

/-- What a handler of a class request leaves. -/
theorem keyboard_routed {h : NamedHandler Keyboard} (hcategory : setup.category = .ofClass)
    (hlookup : Keyboard.handlers.lookup .ofClass setup.request = some h) :
    let handled := h.handler setup g.profile
    (g.does (handleEvent (.control setup))).2.profile = handOver setup handled.reply
      ((stage setup handled.reply).operate g.around.channel).1 handled.profile ∧
    ((g.transacts (.control setup)).stalled = true ↔ stage setup handled.reply = .stall) := by
  have hstandard : setup.category ≠ .standard := by simp [hcategory]
  have hfound : g.handlers.lookup setup.category setup.request = some h := by
    rw [hg, hcategory, hlookup]
  exact ⟨(profile_routed hstandard hfound).profile, any_isStall_routed hstandard hfound⟩

/-- A request that is refused leaves a keyboard alone. -/
theorem meets_refused {h : NamedHandler Keyboard} (hcategory : setup.category = .ofClass)
    (hlookup : Keyboard.handlers.lookup .ofClass setup.request = some h)
    (hhandled : h.handler setup g.profile = ⟨.stall, g.profile, []⟩)
    (htold : (g.transacts (.control setup)).stalled = true →
      (g.transacts (.control setup)).onKeyboard g.profile = g.profile) :
    Meets (g.transacts (.control setup)) g.profile
      (g.does (handleEvent (.control setup))).2.profile := by
  obtain ⟨hprofile, hstalled⟩ := keyboard_routed hg hcategory hlookup
  rw [hhandled] at hprofile hstalled
  exact ⟨hprofile.trans (htold (hstalled.mpr rfl)).symm, fun _ _ => hprofile⟩

/-- A request that is served is not stalled. -/
theorem meets_served {h : NamedHandler Keyboard} {handled : Handled Keyboard}
    (hcategory : setup.category = .ofClass)
    (hlookup : Keyboard.handlers.lookup .ofClass setup.request = some h)
    (hhandled : h.handler setup g.profile = handled) (halters : (BusEvent.control setup).Alters)
    (hserved : stage setup handled.reply ≠ .stall)
    (htold : (g.transacts (.control setup)).stalled = false →
      handOver setup handled.reply ((stage setup handled.reply).operate g.around.channel).1
        handled.profile = (g.transacts (.control setup)).onKeyboard g.profile) :
    Meets (g.transacts (.control setup)) g.profile
      (g.does (handleEvent (.control setup))).2.profile := by
  obtain ⟨hprofile, hstalled⟩ := keyboard_routed hg hcategory hlookup
  rw [hhandled] at hprofile hstalled
  have hnot : (g.transacts (.control setup)).stalled = false :=
    eq_false_of_ne_true fun h => hserved (hstalled.mp h)
  refine ⟨hprofile.trans (htold hnot), fun _ h => ?_⟩
  rcases h with hstall | hother
  · rw [hnot] at hstall
    cases hstall
  · exact absurd halters hother

theorem meets_setProtocol (hcategory : setup.category = .ofClass) (hrequest : setup.request = 0x0b) :
    Meets (g.transacts (.control setup)) g.profile
      (g.does (handleEvent (.control setup))).2.profile := by
  have hlookup : Keyboard.handlers.lookup .ofClass setup.request =
      some ⟨"HID_REQ_SET_PROTOCOL", Keyboard.setProtocol⟩ := by
    rw [hrequest]
    rfl
  have htold := Transaction.onKeyboard_control (x := g.transacts (.control setup)) rfl hcategory
    g.profile
  rw [if_pos hrequest] at htold
  by_cases hvalid : setup.direction = .toDevice ∧
      (Bytes.low setup.value = 0 ∨ Bytes.low setup.value = 1)
  · have halters : (BusEvent.control setup).Alters :=
      ⟨hcategory, hvalid.1, .inr (.inr hrequest)⟩
    refine meets_served hg hcategory hlookup (if_pos hvalid) halters ?_ fun hserved => ?_
    · simp [stage, hvalid.1]
    · rw [htold, hserved]
      rfl
  · refine meets_refused hg hcategory hlookup (if_neg hvalid) fun hstalled => ?_
    rw [htold, hstalled]
    rfl

theorem meets_setIdle (hcategory : setup.category = .ofClass) (hrequest : setup.request = 0x0a) :
    Meets (g.transacts (.control setup)) g.profile
      (g.does (handleEvent (.control setup))).2.profile := by
  have hlookup : Keyboard.handlers.lookup .ofClass setup.request =
      some ⟨"HID_REQ_SET_IDLE", Keyboard.setIdle⟩ := by
    rw [hrequest]
    rfl
  have htold := Transaction.onKeyboard_control (x := g.transacts (.control setup)) rfl hcategory
    g.profile
  by_cases hdirection : setup.direction = .toDevice
  · have halters : (BusEvent.control setup).Alters := ⟨hcategory, hdirection, .inr (.inl hrequest)⟩
    refine meets_served hg hcategory hlookup (if_pos hdirection) halters ?_ fun _ => ?_
    · simp [stage, hdirection]
    · rw [htold]
      simp [hrequest, hdirection]
      rfl
  · refine meets_refused hg hcategory hlookup (if_neg hdirection) fun _ => ?_
    rw [htold]
    simp [hrequest, hdirection]

theorem meets_setReport (hcategory : setup.category = .ofClass) (hrequest : setup.request = 0x09) :
    Meets (g.transacts (.control setup)) g.profile
      (g.does (handleEvent (.control setup))).2.profile := by
  have hlookup : Keyboard.handlers.lookup .ofClass setup.request =
      some ⟨"HID_REQ_SET_REPORT", Keyboard.setReport⟩ := by
    rw [hrequest]
    rfl
  have htold := Transaction.onKeyboard_control (x := g.transacts (.control setup)) rfl hcategory
    g.profile
  by_cases hdirection : setup.direction = .toDevice
  · have halters : (BusEvent.control setup).Alters := ⟨hcategory, hdirection, .inl hrequest⟩
    refine meets_served hg hcategory hlookup (if_pos hdirection) halters ?_ fun _ => ?_
    · simp [stage, hdirection]
    · rw [htold, handOver_receive hdirection, Keyboard.outputReport_eq]
      simp [hrequest, hdirection]
      rfl
  · refine meets_refused hg hcategory hlookup (if_neg hdirection) fun _ => ?_
    rw [htold]
    simp [hrequest, hdirection]

theorem meets_reading (hcategory : setup.category = .ofClass) (hprotocol : setup.request ≠ 0x0b)
    (hidle : setup.request ≠ 0x0a) (hreport : setup.request ≠ 0x09) :
    Meets (g.transacts (.control setup)) g.profile
      (g.does (handleEvent (.control setup))).2.profile := by
  have htold := Transaction.onKeyboard_control (x := g.transacts (.control setup)) rfl hcategory
    g.profile
  rw [if_neg hprotocol, if_neg hidle, if_neg hreport, ite_self] at htold
  have hsame : (g.does (handleEvent (.control setup))).2.profile = g.profile := by
    cases hlookup : Keyboard.handlers.lookup .ofClass setup.request with
    | none =>
        have hnone : g.handlers.lookup setup.category setup.request = none := by
          rw [hg, hcategory, hlookup]
        exact (inherits_unrouted (by simp [hcategory]) hnone).profile.symm
    | some h =>
        obtain ⟨hprofile, -⟩ := keyboard_routed hg hcategory hlookup
        obtain ⟨hkept, hnone⟩ := Keyboard.quiet_of_lookup (k := g.profile) hprotocol hidle hreport
          hlookup
        rw [hprofile, hkept, handOver_of_none fun handler h => absurd h (Reply.ne_receive hnone handler)]
  exact ⟨hsame.trans htold.symm, fun _ _ => hsame⟩

/-- What a packet makes of a keyboard. -/
theorem meets_packet (setup : Setup) :
    Meets (g.transacts (.control setup)) g.profile
      (g.does (handleEvent (.control setup))).2.profile := by
  by_cases hcategory : setup.category = .ofClass
  · by_cases hprotocol : setup.request = 0x0b
    · exact meets_setProtocol hg hcategory hprotocol
    · by_cases hidle : setup.request = 0x0a
      · exact meets_setIdle hg hcategory hidle
      · by_cases hreport : setup.request = 0x09
        · exact meets_setReport hg hcategory hreport
        · exact meets_reading hg hcategory hprotocol hidle hreport
  · have hsame : (g.does (handleEvent (.control setup))).2.profile = g.profile := by
      by_cases hstandard : setup.category = .standard
      · exact (Keyboard.sturdy_eq.packet g hstandard).profile.symm
      · have hnone : g.handlers.lookup setup.category setup.request = none := by
          rw [hg, Keyboard.lookup_other hcategory]
        exact (inherits_unrouted hstandard hnone).profile.symm
    have htold := Transaction.onKeyboard_silent (x := g.transacts (.control setup)) rfl
      (fun _ => if_neg fun h => hcategory h.1) g.profile
    exact ⟨hsame.trans htold.symm, fun _ _ => hsame⟩

/-- What an event that is handled makes of a keyboard. -/
theorem meets_event {event : BusEvent} (hok : (g.does (handleEvent event)).1 = .ok ()) :
    Meets (g.transacts event) g.profile (g.does (handleEvent event)).2.profile := by
  by_cases hevent : ∃ setup, event = .control setup
  · obtain ⟨setup, rfl⟩ := hevent
    exact meets_packet hg setup
  · have hrenews := renews_handled g fun setup h => hevent ⟨setup, h⟩
    have hprofile : (g.does (handleEvent event)).2.profile = event.onClass g.profile := by
      rcases hrenews.profile with hprofile | ⟨-, hfailed⟩
      · exact hprofile
      · exact absurd hok hfailed
    rw [hprofile]
    cases event with
    | control setup => exact absurd ⟨setup, rfl⟩ hevent
    | reset => exact ⟨rfl, nofun⟩
    | disconnect => exact ⟨rfl, nofun⟩
    | _ => exact ⟨(Transaction.onKeyboard_silent rfl (fun _ => rfl) g.profile).symm, fun _ _ => rfl⟩

end packets

/-! ### Runs -/

section runs

variable {P : Type} [DeviceProfile P]

/-- The data stage that is there for the event of a move. -/
def stageFor (g : Gadget (Traced Bus) P) : Move (Traced Bus) P → Option Bytes
  | .step => g.around.channel.inner.events.head?.bind (·.dataStage)
  | _ => g.around.channel.inner.dataStage

/-- The transaction of a move. -/
def transaction? (g : Gadget (Traced Bus) P) (m : Move (Traced Bus) P) : Option (Transaction P) :=
  (g.exchange? m).map fun x => { toExchange := x, dataStage := g.stageFor m }

/-- The transactions of a run, the newest first. -/
def transactions (g : Gadget (Traced Bus) P) : List (Move (Traced Bus) P) → List (Transaction P)
  | [] => []
  | m :: ms => (g.next m).transactions ms ++ (g.transaction? m).toList

/-- The transaction of a step is that of handling the event that was fetched. -/
theorem transaction?_step {g : Gadget (Traced Bus) P}
    (hok : (g.does Move.step.dispatch).1 = .ok ()) :
    ∃ (record : EventRecord) (channel : Traced Bus),
      (g.withChannel channel).does (handleEvent record.decode) = (.ok (), g.next .step) ∧
      g.transaction? .step = some ((g.withChannel channel).transacts record.decode) := by
  obtain ⟨record, channel, calls, hfetch, hhandled, hcalls, hexchange⟩ := exchange_step hok
  have hstage : channel.inner.dataStage = g.stageFor .step :=
    Bus.dataStage_of_fetch (Traced.eq_of_through hfetch)
  refine ⟨record, channel, hhandled, ?_⟩
  unfold transaction? transacts
  rw [hexchange, hhandled, ← hstage, hcalls, show (g.withChannel channel).calls = channel.calls from rfl,
    List.drop_left]
  rfl

end runs

/-- A move that leaves the device class alone from outside. -/
def Untouched {σ P : Type} (m : Move σ P) : Prop := ∀ f, m ≠ .adjust f

section keyboard

variable {g : Gadget (Traced Bus) Keyboard} (hg : g.handlers = Keyboard.handlers)
include hg

/-- A keyboard after a move that does not fail is what its transaction makes of it, if it has one. -/
theorem meets_next {m : Move (Traced Bus) Keyboard} (hm : Untouched m)
    (hok : (g.does m.dispatch).1 = .ok ()) :
    match g.transaction? m with
    | some x => Meets x g.profile (g.next m).profile
    | none => (g.next m).profile = g.profile := by
  cases m with
  | event event => exact meets_event hg hok
  | step =>
      obtain ⟨record, channel, hhandled, htransaction⟩ := transaction?_step hok
      have hmeets := meets_event (g := g.withChannel channel) hg (congrArg Prod.fst hhandled)
      rw [hhandled] at hmeets
      rw [htransaction]
      exact hmeets
  | adjust f => exact absurd rfl (hm f)
  | _ =>
      refine (inherits_next g ?_).profile.symm
      exact ⟨nofun, nofun, nofun⟩

/-- If a keyboard is what transactions make, it is so after every run without a failure. -/
theorem keyboard_after {h : List (Transaction Keyboard)} {ms : List (Move (Traced Bus) Keyboard)}
    (hkeyboard : g.profile = keyboardIn h) (hms : ∀ m ∈ ms, Untouched m) (hsmooth : g.Smooth ms) :
    (g.after ms).profile = keyboardIn (g.transactions ms ++ h) := by
  induction ms generalizing g h with
  | nil => exact hkeyboard
  | cons m ms ih =>
      have hnext : (g.next m).profile = keyboardIn ((g.transaction? m).toList ++ h) := by
        have hmeets := meets_next hg (hms m List.mem_cons_self) hsmooth.1
        cases htransaction : g.transaction? m with
        | none =>
            rw [htransaction] at hmeets
            exact hmeets.trans hkeyboard
        | some x =>
            rw [htransaction] at hmeets
            rw [hmeets.told, hkeyboard]
            exact (keyboardIn_cons h x).symm
      have hhandlers : (g.next m).handlers = Keyboard.handlers := (g.handlers_after [m]).trans hg
      have hrest := ih hhandlers hnext (fun n hn => hms n (List.mem_cons_of_mem _ hn)) hsmooth.2
      rw [transactions, List.append_assoc]
      exact hrest

/-- A host that asks for the idle rate gets it. -/
theorem sends_idle {setup : Setup} (hcategory : setup.category = .ofClass)
    (hrequest : setup.request = 0x02) (hdirection : setup.direction = .toHost) :
    g.Sends setup [g.profile.idle] := by
  have hlookup : g.handlers.lookup setup.category setup.request =
      some ⟨"HID_REQ_GET_IDLE", Keyboard.getIdle⟩ := by
    rw [hg, hcategory, hrequest]
    rfl
  exact sends_routed (by simp [hcategory]) hlookup hdirection
    (congrArg Handled.reply (if_pos hdirection))

/-- A host that asks for the protocol gets it. -/
theorem sends_protocol {setup : Setup} (hcategory : setup.category = .ofClass)
    (hrequest : setup.request = 0x03) (hdirection : setup.direction = .toHost) :
    g.Sends setup [g.profile.protocol] := by
  have hlookup : g.handlers.lookup setup.category setup.request =
      some ⟨"HID_REQ_GET_PROTOCOL", Keyboard.getProtocol⟩ := by
    rw [hg, hcategory, hrequest]
    rfl
  exact sends_routed (by simp [hcategory]) hlookup hdirection
    (congrArg Handled.reply (if_pos hdirection))

end keyboard

/-- What a keyboard has and answers is what the transactions that it had tell, and no others can alter
it. -/
structure TellsLastWritten (g : Gadget (Traced Bus) Keyboard) (h : List (Transaction Keyboard)) :
    Prop where
  /-- GET_IDLE. -/
  idle (setup : Setup) : setup.category = .ofClass → setup.request = 0x02 →
    setup.direction = .toHost → g.Sends setup [idleIn h]
  /-- GET_PROTOCOL. -/
  protocol (setup : Setup) : setup.category = .ofClass → setup.request = 0x03 →
    setup.direction = .toHost → g.Sends setup [protocolIn h]
  protocol_known : protocolIn h = 0 ∨ protocolIn h = 1
  leds : g.profile.leds = ledsIn h
  /-- The lights outlast resets. -/
  leds_kept (m : Move (Traced Bus) Keyboard) : Untouched m → (g.does m.dispatch).1 = .ok () →
    (∃ x, g.transaction? m = some x ∧ x.forgets = true) →
    (g.next m).profile.leds = g.profile.leds
  /-- Only a reset or disconnect alters anything, or a request that can and is not stalled. -/
  spared (m : Move (Traced Bus) Keyboard) : Untouched m → (g.does m.dispatch).1 = .ok () →
    (∀ x, g.transaction? m = some x →
      x.forgets = false ∧ (x.stalled = true ∨ ¬ x.event.Alters)) →
    (g.next m).profile = g.profile

/-- A keyboard that is what transactions make, with a protocol that there is, answers so. -/
theorem tellsLastWritten_of_profile {g : Gadget (Traced Bus) Keyboard}
    {h : List (Transaction Keyboard)} (hg : g.handlers = Keyboard.handlers)
    (hkeyboard : g.profile = keyboardIn h) (hprotocol : g.profile.SpeaksKnown) :
    g.TellsLastWritten h := by
  have hidleIs : g.profile.idle = idleIn h := congrArg Keyboard.idle hkeyboard
  have hprotocolIs : g.profile.protocol = protocolIn h := congrArg Keyboard.protocol hkeyboard
  refine ⟨?idle, ?protocol, hprotocolIs ▸ hprotocol, congrArg Keyboard.leds hkeyboard, ?leds_kept,
    ?spared⟩
  case idle =>
    intro setup hcategory hrequest hdirection
    rw [← hidleIs]
    exact sends_idle hg hcategory hrequest hdirection
  case protocol =>
    intro setup hcategory hrequest hdirection
    rw [← hprotocolIs]
    exact sends_protocol hg hcategory hrequest hdirection
  case leds_kept =>
    rintro m hm hok ⟨x, htransaction, hforgets⟩
    have hmeets := meets_next hg hm hok
    rw [htransaction] at hmeets
    rw [hmeets.told]
    unfold Transaction.onKeyboard
    rw [if_pos hforgets]
  case spared =>
    intro m hm hok hharmless
    have hmeets := meets_next hg hm hok
    cases htransaction : g.transaction? m with
    | none =>
        rw [htransaction] at hmeets
        exact hmeets
    | some x =>
        rw [htransaction] at hmeets
        obtain ⟨hforgets, hother⟩ := hharmless x htransaction
        exact hmeets.spared hforgets hother

/-- **A keyboard has what its host wrote last.** -/
theorem tells_last_written (channel : Traced Bus) (depot : Depot) (settings : Settings)
    {ms : List (Move (Traced Bus) Keyboard)} (hms : ∀ m ∈ ms, Untouched m)
    (hsmooth : (new channel depot Keyboard.new settings).Smooth ms) :
    ((new channel depot Keyboard.new settings).after ms).TellsLastWritten
      ((new channel depot Keyboard.new settings).transactions ms) := by
  have hkeyboard := keyboard_after (g := new channel depot Keyboard.new settings) (h := []) rfl rfl
    hms hsmooth
  rw [List.append_nil] at hkeyboard
  obtain ⟨hprotocol, hhandlers⟩ := Lasting.after (g := new channel depot Keyboard.new settings)
    Keyboard.lasting_speaksKnown fun f hf => absurd rfl (hms _ hf f)
  exact tellsLastWritten_of_profile hhandlers hkeyboard (hprotocol (.inr rfl))

/-- A class request to the first interface of a keyboard. -/
def hidRequest (direction : RequestType) (code : UInt8) (value length : UInt16) : Setup :=
  ⟨direction.apply .ofClass, code, value, 0, length⟩

/-- A host that sets lights, idle rate and protocol, asks for a protocol that there is not, resets the
keyboard and sets the protocol again. -/
def typingBus : Bus :=
  { Bus.idle with
    events :=
      [.connect, .setConfiguration 1, .ofSetup (hidRequest .toDevice 0x09 0x0200 1) (some [2, 7]),
        .ofSetup (hidRequest .toDevice 0x0a 0x2000 0) none,
        .ofSetup (hidRequest .toDevice 0x0b 0 0) none, .ofSetup (hidRequest .toDevice 0x0b 7 0) none,
        .ofTag EventRecord.resetTag [], .ofSetup (hidRequest .toDevice 0x0b 0 0) none] }

/-- The keyboard of that host. -/
def typingNew : Gadget (Traced Bus) Keyboard :=
  new { inner := typingBus } Keyboard.depot Keyboard.new .standard

/-- It is started and handles all that its host sends. -/
def typingRun : List (Move (Traced Bus) Keyboard) := .start :: List.replicate 8 .step

/-- The lights outlast the reset, the idle rate does not, and the protocol is that of after it. -/
theorem typingRun_tells :
    (typingNew.after typingRun).profile.leds = 2 ∧
      (typingNew.after typingRun).Sends (hidRequest .toHost 0x02 0 1) [125] ∧
      (typingNew.after typingRun).Sends (hidRequest .toHost 0x03 0 1) [0] := by
  have hms : ∀ m ∈ typingRun, Untouched m := by
    intro m hm f
    simp only [typingRun, List.mem_cons, List.mem_replicate] at hm
    rcases hm with rfl | ⟨-, rfl⟩
    · nofun
    · nofun
  have hsmooth : typingNew.Smooth typingRun := by decide +kernel
  have hleds : ledsIn (typingNew.transactions typingRun) = 2 := by decide +kernel
  have hidle : idleIn (typingNew.transactions typingRun) = 125 := by decide +kernel
  have hprotocol : protocolIn (typingNew.transactions typingRun) = 0 := by decide +kernel
  have htells : (typingNew.after typingRun).TellsLastWritten (typingNew.transactions typingRun) :=
    tells_last_written { inner := typingBus } Keyboard.depot .standard hms hsmooth
  have hsent := htells.idle (hidRequest .toHost 0x02 0 1) rfl rfl rfl
  have hspoken := htells.protocol (hidRequest .toHost 0x03 0 1) rfl rfl rfl
  rw [hidle] at hsent
  rw [hprotocol] at hspoken
  exact ⟨htells.leds.trans hleds, hsent, hspoken⟩

end Gadget

end UsbPeripheral
