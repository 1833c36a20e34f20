import UsbPeripheral.Channel.Traced
import UsbPeripheral.Emulation.Bus
import UsbPeripheral.Profiles.Declared
import UsbPeripheral.Proofs.Requests

/-! # Every request is completed once

While a device answers a packet it stays away from endpoint 0 (`Apart.answer`).  The answer is then
carried out by one operation on endpoint 0, in the direction of the packet.  On a traced channel this
reads: if a packet is handled, then the last of its calls is on endpoint 0 and no other is. -/

namespace UsbPeripheral

namespace Gadget

/-! ### Answers stay away from endpoint 0 -/

/-- A calm relation that everything keeps that a device does outside endpoint 0 to answer. -/
structure Apart {σ : Type} [Channel σ] (R : σ → σ → Prop) : Prop extends Calm R where
  enable (endpoint : Endpoint) (s : σ) : R s (Channel.enable endpoint s).2
  disable (handle : Handle) (s : σ) : R s (Channel.disable handle s).2
  vbusDraw (milliamps : UInt32) (s : σ) : R s (Channel.vbusDraw milliamps s).2
  configure (s : σ) : R s (Channel.configure s).2
  setHalt (handle : Handle) (s : σ) : R s (Channel.setHalt handle s).2
  clearHalt (handle : Handle) (s : σ) : R s (Channel.clearHalt handle s).2

section apart

variable {σ P : Type} [Channel σ] {R : σ → σ → Prop} (hR : Apart R)
include hR

theorem Apart.related (g₁ g₂ g₃ : Gadget σ P) (h₁ : Related R g₁ g₂) (h₂ : Related R g₂ g₃) :
    Related R g₁ g₃ := hR.trans h₁ h₂

theorem Apart.keeps_bringUp (configuration : Configuration) :
    Keeps (P := P) (Related R) (bringUp configuration) :=
  Gadget.keeps_bringUp (fun g => hR.refl g.around.channel) hR.related
    (fun endpoint => keeps_call (hR.enable endpoint))
    (fun milliamps => keeps_call (hR.vbusDraw milliamps)) (keeps_call hR.configure) configuration

theorem Apart.stop (g : Gadget σ P) : Related R g (g.does Gadget.stop).2 := by
  obtain ⟨around, journal, h, hchannel⟩ :=
    does_stop_within hR.toCalm g fun e _ => hR.disable e.2.handle
  rw [h]
  exact hchannel

theorem Apart.served {g : Gadget σ P} {outcome : Except DeviceError (Reply P) × Gadget σ P}
    (h : Served g outcome) : Related R g outcome.2 := by
  cases h with
  | kept reply profile journal => exact hR.refl _
  | waking wakeup => exact hR.refl _
  | alternated alternate profile _ => exact hR.refl _
  | @halted address handle channel _ hcall =>
      have h := hR.setHalt handle g.around.channel
      rw [hcall] at h
      exact h
  | @resumed address handle channel _ _ hcall =>
      have h := hR.clearHalt handle g.around.channel
      rw [hcall] at h
      exact h
  | @unhalted handle e channel hcall =>
      have h := hR.setHalt handle g.around.channel
      rw [hcall] at h
      exact h
  | @unresumed handle e channel hcall =>
      have h := hR.clearHalt handle g.around.channel
      rw [hcall] at h
      exact h

theorem Apart.broughtUp {g g₁ g₂ : Gadget σ P} {configuration : Configuration}
    {exits : List (Address × Exit)} {result : Except DeviceError (List (Endpoint × Handle))}
    (hstop : g.does Gadget.stop = (.ok exits, g₁))
    (hup : g₁.does (Gadget.bringUp configuration) = (result, g₂)) : Related R g g₂ := by
  have hstopped := hR.stop g
  rw [hstop] at hstopped
  have hraised := hR.keeps_bringUp configuration g₁
  rw [hup] at hraised
  exact hR.trans hstopped hraised

theorem Apart.selecting {g : Gadget σ P} {s : Selection}
    {outcome : Except DeviceError (Reply P) × Gadget σ P} (h : Selecting g s outcome) :
    Related R g outcome.2 := by
  have hstopped := hR.stop g
  cases h with
  | stuck hstop =>
      rw [hstop] at hstopped
      exact hstopped
  | cleared journal hstop =>
      rw [hstop] at hstopped
      exact hstopped
  | interrupted hstop hup => exact hR.broughtUp hstop hup
  | selected profile journal hstop hup _ =>
      have h := hR.broughtUp hstop hup
      exact h
  | unstarted profile journal reason hstop hup _ _ =>
      have h := hR.broughtUp hstop hup
      exact h

/-- Whatever is kept outside endpoint 0 is kept by answering a packet. -/
theorem Apart.answer [DeviceProfile P] (g : Gadget σ P) (setup : Setup) :
    Related R g (g.does (Gadget.answer setup)).2 := by
  obtain ⟨journal, h⟩ := answered g setup
  split at h
  · have hrelated := hR.selecting h
    exact hrelated
  · have hrelated := hR.served h
    exact hrelated

end apart

/-! ### The calls of a traced device -/

section traced

variable {σ P : Type} [Channel σ]

theorem apart_quiet :
    Apart (Traced.Appends (·.onEndpoint0 = false) : Traced σ → Traced σ → Prop) where
  refl := .refl
  trans := .trans
  read _ _ _ _ := .single rfl rfl
  write _ _ _ := .single rfl rfl
  wake _ _ := .single rfl rfl
  enable _ _ := .single rfl rfl
  disable _ _ := .single rfl rfl
  vbusDraw _ _ := .single rfl rfl
  configure _ := .single rfl rfl
  setHalt _ _ := .single rfl rfl
  clearHalt _ _ := .single rfl rfl

/-- The calls that a traced device has made. -/
def calls (g : Gadget (Traced σ) P) : List Call := g.around.channel.calls

/-- A successful call on endpoint 0 carries a reply to a packet out and turns the device class `p`
into `p'`. -/
inductive Completes (setup : Setup) (p : P) : Reply P → Call → P → Prop
  /-- Data goes to a host that asks for it, cut to the length that it asks for. -/
  | sent (data : Bytes) (count : Nat) : setup.direction = .toHost →
      Completes setup p (.send data) (.ep0Write (data.take setup.length.toNat) (.ok count)) p
  /-- A request for data is acknowledged with none. -/
  | acknowledged (count : Nat) : setup.direction = .toHost →
      Completes setup p .ack (.ep0Write [] (.ok count)) p
  /-- Data that nobody asked for is taken and dropped. -/
  | dropped (data : Bytes) : setup.direction = .toDevice → data.length ≤ setup.length.toNat →
      Completes setup p .ack (.ep0Read setup.length.toNat (.ok data)) p
  /-- The data of the host is taken and handed over. -/
  | received (handler : Setup → Bytes → P → P × List Note) (data : Bytes) :
      setup.direction = .toDevice → data.length ≤ setup.length.toNat →
      Completes setup p (.receive handler) (.ep0Read setup.length.toNat (.ok data))
        (handler setup data p).1
  | refused : Completes setup p .stall (.ep0Stall (.ok ())) p
  /-- There is no data to send to a host that brings data. -/
  | unasked (data : Bytes) : setup.direction = .toDevice →
      Completes setup p (.send data) (.ep0Stall (.ok ())) p
  /-- There is no data to take from a host that asks for data. -/
  | unbrought (handler : Setup → Bytes → P → P × List Note) : setup.direction = .toHost →
      Completes setup p (.receive handler) (.ep0Stall (.ok ())) p

/-- A call performs an operation on endpoint 0 with a result. -/
inductive Performs : Stage → Except DeviceError Bytes → Call → Prop
  | write (data : Bytes) (count : Nat) :
      Performs (.write data) (.ok []) (.ep0Write data (.ok count))
  | read (room : Nat) (data : Bytes) : data.length ≤ room →
      Performs (.read room) (.ok data) (.ep0Read room (.ok data))
  | stall : Performs .stall (.ok []) (.ep0Stall (.ok ()))
  | failed (s : Stage) (e : DeviceError) (call : Call) : Performs s (.error e) call

theorem operate_calls (s : Stage) (t : Traced σ) :
    ∃ call, (s.operate t).2.calls = t.calls ++ [call] ∧ call.onEndpoint0 = true ∧
      Performs s (s.operate t).1 call := by
  cases s with
  | write data =>
      refine ⟨.ep0Write data (Channel.ep0Write data t.inner).1, rfl, rfl, ?_⟩
      show Performs _ ((Channel.ep0Write data t.inner).1.map fun _ => []) _
      rcases (Channel.ep0Write data t.inner).1 with e | count
      · exact .failed _ e _
      · exact .write data count
  | read room =>
      refine ⟨.ep0Read room (Channel.ep0Read room t.inner).1, rfl, rfl, ?_⟩
      show Performs _ (Channel.ep0Read room t.inner).1 _
      rcases h : Channel.ep0Read room t.inner with ⟨e | data, inner⟩
      · exact .failed _ e _
      · exact .read room data (Channel.ep0Read_fits room h)
  | stall =>
      refine ⟨.ep0Stall (Channel.ep0Stall t.inner).1, rfl, rfl, ?_⟩
      show Performs _ ((Channel.ep0Stall t.inner).1.map fun _ => []) _
      rcases (Channel.ep0Stall t.inner).1 with e | ⟨⟩
      · exact .failed _ e _
      · exact .stall

/-- The operation that carries a reply out completes the packet. -/
theorem completes_of_performs {setup : Setup} {reply : Reply P} {data : Bytes} {call : Call}
    (h : Performs (stage setup reply) (.ok data) call) (p : P) :
    Completes setup p reply call (handOver setup reply (.ok data) p) := by
  unfold stage at h
  unfold handOver
  cases hdirection : setup.direction with
  | toHost =>
      rw [hdirection] at h
      cases reply with
      | send data =>
          cases h with
          | write data count => exact .sent _ count hdirection
      | receive handler =>
          cases h with
          | stall => exact .unbrought handler hdirection
      | ack =>
          cases h with
          | write data count => exact .acknowledged count hdirection
      | stall =>
          cases h with
          | stall => exact .refused
  | toDevice =>
      rw [hdirection] at h
      cases reply with
      | send data =>
          cases h with
          | stall => exact .unasked data hdirection
      | receive handler =>
          cases h with
          | read room data hfits => exact .received handler _ hdirection hfits
      | ack =>
          cases h with
          | read room data hfits => exact .dropped _ hdirection hfits
      | stall =>
          cases h with
          | stall => exact .refused

theorem handOver_error (setup : Setup) (reply : Reply P) (e : DeviceError) (p : P) :
    handOver setup reply (.error e) p = p := by
  unfold handOver
  split
  · rename_i h
    cases h
  · rfl

/-- Carrying a reply out is one call on endpoint 0.  If it fails, nothing is handed over. -/
theorem complete_calls {g g' : Gadget (Traced σ) P} {setup : Setup} {reply : Reply P}
    {result : Except DeviceError Unit} (h : g.does (complete setup reply) = (result, g')) :
    (∃ call, g'.calls = g.calls ++ [call] ∧ call.onEndpoint0 = true ∧
      (result = .ok () → Completes setup g.profile reply call g'.profile)) ∧
    ∀ e, result = .error e → g'.profile = g.profile := by
  obtain ⟨journal, hcomplete⟩ := does_complete g setup reply
  obtain ⟨call, hcalls, hendpoint, hperforms⟩ := operate_calls (stage setup reply) g.around.channel
  rw [hcomplete] at h
  obtain ⟨rfl, rfl⟩ := Prod.mk.inj h
  dsimp only
  rcases hoperate : ((stage setup reply).operate g.around.channel).1 with e | data
  · refine ⟨⟨call, hcalls, hendpoint, nofun⟩, fun e' _ => ?_⟩
    exact handOver_error setup reply e g.profile
  · rw [hoperate] at hperforms
    refine ⟨⟨call, hcalls, hendpoint, fun _ => ?_⟩, nofun⟩
    exact completes_of_performs hperforms g.profile

/-! ### Handling a packet -/

theorem answering_calls [DeviceProfile P] (g : Gadget (Traced σ) P) (setup : Setup) :
    ∃ calls, (g.answering setup).2.calls = g.calls ++ calls ∧
      ∀ c ∈ calls, c.onEndpoint0 = false :=
  apart_quiet.answer (g.noted [.event (.control setup)]) setup

/-- Requests of the reserved category are refused. -/
theorem answering_reserved [DeviceProfile P] (g : Gadget (Traced σ) P) {setup : Setup}
    (h : setup.category = .reserved) : (g.answering setup).1 = .ok .stall := by
  unfold answering answer
  rw [h]
  rfl

/-- **Every handled packet is completed once.**  The last call is on endpoint 0 and carries the
answer out, no other call is on endpoint 0, and data is handed over only after it was read. -/
theorem handled_once [DeviceProfile P] {g g' : Gadget (Traced σ) P} {setup : Setup}
    {result : Except DeviceError Unit} (h : g.does (handleEvent (.control setup)) = (result, g')) :
    (result = .ok () → ∃ reply before call,
      (g.answering setup).1 = .ok reply ∧ (setup.category = .reserved → reply = .stall) ∧
      g'.calls = g.calls ++ before ++ [call] ∧
      (∀ c ∈ before, c.onEndpoint0 = false) ∧ call.onEndpoint0 = true ∧
      Completes setup (g.answering setup).2.profile reply call g'.profile) ∧
    ∀ e, result = .error e → g'.profile = (g.answering setup).2.profile := by
  obtain ⟨before, hbefore, hquiet⟩ := answering_calls g setup
  have hreserved : setup.category = .reserved → (g.answering setup).1 = .ok .stall :=
    answering_reserved g
  rw [does_handleEvent_control] at h
  rcases hanswer : g.answering setup with ⟨e | reply, g₁⟩
  · -- without an answer there is nothing to carry out
    rw [hanswer] at h
    cases h
    exact ⟨nofun, fun _ _ => rfl⟩
  · rw [hanswer] at h hbefore hreserved
    obtain ⟨⟨call, hcall, hendpoint, hcompletes⟩, hfailed⟩ := complete_calls h
    refine ⟨fun hok => ?_, hfailed⟩
    refine ⟨reply, before, call, rfl, ?_, ?_, hquiet, hendpoint, hcompletes hok⟩
    · intro hcategory
      exact Except.ok.inj (hreserved hcategory)
    · rw [hcall, hbefore]

end traced

/-- A device that takes the data of one vendor request. -/
def taker : DeclaredDevice where
  catalog := .empty
  configurations := []
  endpoints := .empty
  requests := [(.vendor, 1, "put", .receive)]
  fallback := none

/-- The data stage of a vendor request is taken up to the announced length. -/
theorem handled_once_receive :
    let g : Gadget (Traced Bus) DeclaredDevice :=
      .new { inner := { Bus.idle with dataStage := some [7, 8, 9] } } {} taker .standard
    let setup : Setup := ⟨⟨.toDevice, .vendor, 0⟩, 1, 0, 0, 2⟩
    let outcome := g.does (handleEvent (.control setup))
    outcome.1 = .ok () ∧ outcome.2.profile.asked = [.handled 1, .data 1 [7, 8]] ∧
      ∃ reply before call, (g.answering setup).1 = .ok reply ∧
        outcome.2.calls = g.calls ++ before ++ [call] ∧
        Completes setup (g.answering setup).2.profile reply call outcome.2.profile := by
  intro g setup outcome
  refine ⟨rfl, rfl, ?_⟩
  obtain ⟨reply, before, call, hreply, -, hcalls, -, -, hcompletes⟩ :=
    (@handled_once _ _ _ _ g outcome.2 setup outcome.1 rfl).1 rfl
  exact ⟨reply, before, call, hreply, hcalls, hcompletes⟩

end Gadget

end UsbPeripheral
