import UsbPeripheral.Proofs.Answers
import UsbPeripheral.Proofs.Completion
import UsbPeripheral.Proofs.Moves

/-! # Refused requests

A standard request that ends in a stall of endpoint 0 was **refused**, and no other standard request
stalls endpoint 0 (`any_isStall_iff`).  A refused request leaves the device **untouched**
(`refused_untouched`): the stall is the only call of the channel, all stores are as before, and so is
every part of the channel that the stall itself spares. -/

namespace UsbPeripheral

/-- Whether a call stalls endpoint 0. -/
def Call.isStall : Call → Bool
  | ep0Stall _ => true
  | _ => false

theorem Call.isStall_eq_false {c : Call} (h : c.onEndpoint0 = false) : c.isStall = false := by
  cases c <;> first | rfl | cases h

/-- A part of a channel that a stall of endpoint 0 leaves alone. -/
def SparedByStall {σ τ : Type} [Channel σ] (part : σ → τ) : Prop :=
  ∀ s, part (Channel.ep0Stall s).2 = part s

/-- A stall leaves the endpoints of a bus alone. -/
theorem Bus.sparedByStall_pipes : SparedByStall Bus.pipes := fun _ => rfl

namespace Gadget

variable {σ P : Type} [Channel σ]

/-! ### Stalls in a trace -/

/-- A reply is carried out by one call, which is a stall only for a stall. -/
theorem operate_stall (s : Stage) (t : Traced σ) :
    ∃ call, (s.operate t).2.calls = t.calls ++ [call] ∧ (call.isStall = true ↔ s = .stall) := by
  cases s with
  | write data => exact ⟨_, rfl, by simp [Call.isStall]⟩
  | read room => exact ⟨_, rfl, by simp [Call.isStall]⟩
  | stall => exact ⟨_, rfl, by simp [Call.isStall]⟩

variable [DeviceProfile P]

/-- Endpoint 0 is stalled in the course of a standard request exactly if the request is refused. -/
theorem any_isStall_iff {g g' : Gadget (Traced σ) P} {setup : Setup}
    {result : Except DeviceError Unit} {calls : List Call} (hstandard : setup.category = .standard)
    (h : g.does (handleEvent (.control setup)) = (result, g'))
    (hcalls : g'.calls = g.calls ++ calls) :
    calls.any Call.isStall = true ↔ (g.answering setup).1 = .ok .stall := by
  obtain ⟨before, hbefore, hquiet⟩ := answering_calls g setup
  have hunstalled : before.any Call.isStall = false := by
    rw [List.any_eq_false]
    intro c hc
    rw [Call.isStall_eq_false (hquiet c hc)]
    exact Bool.false_ne_true
  have hsettled := settled_answering (g := g) hstandard
  rw [does_handleEvent_control] at h
  rcases hanswer : g.answering setup with ⟨e | reply, g₁⟩
  · rw [hanswer] at h hbefore
    cases h
    rw [List.append_cancel_left (hcalls.symm.trans hbefore), hunstalled]
    simp
  · rw [hanswer] at h hbefore hsettled
    obtain ⟨journal, hcomplete⟩ := does_complete g₁ setup reply
    obtain ⟨call, hcall, hstall⟩ := operate_stall (stage setup reply) g₁.around.channel
    have hg' : g'.calls = g₁.calls ++ [call] := by
      dsimp only at h
      rw [hcomplete] at h
      obtain ⟨-, rfl⟩ := Prod.mk.inj h
      exact hcall
    have hbefore : g₁.calls = g.calls ++ before := hbefore
    rw [hbefore, List.append_assoc] at hg'
    rw [List.append_cancel_left (hcalls.symm.trans hg'), List.any_append, hunstalled]
    simp [hstall, stage_eq_stall_iff hsettled]

/-! ### Refusing -/

omit [DeviceProfile P] in
/-- Carrying a refusal out is a stall and nothing else. -/
theorem does_complete_stall (g : Gadget σ P) (setup : Setup) :
    ∃ journal, g.does (complete setup .stall) = ((Channel.ep0Stall g.around.channel).1,
      { g.withChannel (Channel.ep0Stall g.around.channel).2 with journal }) :=
  ⟨g.journal.add [.stalling setup], rfl⟩

/-- What is left of a standard request that is refused. -/
theorem does_handleEvent_refused {g : Gadget σ P} {setup : Setup}
    (hstandard : setup.category = .standard) (hrefused : (g.answering setup).1 = .ok .stall) :
    ∃ profile journal, Declines g.profile profile ∧
      g.does (handleEvent (.control setup)) = ((Channel.ep0Stall g.around.channel).1,
        { g.withChannel (Channel.ep0Stall g.around.channel).2 with profile, journal }) := by
  have hsettled := settled_answering (g := g) hstandard
  rw [does_handleEvent_control]
  rcases hanswer : g.answering setup with ⟨result, g₁⟩
  rw [hanswer] at hsettled hrefused
  obtain rfl : result = .ok .stall := hrefused
  cases hsettled with
  | refused profile journal hdeclines =>
      obtain ⟨journal', hcomplete⟩ := does_complete_stall { g with profile, journal } setup
      exact ⟨profile, journal', hdeclines, hcomplete⟩

/-- A device refuses a configuration that it does not have. -/
theorem answering_select {g : Gadget σ P} {value : UInt8}
    (h : selection? g.profile (.select value) = none) :
    (g.answering (.select value)).1 = .ok .stall := by
  obtain ⟨journal, hrefused⟩ :=
    refused_setConfiguration (g := g.heard (.select value)) ⟨rfl, rfl, rfl⟩ h
  have hstandard : (standard (.select value) : Dispatch σ P _) = setConfiguration (.select value) :=
    rfl
  rw [answering_standard g rfl, hstandard, hrefused]

/-- A device class that does not change by refusing an alternate setting. -/
def DeclinesQuietly (P : Type) [DeviceProfile P] : Prop :=
  ∀ (p : P) (interface alternate : UInt8),
    (DeviceProfile.setInterface p interface alternate).1 = false →
      (DeviceProfile.setInterface p interface alternate).2 = p

/-- **A refused request leaves the device untouched.**  If a standard request ends in a stall, the
stall is its only call, and what it leaves is the device as it was, on the channel after a stall. -/
theorem refused_untouched {g g' : Gadget (Traced σ) P} {setup : Setup}
    {result refusal : Except DeviceError Unit} {before : List Call}
    (hstandard : setup.category = .standard)
    (h : g.does (handleEvent (.control setup)) = (result, g'))
    (hstall : g'.calls = g.calls ++ before ++ [.ep0Stall refusal]) :
    before = [] ∧ result = refusal ∧ g'.state = g.state ∧ g'.selected = g.selected ∧
      g'.wedged = g.wedged ∧ g'.roster = g.roster ∧ g'.handlers = g.handlers ∧
      g'.settings = g.settings ∧ g'.around.depot = g.around.depot ∧
      g'.around.channel.inner = (Channel.ep0Stall g.around.channel.inner).2 ∧
      (∀ (τ : Type) (part : σ → τ), SparedByStall part →
        part g'.around.channel.inner = part g.around.channel.inner) ∧
      (DeclinesQuietly P → g'.profile = g.profile) := by
  rw [List.append_assoc] at hstall
  have hrefused : (g.answering setup).1 = .ok .stall := by
    rw [← any_isStall_iff hstandard h hstall, List.any_append]
    exact Bool.or_true _
  obtain ⟨profile, journal, hdeclines, hrefusal⟩ := does_handleEvent_refused hstandard hrefused
  rw [h] at hrefusal
  obtain ⟨rfl, rfl⟩ := Prod.mk.inj hrefusal
  have hlast : before ++ [Call.ep0Stall refusal] =
      [] ++ [.ep0Stall (Channel.ep0Stall g.around.channel.inner).1] :=
    List.append_cancel_left hstall.symm
  obtain ⟨rfl, hcall⟩ := List.append_inj' hlast rfl
  have hresult : refusal = (Channel.ep0Stall g.around.channel.inner).1 := by
    injection (List.cons.inj hcall).1
  refine ⟨rfl, hresult.symm, rfl, rfl, rfl, rfl, rfl, rfl, rfl, rfl, fun τ part hpart => hpart _, ?_⟩
  intro hquiet
  rcases hdeclines with hsame | ⟨interface, alternate, hdeclined⟩
  · exact hsame
  · have hkept := hquiet g.profile interface alternate (by rw [hdeclined])
    rw [hdeclined] at hkept
    exact hkept

/-- A device that was configured and has a wedged endpoint. -/
def wedgedTraced : Gadget (Traced Bus) PlainDevice :=
  (Gadget.new ({ inner := Bus.idle } : Traced Bus) {} .twoWay .standard).after
    [.start, .event (.control (.select 1)), .wedge 129]

/-- The device refuses a configuration that it does not have, and keeps the one that it has. -/
theorem wedgedTraced_untouched :
    let outcome := wedgedTraced.does (handleEvent (.control (.select 9)))
    wedgedTraced.state.configuration = 1 ∧ wedgedTraced.wedged.keys = [129] ∧
      outcome.2.calls = wedgedTraced.calls ++ [] ++ [.ep0Stall (.ok ())] ∧
      outcome.2.state = wedgedTraced.state ∧ outcome.2.roster = wedgedTraced.roster ∧
      outcome.2.wedged = wedgedTraced.wedged ∧
      outcome.2.around.channel.inner.pipes = wedgedTraced.around.channel.inner.pipes ∧
      outcome.2.profile = wedgedTraced.profile := by
  intro outcome
  have hbefore : wedgedTraced.state.configuration = 1 ∧ wedgedTraced.wedged.keys = [129] := by
    decide +kernel
  have hselection : selection? wedgedTraced.profile (.select 9) = none :=
    Option.isNone_iff_eq_none.mp (by decide +kernel)
  have hstall : outcome.2.calls = wedgedTraced.calls ++ [] ++ [.ep0Stall (.ok ())] := by
    obtain ⟨profile, journal, -, h⟩ := does_handleEvent_refused rfl (answering_select hselection)
    show (wedgedTraced.does (handleEvent (.control (.select 9)))).2.calls = _
    rw [h, List.append_nil]
    rfl
  have houtcome : wedgedTraced.does (handleEvent (.control (.select 9))) =
      (outcome.1, outcome.2) := (Prod.eta _).symm
  obtain ⟨-, -, hstate, -, hwedged, hroster, -, -, -, -, hpart, hprofile⟩ :=
    refused_untouched (g := wedgedTraced) rfl houtcome hstall
  exact ⟨hbefore.1, hbefore.2, hstall, hstate, hroster, hwedged,
    hpart _ Bus.pipes Bus.sparedByStall_pipes, hprofile fun _ _ _ _ => rfl⟩

end Gadget

end UsbPeripheral
