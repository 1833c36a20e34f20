import UsbPeripheral.Proofs.Completion
import UsbPeripheral.Proofs.Moves

/-! # What every operation keeps

A relation between channel states is **steady** if every operation of a device keeps it, fetching an
event apart.  It is then kept by handling any event (`Steady.handled`) and by every move that neither
fetches an event nor comes from outside (`Steady.moved`). -/

namespace UsbPeripheral

namespace Gadget

/-- A relation that every operation of a device keeps, except for fetching an event. -/
structure Steady {σ : Type} [Channel σ] (R : σ → σ → Prop) : Prop extends Apart R where
  bind (driver device : String) (speed : Speed) (s : σ) : R s (Channel.bind driver device speed s).2
  run (s : σ) : R s (Channel.run s).2
  ep0Read (room : Nat) (s : σ) : R s (Channel.ep0Read room s).2
  ep0Write (data : Bytes) (s : σ) : R s (Channel.ep0Write data s).2
  ep0Stall (s : σ) : R s (Channel.ep0Stall s).2
  endpoints (s : σ) : R s (Channel.endpoints s).2
  setWedge (handle : Handle) (s : σ) : R s (Channel.setWedge handle s).2

variable {σ P : Type} [Channel σ] {R : σ → σ → Prop} (hR : Steady R)
include hR

theorem Steady.operate (stage : Stage) (s : σ) : R s (stage.operate s).2 := by
  cases stage with
  | write data => exact hR.ep0Write data s
  | read room => exact hR.ep0Read room s
  | stall => exact hR.ep0Stall s

theorem Steady.halting {g : Gadget σ P} {address : Address}
    {operation : Handle → σ → Except DeviceError Unit × σ} {halted : Bool} {wedged : ByteSet}
    (hoperation : ∀ handle s, R s (operation handle s).2)
    {outcome : Except DeviceError Bool × Gadget σ P}
    (h : Halting g address operation halted wedged outcome) : Related R g outcome.2 := by
  cases h with
  | absent _ => exact hR.refl _
  | @done handle channel _ hcall =>
      have h := hoperation handle g.around.channel
      rw [hcall] at h
      exact h
  | @failed handle e channel hcall =>
      have h := hoperation handle g.around.channel
      rw [hcall] at h
      exact h

variable [DeviceProfile P]

/-- Whatever every operation keeps is kept by handling an event. -/
theorem Steady.handled (g : Gadget σ P) (event : BusEvent) :
    Related R g (g.does (handleEvent event)).2 := by
  have hhandling := handling g event
  have hstopped := hR.stop { g with journal := g.journal.add [.event event] }
  generalize g.does (handleEvent event) = outcome at hhandling ⊢
  cases hhandling with
  | unknown tag length journal => exact hR.refl _
  | malformed tag length journal => exact hR.refl _
  | suspended journal => exact hR.refl _
  | resumed journal => exact hR.refl _
  | stuck _ hstop =>
      rw [hstop] at hstopped
      exact hstopped
  | @unchecked exits e g₁ channel hstop hcall =>
      have hcalled := hR.endpoints g₁.around.channel
      rw [hcall] at hcalled
      rw [hstop] at hstopped
      exact hR.trans hstopped hcalled
  | @renewed _ base exits g₁ channel profile journal hbase hstop hchannel =>
      rw [hstop] at hstopped
      rcases hchannel with rfl | rfl
      · exact hstopped
      · exact hR.trans hstopped (hR.endpoints g₁.around.channel)
  | @unanswered setup e g' hanswer =>
      have hanswered := hR.answer { g with journal := g.journal.add [.event (.control setup)] } setup
      rw [hanswer] at hanswered
      exact hanswered
  | @answered setup reply g₁ profile journal hanswer =>
      have hanswered := hR.answer { g with journal := g.journal.add [.event (.control setup)] } setup
      rw [hanswer] at hanswered
      exact hR.trans hanswered (hR.operate (stage setup reply) g₁.around.channel)

omit [DeviceProfile P] in
theorem Steady.started : Keeps (P := P) (Related R) start := by
  intro g
  have hnote : ∀ n, Keeps (P := P) (Related R) (note n) := fun _ g => hR.refl g.around.channel
  unfold start
  rw [does_get_bind]
  refine Keeps.bind hR.related (hnote _) (fun _ => ?_) g
  refine Keeps.bind hR.related (keeps_call (hR.bind _ _ _)) fun _ => ?_
  exact Keeps.bind hR.related (keeps_call hR.run) fun _ g => hR.refl g.around.channel

/-- Whatever every operation keeps is kept by a move that neither fetches an event nor comes from
outside. -/
theorem Steady.moved (g : Gadget σ P) {m : Move σ P} (hstep : m ≠ .step)
    (houtside : ∀ f, m ≠ .outside f) : Related R g (g.next m) := by
  cases m with
  | start => exact hR.started g
  | event event => exact hR.handled g event
  | step => exact absurd rfl hstep
  | stop =>
      rw [next_stop]
      exact hR.stop g
  | halt address =>
      rw [next_halt]
      exact hR.halting hR.setHalt (halting_halt g address)
  | wedge address =>
      rw [next_wedge]
      exact hR.halting hR.setWedge (halting_wedge g address)
  | unhalt address =>
      rw [next_unhalt]
      exact hR.halting hR.clearHalt (halting_unhalt g address)
  | work address =>
      obtain ⟨around, roster, journal, hwork, hrelated, -⟩ :=
        runWorker_within hR.toCalm 1 address g
      rw [next_work, hwork]
      exact hrelated
  | outside f => exact absurd rfl (houtside f)
  | stock f => exact hR.refl _
  | adjust f => exact hR.refl _
  | threads refusals => exact hR.refl _

end Gadget

end UsbPeripheral
