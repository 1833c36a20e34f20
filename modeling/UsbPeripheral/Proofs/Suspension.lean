import UsbPeripheral.Proofs.History
import UsbPeripheral.Proofs.Resemblance

/-! # Suspending and resuming are transparent

Whether the bus is suspended stands beside the stage of a device, and nothing but the stage that a host
sees depends on it.  So two devices that differ in it, and in what was noted, go on to do the same
(`UpToSuspension`, `agrees_dispatch`).

Events that change no more than that are **quiet**: a suspend, a resume, and what has no meaning.  A run
from which quiet events are taken away (`Thins`) performs the same operations and leads through the same
devices (`quiet_transparent`).  What a device shows of suspension is told by its history: it is
suspended if a suspend is the last event that **turned** the bus (`lifecycle_after`). -/

namespace UsbPeripheral

/-! ### Workers do not look at it -/

/-- Only the notes of a worker depend on suspension. -/
theorem Worker.step_suspended {σ : Type} [Channel σ] (suspended suspended' : Bool) (w : Worker)
    (around : Surroundings σ) :
    ∃ notes, w.step suspended' around = { w.step suspended around with notes } := by
  refine ⟨(w.step suspended' around).notes, ?_⟩
  unfold Worker.step
  cases w.duty with
  | sending sender feed stage =>
      cases stage with
      | ready piece rest failures =>
          dsimp only [Sender.step]
          split <;> rfl
      | _ => rfl
  | receiving receiver sink stage buffer =>
      cases stage with
      | idle =>
          dsimp only [Receiver.step]
          split <;> rfl
      | _ => rfl

theorem Worker.run_suspended {σ : Type} [Channel σ] (suspended suspended' : Bool) (fuel : Nat)
    (w : Worker) (around : Surroundings σ) :
    ∃ notes, w.run suspended' fuel around = { w.run suspended fuel around with notes } := by
  induction fuel generalizing w around with
  | zero => exact ⟨[], rfl⟩
  | succ fuel ih =>
      obtain ⟨notes, hstep⟩ := w.step_suspended suspended suspended' around
      unfold Worker.run
      rw [hstep]
      dsimp only
      split
      · exact ⟨notes, rfl⟩
      · obtain ⟨notes', hrun⟩ := ih (w.step suspended around).worker (w.step suspended around).around
        rw [hrun]
        exact ⟨notes ++ notes', rfl⟩

theorem Worker.join_suspended {σ : Type} [Channel σ] (suspended suspended' : Bool) (w : Worker)
    (around : Surroundings σ) :
    ∃ notes, w.join suspended' around =
      ((w.join suspended around).1, notes, (w.join suspended around).2.2) := by
  unfold Worker.join
  cases w.exit? with
  | some exit => exact ⟨[], rfl⟩
  | none =>
      obtain ⟨notes, hrun⟩ := w.run_suspended suspended suspended' joinSteps
        { around with channel := Channel.wake w.handle around.channel }
      dsimp only
      rw [hrun]
      exact ⟨notes, rfl⟩

namespace Gadget

variable {σ P α β : Type}

/-- The devices are the same, but for suspension and what was noted. -/
def UpToSuspension (g g' : Gadget σ P) : Prop :=
  ∃ suspended journal, g' = { g with state := { g.state with suspended }, journal }

theorem UpToSuspension.refl (g : Gadget σ P) : UpToSuspension g g :=
  ⟨g.state.suspended, g.journal, rfl⟩

theorem UpToSuspension.trans {g₁ g₂ g₃ : Gadget σ P} (h₁ : UpToSuspension g₁ g₂)
    (h₂ : UpToSuspension g₂ g₃) : UpToSuspension g₁ g₃ := by
  obtain ⟨suspended₁, journal₁, rfl⟩ := h₁
  obtain ⟨suspended₂, journal₂, rfl⟩ := h₂
  exact ⟨suspended₂, journal₂, rfl⟩

theorem UpToSuspension.symm {g g' : Gadget σ P} (h : UpToSuspension g g') : UpToSuspension g' g := by
  obtain ⟨suspended, journal, rfl⟩ := h
  exact ⟨g.state.suspended, g.journal, rfl⟩

variable {lost : DeviceError → Prop} {g g' : Gadget σ P}

theorem likeness_upToSuspension : Likeness (UpToSuspension : Gadget σ P → Gadget σ P → Prop) where
  profile := by
    rintro _ _ ⟨suspended, journal, rfl⟩
    rfl
  handlers := by
    rintro _ _ ⟨suspended, journal, rfl⟩
    rfl
  selected := by
    rintro _ _ ⟨suspended, journal, rfl⟩
    rfl
  wedged := by
    rintro _ _ ⟨suspended, journal, rfl⟩
    rfl
  state := by
    rintro _ _ ⟨suspended, journal, rfl⟩
    exact ⟨suspended, rfl⟩
  enrolled := by
    rintro _ _ address ⟨suspended, journal, rfl⟩
    rfl
  noted := by
    rintro _ _ journal₁ journal₂ ⟨suspended, journal, rfl⟩
    exact ⟨suspended, journal₂, rfl⟩
  consulted := by
    rintro _ _ profile ⟨suspended, journal, rfl⟩
    exact ⟨suspended, journal, rfl⟩
  updated := by
    rintro g _ f hf ⟨suspended, journal, rfl⟩
    obtain ⟨suspended', hstate⟩ := hf g.state { g.state with suspended } ⟨suspended, rfl⟩
    refine ⟨suspended', journal, ?_⟩
    dsimp only
    rw [hstate]

/-- An operation of the channel has the same outcome. -/
theorem UpToSuspension.call (h : UpToSuspension g g') (operation : σ → Except DeviceError α × σ) :
    Agrees lost UpToSuspension g g' (call operation) := by
  obtain ⟨suspended, journal, rfl⟩ := h
  unfold Agrees
  rw [does_call, does_call]
  dsimp only
  rcases operation g.around.channel with ⟨e | a, channel⟩
  · exact .error ⟨suspended, journal, rfl⟩
  · exact .ok rfl ⟨suspended, journal, rfl⟩

theorem UpToSuspension.startWorker (h : UpToSuspension g g') (endpoint : Endpoint)
    (handle : Handle) (data : Option EndpointData) :
    Agrees lost UpToSuspension g g' (startWorker endpoint handle data) := by
  obtain ⟨suspended, journal, rfl⟩ := h
  have hrefusal : refusal? { g with state := { g.state with suspended }, journal } endpoint data =
      g.refusal? endpoint data := rfl
  unfold Gadget.startWorker
  refine Agrees.get ?_
  rw [hrefusal]
  cases g.refusal? endpoint data with
  | some reason => exact .error ⟨suspended, journal, rfl⟩
  | none =>
      cases data with
      | none => exact .ok rfl ⟨suspended, journal, rfl⟩
      | some data =>
          dsimp only
          split
          · exact .ok rfl ⟨suspended, _, rfl⟩
          · exact .ok rfl ⟨suspended, _, rfl⟩

theorem UpToSuspension.startWorkers [DeviceProfile P] (h : UpToSuspension g g')
    (enabled : List (Endpoint × Handle)) :
    Agrees lost UpToSuspension g g' (startWorkers enabled) := by
  induction enabled generalizing g g' with
  | nil => exact agrees_pure h ()
  | cons e rest ih =>
      refine Agrees.bind (likeness_upToSuspension.consult h _) fun data g g' h => ?_
      exact Agrees.bind (h.startWorker e.1 e.2 data) fun _ g g' h => ih h

/-- Halting, wedging or freeing the endpoint of an address. -/
theorem UpToSuspension.onSlot (h : UpToSuspension g g') (address : Address)
    {operation : Handle → σ → Except DeviceError Unit × σ} {rest : Dispatch σ P Bool}
    (hrest : ∀ g g', UpToSuspension g g' → Agrees lost UpToSuspension g g' rest) :
    Agrees lost UpToSuspension g g' (do
      match (← get).roster.handle? address with
      | some handle =>
        Gadget.call (operation handle)
        rest
      | none => return false) := by
  have hroster : g'.roster = g.roster := by
    obtain ⟨suspended, journal, rfl⟩ := h
    rfl
  refine Agrees.get ?_
  rw [hroster]
  cases g.roster.handle? address with
  | none => exact agrees_pure h false
  | some handle => exact Agrees.bind (h.call _) fun _ g g' h => hrest g g' h

/-! ### Taking the roster down -/

section channel

variable [Channel σ]

/-- The acts of taking a roster down do not look at suspension. -/
theorem concur_upToSuspension :
    Teardown.Concur (UpToSuspension : Gadget σ P → Gadget σ P → Prop) teardown teardown where
  cancel _ _ := concurs_pure _
  disable address handle := by
    rintro g _ ⟨suspended, journal, rfl⟩
    exact ⟨rfl, suspended, journal, rfl⟩
  join address w := by
    rintro g _ ⟨suspended, journal, rfl⟩
    obtain ⟨notes, hjoin⟩ := w.join_suspended g.state.suspended suspended g.around
    rw [join_at, join_at]
    dsimp only
    rw [hjoin]
    exact ⟨rfl, suspended, _, rfl⟩
  note n := by
    rintro g _ ⟨suspended, journal, rfl⟩
    exact ⟨rfl, suspended, _, rfl⟩

theorem UpToSuspension.runWorker (h : UpToSuspension g g') (fuel : Nat) (address : Address) :
    UpToSuspension (g.runWorker fuel address) (g'.runWorker fuel address) := by
  obtain ⟨suspended, journal, rfl⟩ := h
  unfold Gadget.runWorker
  dsimp only
  cases hworker : (g.roster.get? address).bind (·.worker) with
  | none => exact ⟨suspended, journal, rfl⟩
  | some w =>
      obtain ⟨notes, hrun⟩ := w.run_suspended g.state.suspended suspended fuel g.around
      dsimp only
      rw [hrun]
      exact ⟨suspended, _, rfl⟩

/-! ### Operations of a device -/

theorem UpToSuspension.stop (h : UpToSuspension g g') : Agrees lost UpToSuspension g g' stop := by
  obtain ⟨suspended, journal, rfl⟩ := h
  have hforgotten : UpToSuspension g.forgotten
      { g.forgotten with state := { g.state with suspended }, journal } := ⟨suspended, journal, rfl⟩
  obtain ⟨hresult, hafter⟩ := concur_upToSuspension.stopAll g.roster.entries _ _ hforgotten
  exact .of_eq hresult hafter

theorem UpToSuspension.enableAll (h : UpToSuspension g g') (endpoints : List Endpoint) :
    Agrees lost UpToSuspension g g' (enableAll endpoints) := by
  induction endpoints generalizing g g' with
  | nil => exact agrees_pure h []
  | cons endpoint rest ih =>
      refine Agrees.bind (h.call _) fun handle g g' h => ?_
      exact Agrees.bind (ih h) fun enabled g g' h => agrees_pure h _

theorem UpToSuspension.bringUp (h : UpToSuspension g g') (configuration : Configuration) :
    Agrees lost UpToSuspension g g' (bringUp configuration) := by
  refine Agrees.bind (h.enableAll _) fun enabled g g' h => ?_
  refine Agrees.bind (h.call _) fun _ g g' h => ?_
  exact Agrees.bind (h.call _) fun _ g g' h => agrees_pure h enabled

theorem UpToSuspension.prepare (h : UpToSuspension g g') (s : Selection) :
    Agrees lost UpToSuspension g g' s.prepare := by
  cases s with
  | clear => exact Agrees.bind h.stop fun _ g g' h => agrees_pure h ()
  | pick value configuration =>
      refine Agrees.bind h.stop fun _ g g' h => ?_
      exact Agrees.bind (h.bringUp configuration) fun _ g g' h => agrees_pure h ()

variable [DeviceProfile P]

theorem UpToSuspension.selectConfiguration (h : UpToSuspension g g') (value : UInt8)
    (configuration : Configuration) :
    Agrees lost UpToSuspension g g' (selectConfiguration value configuration) := by
  rw [selectConfiguration_eq]
  refine Agrees.bind h.stop fun _ g g' h => ?_
  refine Agrees.bind (h.bringUp configuration) fun enabled g g' h => ?_
  refine Agrees.bind (likeness_upToSuspension.update h ?_) fun _ g g' h => ?_
  · rintro s _ ⟨suspended, rfl⟩
    exact ⟨suspended, rfl⟩
  refine Agrees.bind (h.startWorkers enabled) fun _ g g' h => ?_
  refine Agrees.bind (likeness_upToSuspension.note h _) fun _ g g' h => ?_
  obtain ⟨suspended, journal, rfl⟩ := h
  exact .ok rfl ⟨suspended, journal, rfl⟩

theorem UpToSuspension.checkEndpoints (h : UpToSuspension g g') :
    Agrees lost UpToSuspension g g' checkEndpoints := by
  refine Agrees.bind (h.call _) fun udc g g' h => ?_
  refine Agrees.bind (likeness_upToSuspension.noteAll h _) fun _ g g' h => Agrees.get ?_
  rw [likeness_upToSuspension.profile h]
  exact likeness_upToSuspension.noteAll h _

/-- **Devices that are the same up to suspension resemble each other.** -/
theorem resemblance_upToSuspension :
    Resemblance lost (UpToSuspension : Gadget σ P → Gadget σ P → Prop) where
  toLikeness := likeness_upToSuspension
  ep0Read room h := h.call _
  ep0Write data h := h.call _
  ep0Stall h := h.call _
  setHalt {g₁ g₂ address handle₁ handle₂} h hhandle₁ hhandle₂ := by
    obtain rfl : handle₁ = handle₂ := by
      obtain ⟨suspended, journal, rfl⟩ := h
      exact Option.some.inj (hhandle₁.symm.trans hhandle₂)
    exact h.call _
  clearHalt {g₁ g₂ address handle₁ handle₂} h hhandle₁ hhandle₂ := by
    obtain rfl : handle₁ = handle₂ := by
      obtain ⟨suspended, journal, rfl⟩ := h
      exact Option.some.inj (hhandle₁.symm.trans hhandle₂)
    exact h.call _
  checkEndpoints h := h.checkEndpoints
  stop h := h.stop.weaken
  selectConfiguration value configuration h := h.selectConfiguration value configuration

/-! ### Moves -/

/-- **Suspension changes no move.** -/
theorem UpToSuspension.dispatch (h : UpToSuspension g g') (m : Move σ P) :
    Agrees lost UpToSuspension g g' m.dispatch := by
  have hlikeness : Likeness (UpToSuspension : Gadget σ P → Gadget σ P → Prop) :=
    likeness_upToSuspension
  have hhalted : ∀ address halted (s s' : DeviceState), s.Similar s' →
      (s.setHalted address halted).Similar (s'.setHalted address halted) := by
    rintro address halted s _ ⟨suspended, rfl⟩
    exact ⟨suspended, rfl⟩
  cases m with
  | start =>
      refine Agrees.get ?_
      obtain ⟨suspended, journal, rfl⟩ := id h
      refine Agrees.bind (hlikeness.note h _) fun _ g g' h => ?_
      refine Agrees.bind (h.call _) fun _ g g' h => ?_
      refine Agrees.bind (h.call _) fun _ g g' h => ?_
      exact hlikeness.update h fun _ _ _ => ⟨false, rfl⟩
  | event event => exact resemblance_upToSuspension.handleEvent h event
  | step =>
      refine Agrees.bind ?_ fun _ g g' h => agrees_pure h ()
      refine Agrees.bind (h.call _) fun record g g' h => ?_
      exact Agrees.bind (resemblance_upToSuspension.handleEvent h record.decode) fun _ g g' h =>
        agrees_pure h _
  | stop => exact Agrees.bind h.stop fun _ g g' h => agrees_pure h ()
  | halt address =>
      refine Agrees.bind (h.onSlot address fun g g' h => ?_) fun _ g g' h => agrees_pure h ()
      exact Agrees.bind (hlikeness.update h (hhalted address true)) fun _ g g' h => agrees_pure h true
  | wedge address =>
      refine Agrees.bind (h.onSlot address fun g g' h => ?_) fun _ g g' h => agrees_pure h ()
      refine Agrees.bind (hlikeness.update h (hhalted address true)) fun _ g g' h => ?_
      obtain ⟨suspended, journal, rfl⟩ := h
      exact .ok rfl ⟨suspended, journal, rfl⟩
  | unhalt address =>
      refine Agrees.bind (h.onSlot address fun g g' h => ?_) fun _ g g' h => agrees_pure h ()
      refine Agrees.bind (hlikeness.update h (hhalted address false)) fun _ g g' h => ?_
      obtain ⟨suspended, journal, rfl⟩ := h
      exact .ok rfl ⟨suspended, journal, rfl⟩
  | work address => exact .ok rfl (h.runWorker 1 address)
  | outside f =>
      obtain ⟨suspended, journal, rfl⟩ := h
      exact .ok rfl ⟨suspended, journal, rfl⟩
  | stock f =>
      obtain ⟨suspended, journal, rfl⟩ := h
      exact .ok rfl ⟨suspended, journal, rfl⟩
  | adjust f =>
      obtain ⟨suspended, journal, rfl⟩ := h
      exact .ok rfl ⟨suspended, journal, rfl⟩
  | threads refusals =>
      obtain ⟨suspended, journal, rfl⟩ := h
      exact .ok rfl ⟨suspended, journal, rfl⟩

end channel

end Gadget

/-! ### Quiet events -/

/-- An event that changes no more than suspension. -/
def BusEvent.isQuiet : BusEvent → Bool
  | .suspend | .resume | .unknown _ _ | .malformed _ _ => true
  | _ => false

/-- The second run is the first without some of its quiet events. -/
inductive Thins {σ P : Type} : List (Move σ P) → List (Move σ P) → Prop where
  | nil : Thins [] []
  | kept (m : Move σ P) {ms ms' : List (Move σ P)} : Thins ms ms' → Thins (m :: ms) (m :: ms')
  | dropped {event : BusEvent} {ms ms' : List (Move σ P)} : event.isQuiet = true → Thins ms ms' →
      Thins (.event event :: ms) ms'

/-- A thinned run can be taken apart where the run is. -/
theorem Thins.split {σ P : Type} {pre post ms' : List (Move σ P)} (h : Thins (pre ++ post) ms') :
    ∃ pre' post', ms' = pre' ++ post' ∧ Thins pre pre' ∧ Thins post post' := by
  induction pre generalizing ms' with
  | nil => exact ⟨[], ms', rfl, .nil, h⟩
  | cons m pre ih =>
      cases h with
      | kept _ h =>
          obtain ⟨pre', post', rfl, hpre, hpost⟩ := ih h
          exact ⟨m :: pre', post', rfl, .kept m hpre, hpost⟩
      | dropped hquiet h =>
          obtain ⟨pre', post', rfl, hpre, hpost⟩ := ih h
          exact ⟨pre', post', rfl, .dropped hquiet hpre, hpost⟩

namespace Gadget

variable {σ P : Type} [Channel σ] [DeviceProfile P] {g g' : Gadget σ P}

/-- A quiet event changes nothing but suspension and the journal. -/
theorem upToSuspension_quiet (g : Gadget σ P) {event : BusEvent} (h : event.isQuiet = true) :
    UpToSuspension g (g.next (.event event)) := by
  cases event with
  | suspend => exact ⟨true, _, rfl⟩
  | resume => exact ⟨false, _, rfl⟩
  | unknown tag length => exact ⟨g.state.suspended, _, rfl⟩
  | malformed tag length => exact ⟨g.state.suspended, _, rfl⟩
  | _ => cases h

/-- A run without some of its quiet events fails no more than before, and leads to the same device up
to suspension. -/
theorem UpToSuspension.thinned (h : UpToSuspension g g') {ms ms' : List (Move σ P)}
    (hthins : Thins ms ms') (hsmooth : g.Smooth ms) :
    g'.Smooth ms' ∧ UpToSuspension (g.after ms) (g'.after ms') := by
  induction hthins generalizing g g' with
  | nil => exact ⟨trivial, h⟩
  | kept m _ ih =>
      have hmove : Agrees (fun _ => False) UpToSuspension g g' m.dispatch := h.dispatch m
      have hnext := hmove.related (fun _ he => he.elim) fun _ he => he.elim
      obtain ⟨hrest, hafter⟩ := ih hnext hsmooth.2
      exact ⟨⟨(hmove.result fun _ => id).trans hsmooth.1, hrest⟩, hafter⟩
  | dropped hquiet _ ih =>
      have hnext := (upToSuspension_quiet g hquiet).symm.trans h
      exact ih hnext hsmooth.2

end Gadget

/-! ### What a host sees of suspension -/

/-- Whether what a host sees of suspension is decided by an event. -/
def BusEvent.turns : BusEvent → Bool
  | .connect | .suspend | .resume | .reset | .disconnect => true
  | _ => false

namespace Gadget

section dimming

variable {σ P : Type} {g g' : Gadget σ P}

/-- Suspension is as it was, and stands beside the stage. -/
structure Undimmed (g g' : Gadget σ P) : Prop where
  suspended : g'.state.suspended = g.state.suspended
  base : g.state.base ≠ .suspended → g'.state.base ≠ .suspended

theorem Undimmed.of_state (h : g'.state = g.state) : Undimmed g g' := by
  constructor
  · rw [h]
  · rw [h]
    exact id

theorem select_base (s : DeviceState) (value : UInt8) : (s.select value).base ≠ .suspended := by
  unfold DeviceState.select
  dsimp only
  split <;> exact nofun

theorem undimmed_halting {address : Address} {operation : Handle → σ → Except DeviceError Unit × σ}
    {halted : Bool} {wedged : ByteSet} {outcome : Except DeviceError Bool × Gadget σ P}
    (h : Halting g address operation halted wedged outcome) : Undimmed g outcome.2 := by
  cases h <;> exact ⟨rfl, id⟩

variable [Channel σ]

theorem undimmed_stop (g : Gadget σ P) : Undimmed g (g.does stop).2 := .of_state (state_stop g)

theorem undimmed_served {outcome : Except DeviceError (Reply P) × Gadget σ P}
    (h : Served g outcome) : Undimmed g outcome.2 := by
  cases h <;> exact ⟨rfl, id⟩

theorem undimmed_selecting {s : Selection} {outcome : Except DeviceError (Reply P) × Gadget σ P}
    (h : Selecting g s outcome) : Undimmed g outcome.2 := by
  have hstate := state_selecting h
  cases hprepare : (g.does s.prepare).1 with
  | error e =>
      rw [hprepare] at hstate
      exact .of_state hstate
  | ok _ =>
      rw [hprepare] at hstate
      constructor
      · rw [hstate]
        rfl
      · rw [hstate]
        exact fun _ => select_base g.state s.value

variable [DeviceProfile P]

theorem undimmed_answer (g : Gadget σ P) (setup : Setup) :
    Undimmed g (g.does (answer setup)).2 := by
  obtain ⟨journal, h⟩ := answered g setup
  cases hselection : selection? g.profile setup with
  | none =>
      rw [hselection] at h
      have hserved := undimmed_served h
      exact ⟨hserved.suspended, hserved.base⟩
  | some s =>
      rw [hselection] at h
      have hselected := undimmed_selecting h
      exact ⟨hselected.suspended, hselected.base⟩

/-- What an event makes of suspension: one that turns the bus decides it unless it fails, and nothing
else changes it. -/
theorem dimmed_handled (g : Gadget σ P) (event : BusEvent) :
    let outcome := g.does (handleEvent event)
    (outcome.1 = .ok () ∧ event.turns = true →
        outcome.2.state.suspended = decide (event = .suspend)) ∧
      (¬(outcome.1 = .ok () ∧ event.turns = true) →
        outcome.2.state.suspended = g.state.suspended) ∧
      (g.state.base ≠ .suspended → outcome.2.state.base ≠ .suspended) := by
  intro outcome
  have hhandling : Handling _ event outcome := handling g event
  have hstate : ({ g with journal := g.journal.add [.event event] } : Gadget σ P).state = g.state :=
    rfl
  generalize ({ g with journal := g.journal.add [.event event] } : Gadget σ P) = g₀
    at hhandling hstate
  generalize outcome = outcome at hhandling ⊢
  rw [← hstate]
  cases hhandling with
  | unknown tag length journal => exact ⟨fun h => absurd h.2 nofun, fun _ => rfl, id⟩
  | malformed tag length journal => exact ⟨fun h => absurd h.2 nofun, fun _ => rfl, id⟩
  | suspended journal => exact ⟨fun _ => rfl, fun h => absurd ⟨rfl, rfl⟩ h, id⟩
  | resumed journal => exact ⟨fun _ => rfl, fun h => absurd ⟨rfl, rfl⟩ h, id⟩
  | stuck _ hstop =>
      have hstopped := undimmed_stop g₀
      rw [hstop] at hstopped
      exact ⟨fun h => absurd h.1 nofun, fun _ => hstopped.suspended, hstopped.base⟩
  | unchecked hstop _ =>
      have hstopped := undimmed_stop g₀
      rw [hstop] at hstopped
      exact ⟨fun h => absurd h.1 nofun, fun _ => hstopped.suspended, hstopped.base⟩
  | renewed profile journal hbase _ _ =>
      have hturns : event.turns = true ∧ event ≠ .suspend := by
        cases event <;> cases hbase <;> exact ⟨rfl, nofun⟩
      have hsuspended : decide (event = .suspend) = false := decide_eq_false hturns.2
      refine ⟨fun _ => hsuspended.symm, fun h => absurd ⟨rfl, hturns.1⟩ h, fun _ => ?_⟩
      rintro rfl
      cases event <;> cases hbase
  | @unanswered setup e g' hanswer =>
      have hanswered := undimmed_answer g₀ setup
      rw [hanswer] at hanswered
      exact ⟨fun h => absurd h.1 nofun, fun _ => hanswered.suspended, hanswered.base⟩
  | @answered setup reply g₁ profile journal hanswer =>
      have hanswered := undimmed_answer g₀ setup
      rw [hanswer] at hanswered
      exact ⟨fun h => absurd h.2 nofun, fun _ => hanswered.suspended, hanswered.base⟩

/-- The event that a device handles in a move, unless it fails. -/
def handled? (g : Gadget σ P) (m : Move σ P) : Option BusEvent :=
  (g.does m.dispatch).1.toOption.bind fun _ => g.event? m

/-- The events that a device handles in a run, oldest first. -/
def handledIn (g : Gadget σ P) : List (Move σ P) → List BusEvent
  | [] => []
  | m :: ms => (g.handled? m).toList ++ (g.next m).handledIn ms

/-- The last event that turned the bus. -/
def lastTurn? (events : List BusEvent) : Option BusEvent := (events.filter (·.turns)).getLast?

/-- Whether the bus is suspended after some events. -/
def suspendedAfter (was : Bool) (events : List BusEvent) : Bool :=
  match lastTurn? events with
  | some event => decide (event = .suspend)
  | none => was

theorem suspendedAfter_append (was : Bool) (events later : List BusEvent) :
    suspendedAfter was (events ++ later) = suspendedAfter (suspendedAfter was events) later := by
  unfold suspendedAfter lastTurn?
  rw [List.filter_append, List.getLast?_append]
  cases (later.filter (·.turns)).getLast? <;> rfl

theorem suspendedAfter_single (was : Bool) (event : BusEvent) :
    suspendedAfter was [event] = if event.turns then decide (event = .suspend) else was := by
  cases event <;> rfl

/-- Suspension after an event that is handled. -/
theorem suspended_handled (g : Gadget σ P) (event : BusEvent) :
    (g.next (.event event)).state.suspended =
        suspendedAfter g.state.suspended (g.handled? (.event event)).toList ∧
      (g.state.base ≠ .suspended → (g.next (.event event)).state.base ≠ .suspended) := by
  obtain ⟨hturned, hkept, hbase⟩ := dimmed_handled g event
  refine ⟨?_, hbase⟩
  unfold handled? event? next Move.dispatch
  rcases hdoes : g.does (handleEvent event) with ⟨e | ⟨⟩, g'⟩
  · rw [hdoes] at hkept
    exact hkept fun h => nomatch h.1
  · rw [hdoes] at hturned hkept
    show g'.state.suspended = suspendedAfter g.state.suspended [event]
    rw [suspendedAfter_single]
    split
    · rename_i hturns
      exact hturned ⟨rfl, hturns⟩
    · rename_i hturns
      exact hkept fun h => hturns h.2

/-- Fetching an event and handling it, or failing to fetch one. -/
theorem next_step_cases (g : Gadget σ P) :
    (∃ channel, g.next .step = g.withChannel channel ∧ g.handled? .step = none) ∨
      ∃ channel event, g.next .step = (g.withChannel channel).next (.event event) ∧
        g.handled? .step = (g.withChannel channel).handled? (.event event) := by
  have hresult : (g.does Move.step.dispatch).1 = (g.does step).1.map fun _ => () := by
    show (g.does (do let _ ← step)).1 = _
    rw [does_bind]
    rcases g.does step with ⟨e | a, g'⟩ <;> rfl
  unfold handled? event?
  rw [next_step, hresult, does_step]
  rcases Channel.fetchEvent g.around.channel with ⟨e | record, channel⟩
  · exact .inl ⟨channel, rfl, rfl⟩
  · refine .inr ⟨channel, record.decode, rfl, ?_⟩
    dsimp only [Move.dispatch]
    rcases (g.withChannel channel).does (handleEvent record.decode) with ⟨e | ⟨⟩, g'⟩ <;> rfl

/-- Suspension after a move of a device that is running. -/
theorem suspended_next (g : Gadget σ P) {m : Move σ P} (hm : m ≠ .start) :
    (g.next m).state.suspended = suspendedAfter g.state.suspended (g.handled? m).toList ∧
      (g.state.base ≠ .suspended → (g.next m).state.base ≠ .suspended) := by
  have hquiet : ∀ {g' : Gadget σ P} {events : Option BusEvent}, events = none → Undimmed g g' →
      g'.state.suspended = suspendedAfter g.state.suspended events.toList ∧
        (g.state.base ≠ .suspended → g'.state.base ≠ .suspended) := by
    rintro g' _ rfl h
    exact ⟨h.suspended, h.base⟩
  have hnone : ∀ result : Except DeviceError Unit,
      (result.toOption.bind fun _ => (none : Option BusEvent)) = none := by
    intro result
    cases result <;> rfl
  cases m with
  | start => exact absurd rfl hm
  | event event => exact suspended_handled g event
  | step =>
      rcases g.next_step_cases with ⟨channel, hnext, hhandled⟩ | ⟨channel, event, hnext, hhandled⟩
      · rw [hnext]
        exact hquiet hhandled (.of_state rfl)
      · rw [hnext, hhandled]
        exact suspended_handled (g.withChannel channel) event
  | stop =>
      rw [next_stop]
      exact hquiet (hnone _) (undimmed_stop g)
  | halt address =>
      rw [next_halt]
      exact hquiet (hnone _) (undimmed_halting (halting_halt g address))
  | wedge address =>
      rw [next_wedge]
      exact hquiet (hnone _) (undimmed_halting (halting_wedge g address))
  | unhalt address =>
      rw [next_unhalt]
      exact hquiet (hnone _) (undimmed_halting (halting_unhalt g address))
  | work address =>
      obtain ⟨around, roster, journal, hwork, -, -⟩ := runWorker_within Calm.any 1 address g
      have hstate : (g.next (.work address)).state = g.state := by
        rw [next_work, hwork]
      exact hquiet rfl (.of_state hstate)
  | outside f => exact hquiet rfl (.of_state rfl)
  | stock f => exact hquiet rfl (.of_state rfl)
  | adjust f => exact hquiet rfl (.of_state rfl)
  | threads refusals => exact hquiet rfl (.of_state rfl)

theorem suspended_after (g : Gadget σ P) {ms : List (Move σ P)} (hms : ∀ m ∈ ms, m ≠ .start) :
    (g.after ms).state.suspended = suspendedAfter g.state.suspended (g.handledIn ms) ∧
      (g.state.base ≠ .suspended → (g.after ms).state.base ≠ .suspended) := by
  induction ms generalizing g with
  | nil => exact ⟨rfl, id⟩
  | cons m ms ih =>
      obtain ⟨hnext, hbase⟩ := suspended_next g (hms m List.mem_cons_self)
      obtain ⟨hafter, hbase'⟩ := ih (g.next m) fun n hn => hms n (List.mem_cons_of_mem _ hn)
      refine ⟨?_, fun h => hbase' (hbase h)⟩
      rw [handledIn, suspendedAfter_append, ← hnext]
      exact hafter

/-- **What a host sees of suspension** after a device was started: the device is suspended if the last
event that turned the bus is a suspend, and otherwise it is in its own stage. -/
theorem lifecycle_after {g g₀ : Gadget σ P} (hstart : g.does start = (.ok (), g₀))
    {ms : List (Move σ P)} (hms : ∀ m ∈ ms, m ≠ .start) :
    ((g₀.after ms).state.lifecycle = .suspended ↔
        lastTurn? (g₀.handledIn ms) = some .suspend) ∧
      (lastTurn? (g₀.handledIn ms) ≠ some .suspend →
        (g₀.after ms).state.lifecycle = (g₀.after ms).state.base) := by
  have hstate : g₀.state = .reset .powered := by
    obtain ⟨channel, journal, h | ⟨e, h⟩⟩ := does_start g
    · rw [hstart] at h
      rw [(Prod.mk.inj h).2]
    · rw [hstart] at h
      cases h
  obtain ⟨hsuspended, hbase⟩ := suspended_after g₀ hms
  rw [hstate] at hsuspended hbase
  have hbase := hbase nofun
  have hlast : (g₀.after ms).state.suspended = true ↔
      lastTurn? (g₀.handledIn ms) = some .suspend := by
    rw [hsuspended]
    unfold suspendedAfter
    cases lastTurn? (g₀.handledIn ms) with
    | none => simp [DeviceState.reset]
    | some event => simp
  unfold DeviceState.lifecycle
  by_cases h : (g₀.after ms).state.suspended = true
  · rw [if_pos h]
    exact ⟨⟨fun _ => hlast.mp h, fun _ => rfl⟩, fun hne => absurd (hlast.mp h) hne⟩
  · rw [if_neg h]
    exact ⟨⟨fun hs => absurd hs hbase, fun hs => absurd (hlast.mpr hs) h⟩, fun _ => rfl⟩

end dimming

/-! ### Transparency -/

section transparency

variable {σ P : Type} [Channel σ] [DeviceProfile P]

/-- **Quiet events are transparent.**  A run of a device that was started, and that does not fail, can
do without any of its quiet events.  It does not fail then either, and makes the same calls.  Wherever
it is, the device is the one of the first run at that place, but for suspension and what was noted.  In
every run, what a host sees of suspension is told by the last event that was handled and turned the
bus. -/
theorem quiet_transparent {g₀ g : Gadget (Traced σ) P} (hstart : g₀.does start = (.ok (), g))
    {ms : List (Move (Traced σ) P)} (hms : ∀ m ∈ ms, m ≠ .start) :
    (∀ ms', g.Smooth ms → Thins ms ms' →
      g.Smooth ms' ∧ (g.after ms').calls = (g.after ms).calls ∧
        ∀ pre post, ms = pre ++ post → ∃ pre' post', ms' = pre' ++ post' ∧
          Thins pre pre' ∧ Thins post post' ∧ UpToSuspension (g.after pre) (g.after pre')) ∧
      (let last := lastTurn? (g.handledIn ms)
        let state := (g.after ms).state
        (state.lifecycle = .suspended ↔ last = some .suspend) ∧
          (last ≠ some .suspend → state.lifecycle = state.base)) := by
  refine ⟨fun ms' hsmooth hthins => ?_, lifecycle_after hstart hms⟩
  obtain ⟨hsmooth', hafter⟩ := (UpToSuspension.refl g).thinned hthins hsmooth
  refine ⟨hsmooth', ?_, ?_⟩
  · obtain ⟨suspended, journal, heq⟩ := hafter
    rw [heq]
    rfl
  · rintro pre post rfl
    obtain ⟨pre', post', hms', hpre, hpost⟩ := hthins.split
    have hprefix := (smooth_append.mp hsmooth).1
    exact ⟨pre', post', hms', hpre, hpost, ((UpToSuspension.refl g).thinned hpre hprefix).2⟩

/-- A device on an idle bus. -/
def dozingNew : Gadget (Traced Bus) PlainDevice := new { inner := Bus.idle } {} .twoWay .standard

/-- A host that selects a configuration while the bus is suspended, and resets it. -/
def dozingRun : List (Move (Traced Bus) PlainDevice) :=
  [.event .connect, .event .suspend, .event (.control (.select 1)), .event (.unknown 9 0), .halt 129,
    .event .resume, .event .reset, .event .suspend]

/-- The host without its detours. -/
def wakefulRun : List (Move (Traced Bus) PlainDevice) :=
  [.event .connect, .event (.control (.select 1)), .halt 129, .event .resume, .event .reset]

/-- Both runs make the same calls, and the first ends on a suspended bus. -/
theorem dozing_transparent :
    let started := dozingNew.next .start
    (started.after wakefulRun).calls = (started.after dozingRun).calls ∧
      (started.after dozingRun).state.lifecycle = .suspended ∧
      (started.after wakefulRun).state.lifecycle = .default := by
  intro started
  have hstart : dozingNew.does start = (.ok (), started) := Prod.ext (by decide +kernel) rfl
  have hms : ∀ m ∈ dozingRun, m ≠ .start := by
    simp [dozingRun]
  have hsmooth : started.Smooth dozingRun := by decide +kernel
  have hthins : Thins dozingRun wakefulRun :=
    .kept _ (.dropped rfl (.kept _ (.dropped rfl (.kept _ (.kept _ (.kept _ (.dropped rfl .nil)))))))
  have hlast : lastTurn? (started.handledIn dozingRun) = some .suspend := by decide +kernel
  obtain ⟨htransparent, hlifecycle, -⟩ := quiet_transparent hstart hms
  obtain ⟨-, hcalls, -⟩ := htransparent wakefulRun hsmooth hthins
  exact ⟨hcalls, hlifecycle.mpr hlast, by decide +kernel⟩

end transparency

end Gadget

end UsbPeripheral
