import UsbPeripheral.Proofs.Service
import UsbPeripheral.Proofs.Suspension
import UsbPeripheral.Proofs.Twins

/-! # A reset and a selection erase history

Two devices may have come to where they are in different ways: with other halts, other configurations,
data that nobody took, or higher handles.  When both are reset, or both are given the same
configuration, nothing of that matters any more (`Forgets`): whatever their hosts send them from then
on, if it is the same, it has the same effects (`forgets_history`).

This rests on two facts.

* **No endpoint is left behind** (`tends_after`): after a run without a failure every enabled endpoint
  is in the roster, so that the roster of a device that forgets can be told from the configuration.
* **Twins stay twins** (`Twins.after`): devices that differ in their handles handle the events that they
  **meet** alike, whatever else happens to each of them meanwhile. -/

namespace UsbPeripheral

namespace Gadget

variable {P : Type} {g g' g₁ g₂ g₁' g₂' : Gadget Bus P}

/-! ### No endpoint is left behind -/

/-- A change after which there still is no endpoint outside the roster, and the requests are handled
by the same handlers. -/
structure Tends (g g' : Gadget Bus P) : Prop where
  tended : g.Tended → g'.Tended
  handlers : g'.handlers = g.handlers

theorem Tends.trans {g₁ g₂ g₃ : Gadget Bus P} (h₁ : Tends g₁ g₂) (h₂ : Tends g₂ g₃) :
    Tends g₁ g₃ :=
  ⟨fun hg => h₂.tended (h₁.tended hg), h₂.handlers.trans h₁.handlers⟩

theorem tends_of_frame (hbus : Bus.Quenches (fun _ => False) g.bus g'.bus)
    (hroster : ∀ address, g'.roster.handle? address = g.roster.handle? address)
    (hhandlers : g'.handlers = g.handlers) : Tends g g' := by
  refine ⟨fun hg => ⟨hg.sound.of_quenches hbus, fun {handle address} hlive => ?_⟩, hhandlers⟩
  rw [hroster]
  exact hg.handle_of_live (hbus.fades hlive)

/-- What happens beside the roster, without enabling or disabling. -/
theorem tends_of_bus {around : Surroundings Bus} {profile : P} {state : DeviceState}
    {wedged : ByteSet} {journal : Journal}
    (hbus : Bus.Quenches (fun _ => False) g.bus around.channel) :
    Tends g { g with around, profile, state, wedged, journal } :=
  tends_of_frame hbus (fun _ => rfl) rfl

theorem Bare.tended (hg : g.Bare) : g.Tended :=
  ⟨hg.sound, fun {handle _} hlive => absurd hlive (hg.dead handle _)⟩

theorem Tended.noted (hg : g.Tended) (journal : Journal) : Tended { g with journal } :=
  ⟨hg.sound, hg.handle_of_live⟩

theorem Bare.enabled (hg : g.Bare) : g.bus.enabled = [] := by
  refine List.eq_nil_iff_forall_not_mem.mpr fun address hmem => ?_
  obtain ⟨handle, hlive⟩ := (Bus.mem_enabled hg.sound).mp hmem
  exact hg.dead handle address hlive

theorem handlers_stop (g : Gadget Bus P) : (g.does stop).2.handlers = g.handlers := by
  obtain ⟨around, journal, h⟩ := does_stop_forgotten g
  rw [h]
  rfl

theorem tends_stop {exits : List (Address × Exit)} (h : g.does stop = (.ok exits, g')) :
    Tends g g' := by
  have hhandlers := handlers_stop g
  rw [h] at hhandlers
  exact ⟨fun hg => (hg.bare_stop h).tended, hhandlers⟩

/-- A roster that was taken down and filled again has every enabled endpoint. -/
theorem tends_selecting {s : Selection} {reply : Reply P} (h : Selecting g s (.ok reply, g')) :
    Tends g g' := by
  cases h with
  | cleared journal hstop => exact (tends_stop hstop).trans (tends_of_bus (.refl _))
  | @selected value configuration exits enabled g₁ g₂ roster profile journal hstop hup hroster =>
      have hhandlers := (tends_stop hstop).handlers
      obtain ⟨channel, rfl⟩ := withChannel_of_bringUp hup
      refine ⟨fun hg => ?_, hhandlers⟩
      have hbare := hg.bare_stop hstop
      have hempty : (g₁.withChannel channel).roster = .empty := hbare.roster
      rw [hempty] at hroster
      exact ⟨(bringUp_live hbare hup).1, hbare.handle_of_enrolled hup hroster⟩

theorem tends_served {outcome : Except DeviceError (Reply P) × Gadget Bus P} (h : Served g outcome) :
    Tends g outcome.2 := by
  cases h with
  | kept reply profile journal => exact tends_of_bus (.refl _)
  | waking wakeup => exact tends_of_bus (.refl _)
  | alternated alternate profile _ => exact tends_of_bus (.refl _)
  | halted _ hcall => exact tends_of_bus (quenches_of_perform hcall)
  | resumed _ _ hcall => exact tends_of_bus (quenches_of_perform hcall)
  | unhalted hcall => exact tends_of_bus (quenches_of_perform hcall)
  | unresumed hcall => exact tends_of_bus (quenches_of_perform hcall)

theorem tends_halting {address : Address} {operation : Handle → Bus → Except DeviceError Unit × Bus}
    {halted : Bool} {wedged : ByteSet} {outcome : Except DeviceError Bool × Gadget Bus P}
    (hoperation : ∀ handle b, Bus.Quenches (fun _ => False) b (operation handle b).2)
    (h : Halting g address operation halted wedged outcome) : Tends g outcome.2 := by
  cases h with
  | absent _ => exact tends_of_bus (.refl _)
  | @done handle channel _ hcall =>
      have hbus := hoperation handle g.around.channel
      rw [hcall] at hbus
      exact tends_of_bus hbus
  | @failed handle e channel hcall =>
      have hbus := hoperation handle g.around.channel
      rw [hcall] at hbus
      exact tends_of_bus hbus

section device

variable [DeviceProfile P]

theorem tends_answer {setup : Setup} {reply : Reply P}
    (h : g.does (answer setup) = (.ok reply, g')) : Tends g g' := by
  obtain ⟨journal, hanswered⟩ := answered g setup
  have hnoted : Tends g { g with journal } := tends_of_bus (.refl _)
  rw [h] at hanswered
  split at hanswered
  · exact hnoted.trans (tends_selecting hanswered)
  · exact hnoted.trans (tends_served hanswered)

theorem tends_handled {event : BusEvent} (h : g.does (handleEvent event) = (.ok (), g')) :
    Tends g g' := by
  have hhandling := handling g event
  rw [h] at hhandling
  have hnoted : Tends g { g with journal := g.journal.add [.event event] } := tends_of_bus (.refl _)
  refine hnoted.trans ?_
  generalize hresult : (Except.ok () : Except DeviceError Unit) = result at hhandling
  cases hhandling with
  | unknown tag length journal => exact tends_of_bus (.refl _)
  | malformed tag length journal => exact tends_of_bus (.refl _)
  | suspended journal => exact tends_of_bus (.refl _)
  | resumed journal => exact tends_of_bus (.refl _)
  | stuck _ _ => cases hresult
  | unchecked _ _ => cases hresult
  | @renewed _ base exits g₁ channel profile journal _ hstop hchannel =>
      obtain rfl : channel = g₁.around.channel := Bus.eq_of_looked hchannel
      exact (tends_stop hstop).trans (tends_of_bus (.refl _))
  | unanswered _ => cases hresult
  | @answered setup reply g₁ profile journal hanswer =>
      exact (tends_answer hanswer).trans (tends_of_bus (quenches_operate _ _))

/-- **Every successful move leaves no endpoint behind.** -/
theorem tends_next {m : Move Bus P} (hm : Hosted m) (hok : (g.does m.dispatch).1 = .ok ()) :
    Tends g (g.next m) := by
  have hdoes : g.does m.dispatch = (.ok (), g.next m) := Prod.ext hok rfl
  have hoperation : ∀ p b, Bus.Quenches (fun _ => False) b (Bus.perform p b).2 :=
    fun _ _ => Bus.quenches_of_pipes rfl
  cases m with
  | start => exact tends_of_bus (Bus.quenches_of_pipes rfl)
  | event event => exact tends_handled hdoes
  | step =>
      obtain ⟨event, hstep⟩ := ok_of_dropped hdoes
      obtain ⟨first, rest, -, -, hhandled⟩ := handled_of_step hstep
      have hfetched : Tends g (g.fetched first rest) := tends_of_bus (Bus.quenches_of_pipes rfl)
      exact hfetched.trans (tends_handled hhandled)
  | stop =>
      obtain ⟨exits, hstop⟩ := ok_of_dropped hdoes
      exact tends_stop hstop
  | halt address =>
      rw [next_halt]
      exact tends_halting (fun _ => hoperation _) (halting_halt g address)
  | wedge address =>
      rw [next_wedge]
      exact tends_halting (fun _ => hoperation _) (halting_wedge g address)
  | unhalt address =>
      rw [next_unhalt]
      exact tends_halting (fun _ => hoperation _) (halting_unhalt g address)
  | work address =>
      obtain ⟨around, roster, journal, hwork, hquenches, hroster⟩ :=
        runWorker_within Bus.calm_quenches 1 address g
      rw [next_work, hwork]
      exact tends_of_frame hquenches hroster rfl
  | outside f =>
      obtain ⟨a, rfl⟩ := hm
      exact tends_of_bus (a.quenches g.bus)
  | stock f => exact tends_of_bus (.refl _)
  | adjust f => exact tends_of_bus (.refl _)
  | threads refusals => exact tends_of_frame (.refl _) (fun _ => rfl) rfl

/-- **No endpoint is left behind** by a run without a failure. -/
theorem tends_after {ms : List (Move Bus P)} (hms : ∀ m ∈ ms, Hosted m) (hsmooth : g.Smooth ms) :
    Tends g (g.after ms) :=
  after_keeps (I := Tends g) (fun _ _ h hm hok => h.trans (tends_next hm hok))
    ⟨id, rfl⟩ hms hsmooth

/-! ### Devices that forget -/

/-- An event that is handled in a move is handled by the device with some events left and some data
stage. -/
theorem does_of_handled {m : Move Bus P} {event : BusEvent} (h : g.handled? m = some event) :
    ∃ events dataStage, (g.withChannel { g.bus with events, dataStage }).does (handleEvent event) =
      (.ok (), g.next m) := by
  unfold handled? at h
  obtain ⟨⟨⟩, hok, hevent⟩ := Option.bind_eq_some_iff.mp h
  have hdoes : g.does m.dispatch = (.ok (), g.next m) := by
    refine Prod.ext ?_ rfl
    rcases hresult : (g.does m.dispatch).1 with e | ⟨⟩
    · rw [hresult] at hok
      cases hok
    · rfl
  cases m with
  | event e =>
      obtain rfl := Option.some.inj hevent
      exact ⟨g.bus.events, g.bus.dataStage, hdoes⟩
  | step =>
      obtain ⟨found, hstep⟩ := ok_of_dropped hdoes
      obtain ⟨first, rest, hevents, rfl, hhandled⟩ := handled_of_step hstep
      have hfetch : g.bus.fetchEvent = (.ok first.record,
          { g.bus with events := rest, dataStage := first.dataStage }) := by
        unfold Bus.fetchEvent
        rw [hevents]
      have hevent : g.bus.fetchEvent.1.toOption.map (·.decode) = some event := hevent
      rw [hfetch] at hevent
      obtain rfl := Option.some.inj hevent
      exact ⟨rest, first.dataStage, hhandled⟩
  | _ => cases hevent

/-- A device that starts over is bare. -/
theorem bare_of_renewal (hg : g.Tended) {event : BusEvent} {base : Lifecycle}
    (hrenewal : event.renewal? = some base) (h : g.does (handleEvent event) = (.ok (), g')) :
    g'.Bare ∧ g'.state = .reset base ∧ g'.handlers = g.handlers := by
  have hhandlers := (tends_handled h).handlers
  have hnoted : Tends g { g with journal := g.journal.add [.event event] } := tends_of_bus (.refl _)
  have hhandling := handling g event
  rw [h] at hhandling
  generalize hresult : (Except.ok () : Except DeviceError Unit) = result at hhandling
  cases hhandling with
  | unknown tag length journal => cases hrenewal
  | malformed tag length journal => cases hrenewal
  | suspended journal => cases hrenewal
  | resumed journal => cases hrenewal
  | stuck _ _ => cases hresult
  | unchecked _ _ => cases hresult
  | @renewed _ base' exits g₁ channel profile journal hbase hstop hchannel =>
      obtain rfl : base' = base := Option.some.inj (hbase.symm.trans hrenewal)
      obtain rfl : channel = g₁.around.channel := Bus.eq_of_looked hchannel
      exact ⟨((hnoted.tended hg).bare_stop hstop).elsewhere, rfl, hhandlers⟩
  | unanswered _ => cases hrenewal
  | answered _ _ _ => cases hrenewal

omit [DeviceProfile P] in
/-- Bare devices are mates. -/
theorem mates_of_bare (h₁ : g₁.Bare) (h₂ : g₂.Bare) (hprofile : g₂.profile = g₁.profile)
    (hhandlers : g₂.handlers = g₁.handlers) : Mates g₁ g₂ where
  orderlyFirst := orderly_of_empty h₁.sound h₁.roster
  orderlySecond := orderly_of_empty h₂.sound h₂.roster
  profile := hprofile
  handlers := hhandlers
  selected := h₂.selected.trans h₁.selected.symm
  wedged := h₂.wedged.trans h₁.wedged.symm
  keys := by rw [h₁.roster, h₂.roster]
  enabled := h₂.enabled.trans h₁.enabled.symm

/-- A packet that picks a configuration selects it, and is acknowledged. -/
theorem does_control_pick {setup : Setup} {value : UInt8} {configuration : Configuration}
    (hselection : selection? g.profile setup = some (.pick value configuration))
    (h : g.does (handleEvent (.control setup)) = (.ok (), g')) :
    ∃ journal g₁, does { g with journal } (selectConfiguration value configuration) = (.ok (), g₁) ∧
      ∃ channel journal', g' = { g₁.withChannel channel with journal := journal' } ∧
        channel.pipes = g₁.bus.pipes := by
  obtain ⟨journal, hanswer⟩ : ∃ journal, (g.noted [.event (.control setup)]).does (answer setup) =
      does { g with journal } (do
        selectConfiguration value configuration
        return .ack) := does_answer_pick (g := g.noted [.event (.control setup)]) hselection
  rw [does_handleEvent_control] at h
  unfold answering at h
  rw [hanswer, does_bind_pure] at h
  refine ⟨journal, ?_⟩
  rcases hselect : does { g with journal } (selectConfiguration value configuration) with
    ⟨e | ⟨⟩, g₁⟩
  · rw [hselect] at h
    cases h
  · rw [hselect] at h
    obtain ⟨journal', hcomplete⟩ := does_complete g₁ setup (.ack : Reply P)
    have hcompleted : g₁.does (complete setup .ack) = (.ok (), g') := h
    have hkept : ∀ result p, handOver setup (.ack : Reply P) result p = p :=
      fun _ _ => handOver_of_none (by rintro handler ⟨⟩)
    rw [hkept] at hcomplete
    rw [hcomplete] at hcompleted
    obtain ⟨-, rfl⟩ := Prod.mk.inj hcompleted
    exact ⟨g₁, rfl, _, journal', rfl, pipes_operate (stage setup (.ack : Reply P)) g₁.bus⟩

theorem state_of_select {value : UInt8} {configuration : Configuration}
    (h : g.does (selectConfiguration value configuration) = (.ok (), g')) :
    g'.state = g.state.select value := by
  have hselecting := selecting_pick g value configuration
  rw [does_bind_pure, h] at hselecting
  exact state_selected hselecting

/-- A configuration is brought up by a bare device. -/
theorem bare_of_select {value : UInt8} {configuration : Configuration} (hg : g.Tended)
    (h : g.does (selectConfiguration value configuration) = (.ok (), g')) :
    ∃ b : Gadget Bus P, b.Bare ∧ b.profile = g.profile ∧ b.handlers = g.handlers ∧
      b.does (bringUp configuration >>= remember value configuration) = (.ok (), g') := by
  rw [selectConfiguration_eq] at h
  obtain ⟨exits, b, hstop, hbring⟩ := does_bind_eq_ok.mp h
  obtain ⟨around, journal, hframe⟩ := does_stop_forgotten g
  rw [hstop] at hframe
  obtain rfl : b = { g.forgotten with around, journal } := hframe
  exact ⟨_, hg.bare_stop hstop, rfl, rfl, hbring⟩

/-- Devices that are given the same configuration are mates in the same state, if they were alike in
what selecting it does not touch. -/
theorem mates_of_selection {setup : Setup} {value : UInt8} {configuration : Configuration}
    (hg₁ : g₁.Tended) (hg₂ : g₂.Tended) (hhandlers : g₂.handlers = g₁.handlers)
    (hprofile : g₂.profile = g₁.profile) (hsuspended : g₂.state.suspended = g₁.state.suspended)
    (hwakeup : g₂.state.remoteWakeup = g₁.state.remoteWakeup)
    (hselection : selection? g₁.profile setup = some (.pick value configuration))
    (h₁ : g₁.does (handleEvent (.control setup)) = (.ok (), g₁'))
    (h₂ : g₂.does (handleEvent (.control setup)) = (.ok (), g₂')) :
    Mates g₁' g₂' ∧ g₂'.state = g₁'.state := by
  obtain ⟨journal₁, s₁, hselect₁, channel₁, journal₁', rfl, hpipes₁⟩ :=
    does_control_pick hselection h₁
  rw [← hprofile] at hselection
  obtain ⟨journal₂, s₂, hselect₂, channel₂, journal₂', rfl, hpipes₂⟩ :=
    does_control_pick hselection h₂
  obtain ⟨b₁, hbare₁, hprofile₁, hhandlers₁, hbring₁⟩ := bare_of_select (hg₁.noted journal₁) hselect₁
  obtain ⟨b₂, hbare₂, hprofile₂, hhandlers₂, hbring₂⟩ := bare_of_select (hg₂.noted journal₂) hselect₂
  have hbare : Mates b₁ b₂ :=
    mates_of_bare hbare₁ hbare₂ (hprofile₂.trans (hprofile.trans hprofile₁.symm))
      (hhandlers₂.trans (hhandlers.trans hhandlers₁.symm))
  have hmates : Mates s₁ s₂ := by
    -- neither of them fails, so whatever could make one of them fail is lost
    have habreast : Abreast (fun _ => True) False b₁ b₂ :=
      { toMates := hbare, state := False.elim, refusals := .inr fun _ => trivial }
    have hbrought := habreast.bringIn trivial value configuration
    rw [hbring₁, hbring₂] at hbrought
    exact (hbrought.related (fun _ _ => nofun) (fun _ _ => nofun)).toMates
  have hcompleted := hmates.of_pipes hpipes₁ hpipes₂
  refine ⟨hcompleted.of_same rfl rfl rfl rfl hmates.profile hmates.handlers hmates.selected
    hmates.wedged, ?_⟩
  have hstate₁ := state_of_select hselect₁
  have hstate₂ := state_of_select hselect₂
  show s₂.state = s₁.state
  rw [hstate₁, hstate₂]
  show g₂.state.select value = g₁.state.select value
  unfold DeviceState.select
  rw [hsuspended, hwakeup]

/-! ### History -/

/-- The device was made on a new bus, and came to where it is without a failure. -/
def Reached (handlers : HandlerTable P) (g : Gadget Bus P) : Prop :=
  ∃ (udc : List UdcEndpoint) (depot : Depot) (profile : P) (settings : Settings)
    (past : List (Move Bus P)),
    DeviceProfile.handlers profile = handlers ∧ (∀ m ∈ past, Hosted m) ∧
      (new ({ udc } : Bus) depot profile settings).Smooth past ∧
      g = (new ({ udc } : Bus) depot profile settings).after past

/-- A device that was reached has no endpoint outside its roster, and its own handlers. -/
theorem Reached.tended {handlers : HandlerTable P} (h : Reached handlers g) :
    g.Tended ∧ g.handlers = handlers := by
  obtain ⟨udc, depot, profile, settings, past, rfl, hpast, hsmooth, rfl⟩ := h
  have hpipes : (new ({ udc } : Bus) depot profile settings).bus.pipes = [] := rfl
  have hnew : (new ({ udc } : Bus) depot profile settings).Tended :=
    ⟨Bus.sound_of_nil hpipes, fun {handle _} hlive => absurd hlive (Bus.dead_of_nil hpipes handle _)⟩
  have htends := tends_after hpast hsmooth
  exact ⟨htends.tended hnew, htends.handlers⟩

/-- Two devices forget in the same way what happened to them before. -/
inductive Forgets (g₁ g₂ : Gadget Bus P) (m₁ m₂ : Move Bus P) : Prop
  /-- Both start over by a reset (or both by a connect, or a disconnect), and their device classes are
  in the same state then. -/
  | renewed {event : BusEvent} {base : Lifecycle} :
      event.renewal? = some base →
      g₁.handled? m₁ = some event → g₂.handled? m₂ = some event →
      (g₂.next m₂).profile = (g₁.next m₁).profile → Forgets g₁ g₂ m₁ m₂
  /-- Both are given the same configuration, and were alike in what this does not touch. -/
  | selected {setup : Setup} {value : UInt8} {configuration : Configuration} :
      selection? g₁.profile setup = some (.pick value configuration) →
      g₂.profile = g₁.profile → g₂.state.suspended = g₁.state.suspended →
      g₂.state.remoteWakeup = g₁.state.remoteWakeup →
      g₁.handled? m₁ = some (.control setup) → g₂.handled? m₂ = some (.control setup) →
      Forgets g₁ g₂ m₁ m₂

/-- Devices that forget in the same way are twins from then on. -/
theorem Forgets.twins {m₁ m₂ : Move Bus P} (h : Forgets g₁ g₂ m₁ m₂) (hg₁ : g₁.Tended)
    (hg₂ : g₂.Tended) (hhandlers : g₂.handlers = g₁.handlers) :
    Twins (g₁.next m₁).bus.ep0 (g₂.next m₂).bus.ep0 (g₁.next m₁) (g₂.next m₂) := by
  have hpresented : ∀ {g : Gadget Bus P} (events : List ScriptedEvent) (dataStage : Option Bytes),
      g.Tended → (g.withChannel { g.bus with events, dataStage }).Tended := by
    intro g events dataStage hg
    have htends : Tends g (g.withChannel { g.bus with events, dataStage }) :=
      tends_of_bus (Bus.quenches_of_pipes rfl)
    exact htends.tended hg
  cases h with
  | renewed hrenewal hhandled₁ hhandled₂ hprofile =>
      obtain ⟨events₁, data₁, hdoes₁⟩ := does_of_handled hhandled₁
      obtain ⟨events₂, data₂, hdoes₂⟩ := does_of_handled hhandled₂
      obtain ⟨hbare₁, hstate₁, hkept₁⟩ :=
        bare_of_renewal (hpresented events₁ data₁ hg₁) hrenewal hdoes₁
      obtain ⟨hbare₂, hstate₂, hkept₂⟩ :=
        bare_of_renewal (hpresented events₂ data₂ hg₂) hrenewal hdoes₂
      have hmates := mates_of_bare hbare₁ hbare₂ hprofile (hkept₂.trans (hhandlers.trans hkept₁.symm))
      exact hmates.twins (hstate₂.trans hstate₁.symm)
  | selected hselection hprofile hsuspended hwakeup hhandled₁ hhandled₂ =>
      obtain ⟨events₁, data₁, hdoes₁⟩ := does_of_handled hhandled₁
      obtain ⟨events₂, data₂, hdoes₂⟩ := does_of_handled hhandled₂
      obtain ⟨hmates, hstate⟩ := mates_of_selection (hpresented events₁ data₁ hg₁)
        (hpresented events₂ data₂ hg₂) hhandlers hprofile hsuspended hwakeup hselection hdoes₁ hdoes₂
      exact hmates.twins hstate

/-- **A reset and a selection erase history.**  Take two devices with the same handlers, each made on a
bus of its own and come to where it is without a failure.  Once both were reset, or were given the same
configuration, whatever they meet from then on, if it is the same, has the same effects: they do the
same on endpoint 0, are in the same state, and have the same addresses enabled, wherever they have come
to.  In between their workers and hosts may do what they like, and a comparison ends where a bus has no
handles left. -/
theorem forgets_history {handlers : HandlerTable P} (h₁ : Reached handlers g₁)
    (h₂ : Reached handlers g₂) {m₁ m₂ : Move Bus P} (hforgets : Forgets g₁ g₂ m₁ m₂)
    {ms₁ ms₂ : List (Move Bus P)} (hms₁ : ∀ m ∈ ms₁, Onward m) (hms₂ : ∀ m ∈ ms₂, Onward m)
    (hsupplied₁ : (g₁.next m₁).Supplied ms₁) (hsupplied₂ : (g₂.next m₂).Supplied ms₂)
    (hmet : (g₂.next m₂).metIn ms₂ = (g₁.next m₁).metIn ms₁) :
    let d₁ := (g₁.next m₁).after ms₁
    let d₂ := (g₂.next m₂).after ms₂
    (∃ performed, d₁.bus.ep0 = (g₁.next m₁).bus.ep0 ++ performed ∧
        d₂.bus.ep0 = (g₂.next m₂).bus.ep0 ++ performed) ∧
      d₂.state = d₁.state ∧ d₂.bus.enabled = d₁.bus.enabled ∧ d₂.roster.keys = d₁.roster.keys := by
  obtain ⟨hg₁, hhandlers₁⟩ := h₁.tended
  obtain ⟨hg₂, hhandlers₂⟩ := h₂.tended
  have htwins := hforgets.twins hg₁ hg₂ (hhandlers₂.trans hhandlers₁.symm)
  have hafter := htwins.after hms₁ hms₂ hsupplied₁ hsupplied₂ hmet
  exact ⟨hafter.ep0, hafter.state, hafter.enabled, hafter.keys⟩

end device

/-- What is met after the reset: the configuration is selected again. -/
def reselected : List (Move Bus PlainDevice) := [.event (.control (.select 1)), .work 2]

/-- What makes a device the one with two endpoints. -/
def IsTwoWay (d : PlainDevice) : Prop :=
  d.catalog.descriptors = [] ∧ d.catalog.strings = [] ∧ d.catalog.languages = [] ∧
    d.catalog.sources.length = 0 ∧ d.configurations = PlainDevice.twoWay.configurations

instance (d : PlainDevice) : Decidable (IsTwoWay d) := inferInstanceAs (Decidable (_ ∧ _))

theorem IsTwoWay.eq {d : PlainDevice} (h : IsTwoWay d) : d = .twoWay := by
  obtain ⟨⟨descriptors, strings, languages, sources⟩, configurations⟩ := d
  obtain ⟨rfl, rfl, rfl, hsources, rfl⟩ := h
  obtain rfl := List.eq_nil_of_length_eq_zero hsources
  rfl

/-- A device with a past and a device without one, after a reset: the first gives out other handles, and
nothing else is different. -/
theorem twoWay_forgets :
    let d₁ := ((twoWayNew.after (.start :: twoWayRun)).next (.event .reset)).after reselected
    let d₂ := ((twoWayNew.after [.start]).next (.event .reset)).after reselected
    d₁.roster.handle? 2 = some 4 ∧ d₂.roster.handle? 2 = some 2 ∧ d₂.state = d₁.state ∧
      d₂.bus.enabled = d₁.bus.enabled := by
  intro d₁ d₂
  have hpast : ∀ m ∈ (.start :: twoWayRun : List (Move Bus PlainDevice)), Hosted m := by
    simp [twoWayRun, Hosted]
  have hreached₁ : Reached (DeviceProfile.handlers PlainDevice.twoWay)
      (twoWayNew.after (.start :: twoWayRun)) :=
    ⟨Bus.standardUdc, {}, .twoWay, .standard, _, rfl, hpast, twoWayRun_smooth, rfl⟩
  have hreached₂ : Reached (DeviceProfile.handlers PlainDevice.twoWay) (twoWayNew.after [.start]) :=
    ⟨Bus.standardUdc, {}, .twoWay, .standard, [.start], rfl, by simp [Hosted], by decide +kernel, rfl⟩
  have hrenewal : BusEvent.reset.renewal? = some .default := rfl
  have hprofile₁ : IsTwoWay ((twoWayNew.after (.start :: twoWayRun)).next (.event .reset)).profile := by
    decide +kernel
  have hprofile₂ : IsTwoWay ((twoWayNew.after [.start]).next (.event .reset)).profile := by
    decide +kernel
  have hforgets : Forgets (twoWayNew.after (.start :: twoWayRun)) (twoWayNew.after [.start])
      (.event .reset) (.event .reset) :=
    .renewed hrenewal (by decide +kernel) (by decide +kernel) (hprofile₂.eq.trans hprofile₁.eq.symm)
  have honward : ∀ m ∈ reselected, Onward m := by
    simp [reselected, Onward, Background]
  obtain ⟨-, hstate, henabled, -⟩ := forgets_history hreached₁ hreached₂ hforgets honward honward
    (supplied_of_smooth (by decide +kernel)) (supplied_of_smooth (by decide +kernel))
    (by decide +kernel)
  exact ⟨by decide +kernel, by decide +kernel, hstate, henabled⟩

end Gadget

end UsbPeripheral
