import UsbPeripheral.Proofs.DataStages
import UsbPeripheral.Proofs.Enabling

/-! # Devices that differ in their handles

Two devices on two buses are **twins** (`Twins`) if they have everything in common that a host sees,
and their rosters are orderly.  Their handles, their workers, what is queued at their endpoints and what
they did before may differ.

Twins that meet the same event with the same data stage, and to which the system refuses the same
threads, are **poised** (`Poised`) to handle it alike: an orderly roster can always be taken down, and
the buses have the same addresses enabled.  So they resemble each other (`resemblance_poised`), where a
device whose bus has run out of handles is lost.  What their workers and their hosts do besides keeps
them twins (`Twins.meanwhile`), and so they stay twins in all runs that meet the same events
(`Twins.after`). -/

namespace UsbPeripheral

/-! ### Endpoint 0 in the log of a bus -/

/-- Whether an operation is one on endpoint 0. -/
def Performed.onEndpoint0 : Performed → Bool
  | ep0Write _ | ep0Read _ | ep0Stall => true
  | _ => false

namespace Bus

/-- The operations on endpoint 0, oldest first. -/
def ep0 (b : Bus) : List Performed := b.performed.filter (·.onEndpoint0)

theorem ep0_record (b : Bus) {p : Performed} (hp : p.onEndpoint0 = true) :
    (b.record p).ep0 = b.ep0 ++ [p] := by
  simp [ep0, record, List.filter_append, hp]

theorem ep0_record_of_apart (b : Bus) {p : Performed} (hp : p.onEndpoint0 = false) :
    (b.record p).ep0 = b.ep0 := by
  simp [ep0, record, List.filter_append, hp]

theorem ep0_of_performed {b b' : Bus} (h : b'.performed = b.performed) : b'.ep0 = b.ep0 := by
  unfold ep0
  rw [h]

/-- What reading the data stage leaves. -/
theorem ep0Read_rest (room : Nat) (b : Bus) :
    (b.ep0Read room).2.pipes = b.pipes ∧
      (b.ep0Read room).2.ep0 =
        b.ep0 ++ [.ep0Read ((b.dataStage.getD []).take room).length] ∧
      (b.ep0Read room).2.dataStage = if room = 0 then b.dataStage else none := by
  unfold ep0Read
  cases hdata : b.dataStage with
  | none =>
      refine ⟨rfl, ?_, ?_⟩
      · rw [Option.getD_none, List.take_nil]
        exact b.ep0_record rfl
      · rw [ite_self]
        exact hdata
  | some data =>
      dsimp only
      split
      · rename_i hroom
        rw [hroom]
        exact ⟨rfl, b.ep0_record rfl, hdata⟩
      · exact ⟨rfl, ep0_record { b with dataStage := none } rfl, rfl⟩

end Bus

/-- Answers are given without a look at endpoint 0. -/
theorem Gadget.apart_ep0 : Apart fun b b' : Bus => b'.ep0 = b.ep0 where
  refl _ := rfl
  trans h₁ h₂ := h₂.trans h₁
  read resumed handle room b :=
    Bus.ep0_of_performed (Bus.calm_aside.read resumed handle room b).performed
  write handle data b := Bus.ep0_of_performed (Bus.calm_aside.write handle data b).performed
  wake handle b := Bus.ep0_of_performed (Bus.calm_aside.wake handle b).performed
  enable endpoint b := by
    show (b.enable endpoint).2.ep0 = b.ep0
    unfold Bus.enable
    dsimp only
    split
    · rfl
    · split
      · rfl
      · exact Bus.ep0_record_of_apart _ rfl
  disable handle b := by
    rcases b.disable_cases handle with ⟨error, heq⟩ | ⟨p, -, -, -, heq⟩
    · rw [show Channel.disable handle b = _ from heq]
    · rw [show Channel.disable handle b = _ from heq]
      have hlog := (b.aside_modifyPipe handle fun p => { p with enabled := false }).performed
      exact (Bus.ep0_record_of_apart _ rfl).trans (Bus.ep0_of_performed hlog)
  vbusDraw _ b := b.ep0_record_of_apart rfl
  configure b := b.ep0_record_of_apart rfl
  setHalt _ b := b.ep0_record_of_apart rfl
  clearHalt _ b := b.ep0_record_of_apart rfl

namespace Gadget

variable {P : Type} {g g₁ g₂ : Gadget Bus P}

/-! ### Devices with the same roster up to handles -/

variable {lost : DeviceError → Prop}

/-- The rosters are orderly and have the same addresses, and the same addresses are enabled. -/
structure Mates (g₁ g₂ : Gadget Bus P) : Prop where
  orderlyFirst : g₁.Orderly
  orderlySecond : g₂.Orderly
  profile : g₂.profile = g₁.profile
  handlers : g₂.handlers = g₁.handlers
  selected : g₂.selected = g₁.selected
  wedged : g₂.wedged = g₁.wedged
  keys : g₂.roster.keys = g₁.roster.keys
  enabled : g₂.bus.enabled = g₁.bus.enabled

theorem Mates.symm (h : Mates g₁ g₂) : Mates g₂ g₁ where
  orderlyFirst := h.orderlySecond
  orderlySecond := h.orderlyFirst
  profile := h.profile.symm
  handlers := h.handlers.symm
  selected := h.selected.symm
  wedged := h.wedged.symm
  keys := h.keys.symm
  enabled := h.enabled.symm

theorem Mates.level (h : Mates g₁ g₂) : Level g₁ g₂ :=
  ⟨h.orderlyFirst.sound, h.orderlySecond.sound, h.enabled⟩

theorem Mates.contains (h : Mates g₁ g₂) (address : Address) :
    g₂.roster.contains address = g₁.roster.contains address :=
  ByteMap.contains_congr h.keys address

/-- What happens beside the bus and the roster. -/
theorem Mates.of_same {g₁' g₂' : Gadget Bus P} (h : Mates g₁ g₂) (hbus₁ : g₁'.bus = g₁.bus)
    (hbus₂ : g₂'.bus = g₂.bus) (hroster₁ : g₁'.roster = g₁.roster)
    (hroster₂ : g₂'.roster = g₂.roster) (hprofile : g₂'.profile = g₁'.profile)
    (hhandlers : g₂'.handlers = g₁'.handlers) (hselected : g₂'.selected = g₁'.selected)
    (hwedged : g₂'.wedged = g₁'.wedged) : Mates g₁' g₂' where
  orderlyFirst := h.orderlyFirst.of_same hbus₁ hroster₁
  orderlySecond := h.orderlySecond.of_same hbus₂ hroster₂
  profile := hprofile
  handlers := hhandlers
  selected := hselected
  wedged := hwedged
  keys := by
    rw [hroster₁, hroster₂]
    exact h.keys
  enabled := by
    rw [hbus₁, hbus₂]
    exact h.enabled

/-- What happens on the buses while the endpoints of the rosters stay. -/
theorem Mates.onChannel {channel₁ channel₂ : Bus} (h : Mates g₁ g₂)
    (hspares₁ : ∀ handle, Bus.Spares handle g₁.bus channel₁)
    (hspares₂ : ∀ handle, Bus.Spares handle g₂.bus channel₂)
    (hlevel : Bus.Level channel₁ channel₂) :
    Mates (g₁.withChannel channel₁) (g₂.withChannel channel₂) where
  orderlyFirst := h.orderlyFirst.of_spares hlevel.soundFirst rfl hspares₁
  orderlySecond := h.orderlySecond.of_spares hlevel.soundSecond rfl hspares₂
  profile := h.profile
  handlers := h.handlers
  selected := h.selected
  wedged := h.wedged
  keys := h.keys
  enabled := hlevel.enabled

theorem Mates.of_pipes {channel₁ channel₂ : Bus} (h : Mates g₁ g₂)
    (hpipes₁ : channel₁.pipes = g₁.bus.pipes) (hpipes₂ : channel₂.pipes = g₂.bus.pipes) :
    Mates (g₁.withChannel channel₁) (g₂.withChannel channel₂) := by
  have hretains₁ : Retains g₁ (g₁.withChannel channel₁) := retains_of_pipes hpipes₁
  have hretains₂ : Retains g₂ (g₂.withChannel channel₂) := retains_of_pipes hpipes₂
  exact h.onChannel (hretains₁ h.orderlyFirst.sound).2 (hretains₂ h.orderlySecond.sound).2
    (Bus.Level.of_pipes h.level hpipes₁ hpipes₂)

/-- **Both rosters can be taken down**, and the same addresses are left enabled. -/
theorem Mates.stop (h : Mates g₁ g₂) :
    Paired lost Mates (fun _ _ => True) (g₁.does stop) (g₂.does stop) := by
  obtain ⟨exits₁, around₁, journal₁, hstop₁, hsound₁, henabled₁⟩ := h.orderlyFirst.stopped
  obtain ⟨exits₂, around₂, journal₂, hstop₂, hsound₂, henabled₂⟩ := h.orderlySecond.stopped
  have hspares : g₂.spares = g₁.spares := by
    funext address
    unfold spares
    rw [h.contains]
  have hsame : around₂.channel.enabled = around₁.channel.enabled := by
    rw [henabled₁, henabled₂, h.enabled, hspares]
  rw [hstop₁, hstop₂]
  exact .ok trivial
    { orderlyFirst := orderly_of_empty hsound₁ rfl
      orderlySecond := orderly_of_empty hsound₂ rfl
      profile := h.profile
      handlers := h.handlers
      selected := rfl
      wedged := rfl
      keys := rfl
      enabled := hsame }

/-! ### Devices on the way to the same selection -/

/-- Mates to which the system refuses the same threads, unless a refused thread is lost.  Their states
are the same if something is given. -/
structure Abreast (lost : DeviceError → Prop) (same : Prop) (g₁ g₂ : Gadget Bus P) : Prop
    extends Mates g₁ g₂ where
  state : same → g₂.state = g₁.state
  refusals : g₂.refusals = g₁.refusals ∨ ∀ reason, lost (.unstarted reason)

variable {same : Prop}

/-- The same thread is refused to both or to neither of them, or one is lost. -/
theorem Abreast.refusal? (h : Abreast lost same g₁ g₂) (endpoint : Endpoint)
    (data : Option EndpointData) :
    (∃ reason, g₁.refusal? endpoint data = some reason ∧ g₂.refusal? endpoint data = some reason) ∨
      (g₁.refusal? endpoint data = none ∧ g₂.refusal? endpoint data = none) ∨
        ∃ reason, lost (.unstarted reason) ∧
          (g₁.refusal? endpoint data = some reason ∨ g₂.refusal? endpoint data = some reason) := by
  rcases h.refusals with hrefusals | hlost
  · have hsame : g₂.refusal? endpoint data = g₁.refusal? endpoint data := by
      unfold Gadget.refusal?
      rw [hrefusals]
    rw [hsame]
    cases g₁.refusal? endpoint data with
    | some reason => exact .inl ⟨reason, rfl, rfl⟩
    | none => exact .inr (.inl ⟨rfl, rfl⟩)
  · cases g₁.refusal? endpoint data with
    | some reason => exact .inr (.inr ⟨reason, hlost reason, .inl rfl⟩)
    | none =>
        cases g₂.refusal? endpoint data with
        | some reason => exact .inr (.inr ⟨reason, hlost reason, .inr rfl⟩)
        | none => exact .inr (.inl ⟨rfl, rfl⟩)

theorem refusals_stop (g : Gadget Bus P) : (g.does stop).2.refusals = g.refusals := by
  obtain ⟨around, journal, h⟩ := does_stop_forgotten g
  rw [h]
  rfl

theorem Abreast.stop (h : Abreast lost same g₁ g₂) :
    Paired lost (Abreast lost same) (fun _ _ => True) (g₁.does stop) (g₂.does stop) := by
  have habreast : Mates (g₁.does Gadget.stop).2 (g₂.does Gadget.stop).2 →
      Abreast lost same (g₁.does Gadget.stop).2 (g₂.does Gadget.stop).2 := by
    refine fun hmates => { toMates := hmates, state := ?_, refusals := ?_ }
    · rw [state_stop, state_stop]
      exact h.state
    · rw [refusals_stop, refusals_stop]
      exact h.refusals
  exact h.toMates.stop.refined (fun _ _ _ _ => habreast) (fun _ _ _ => habreast)

section device

variable [DeviceProfile P]

/-- The same endpoints are entered, or the same thread is refused. -/
theorem Abreast.startWorkers (h : Abreast lost same g₁ g₂)
    {enabled₁ enabled₂ : List (Endpoint × Handle)} (hsame : SameEndpoints enabled₁ enabled₂)
    (hvacant₁ : ∀ e ∈ enabled₁, g₁.bus.Vacant e.2 e.1.address)
    (hvacant₂ : ∀ e ∈ enabled₂, g₂.bus.Vacant e.2 e.1.address) :
    Paired lost (Abreast lost same) Eq (g₁.does (startWorkers enabled₁))
      (g₂.does (startWorkers enabled₂)) := by
  induction enabled₁ generalizing enabled₂ g₁ g₂ with
  | nil =>
      obtain rfl : enabled₂ = [] := List.map_eq_nil_iff.mp hsame
      exact .ok rfl h
  | cons e₁ rest₁ ih =>
      cases enabled₂ with
      | nil => cases hsame
      | cons e₂ rest₂ =>
          obtain ⟨endpoint, handle₁⟩ := e₁
          obtain ⟨endpoint₂, handle₂⟩ := e₂
          obtain ⟨hendpoint, hrest⟩ := List.cons.inj hsame
          obtain rfl : endpoint₂ = endpoint := hendpoint
          obtain ⟨hhead₁, hvacant₁⟩ := List.forall_mem_cons.mp hvacant₁
          obtain ⟨hhead₂, hvacant₂⟩ := List.forall_mem_cons.mp hvacant₂
          -- both device classes are in the same state, and give the same data
          let data := DeviceProfile.endpointData g₁.profile endpoint₂
          have hconsulted : Abreast lost same { g₁ with profile := data.2 }
              { g₂ with profile := data.2 } :=
            { h with
              toMates := h.toMates.of_same rfl rfl rfl rfl rfl h.handlers h.selected h.wedged }
          rw [Gadget.startWorkers, Gadget.startWorkers, does_bind, does_bind, does_consult,
            does_consult, h.profile]
          dsimp only
          rw [does_bind, does_bind]
          rcases hconsulted.refusal? endpoint₂ data.1 with
            ⟨reason, hrefusal₁, hrefusal₂⟩ | ⟨hrefusal₁, hrefusal₂⟩ | ⟨reason, hlost, hrefusal⟩
          · rw [does_startWorker_refused hrefusal₁, does_startWorker_refused hrefusal₂]
            exact .error hconsulted
          · obtain ⟨slot₁, journal₁, hstart₁, hposted₁⟩ :=
              does_startWorker_posted (g := { g₁ with profile := data.2 }) hhead₁ hrefusal₁
            obtain ⟨slot₂, journal₂, hstart₂, hposted₂⟩ :=
              does_startWorker_posted (g := { g₂ with profile := data.2 }) hhead₂ hrefusal₂
            have hentered : Abreast lost same
                { g₁ with profile := data.2, roster := g₁.roster.insert endpoint₂.address slot₁
                          journal := journal₁ }
                { g₂ with profile := data.2, roster := g₂.roster.insert endpoint₂.address slot₂
                          journal := journal₂ } :=
              { hconsulted with
                orderlyFirst := hconsulted.orderlyFirst.enrolled hposted₁ journal₁
                orderlySecond := hconsulted.orderlySecond.enrolled hposted₂ journal₂
                keys := ByteMap.keys_insert h.keys endpoint₂.address slot₁ slot₂ }
            rw [hstart₁, hstart₂]
            exact ih hentered hrest hvacant₁ hvacant₂
          · rcases hrefusal with hrefusal | hrefusal
            · rw [does_startWorker_refused hrefusal]
              exact .lostFirst hlost
            · rw [does_startWorker_refused hrefusal]
              exact .lostSecond hlost

/-- What is remembered of a configuration keeps the rosters alike. -/
theorem Abreast.remember (h : Abreast lost same g₁ g₂) (value : UInt8)
    (configuration : Configuration) {enabled₁ enabled₂ : List (Endpoint × Handle)}
    (hsame : SameEndpoints enabled₁ enabled₂)
    (hvacant₁ : ∀ e ∈ enabled₁, g₁.bus.Vacant e.2 e.1.address)
    (hvacant₂ : ∀ e ∈ enabled₂, g₂.bus.Vacant e.2 e.1.address) :
    Paired lost (Abreast lost same) Eq (g₁.does (remember value configuration enabled₁))
      (g₂.does (remember value configuration enabled₂)) := by
  let s₁ := g₁.state.select value
  let s₂ := g₂.state.select value
  have hselected : Abreast lost same { g₁ with state := s₁ } { g₂ with state := s₂ } :=
    { toMates := h.toMates.of_same rfl rfl rfl rfl h.profile h.handlers h.selected h.wedged
      state := fun hs => congrArg (·.select value) (h.state hs)
      refusals := h.refusals }
  have hstarted : Paired lost (Abreast lost same) Eq
      (does { g₁ with state := s₁ } (Gadget.startWorkers enabled₁))
      (does { g₂ with state := s₂ } (Gadget.startWorkers enabled₂)) :=
    hselected.startWorkers hsame hvacant₁ hvacant₂
  unfold Gadget.remember
  rw [does_bind, does_bind, does_update, does_update]
  refine Paired.bind hstarted fun _ _ g₁ g₂ _ h => ?_
  refine .ok rfl { h with toMates := ?_ }
  exact h.toMates.of_same rfl rfl rfl rfl h.profile h.handlers rfl h.wedged

/-- Endpoints of a configuration are brought up and entered alike. -/
theorem Abreast.bringIn (h : Abreast lost same g₁ g₂) (hexhausted : lost Bus.exhausted)
    (value : UInt8) (configuration : Configuration) :
    Paired lost (Abreast lost same) Eq
      (g₁.does (bringUp configuration >>= Gadget.remember value configuration))
      (g₂.does (bringUp configuration >>= Gadget.remember value configuration)) := by
  have hpaired := h.level.bringUp configuration
  have hretains₁ := retains_bringUp configuration g₁ h.orderlyFirst.sound
  have hretains₂ := retains_bringUp configuration g₂ h.orderlySecond.sound
  rw [does_bind, does_bind]
  rcases hup₁ : g₁.does (bringUp configuration) with ⟨result₁, g₁'⟩
  rcases hup₂ : g₂.does (bringUp configuration) with ⟨result₂, g₂'⟩
  rw [hup₁] at hretains₁
  rw [hup₂] at hretains₂
  rw [hup₁, hup₂] at hpaired
  obtain ⟨channel₁, rfl⟩ := withChannel_of_bringUp hup₁
  obtain ⟨channel₂, rfl⟩ := withChannel_of_bringUp hup₂
  have habreast : Level (g₁.withChannel channel₁) (g₂.withChannel channel₂) →
      Abreast lost same (g₁.withChannel channel₁) (g₂.withChannel channel₂) := fun hlevel =>
    { toMates := h.onChannel hretains₁.2 hretains₂.2 hlevel
      state := h.state
      refusals := h.refusals }
  cases hpaired with
  | ok hsame hlevel =>
      have hvacant₁ := bringUp_vacant h.orderlyFirst.sound hup₁
      have hvacant₂ := bringUp_vacant h.orderlySecond.sound hup₂
      exact (habreast hlevel).remember value configuration hsame hvacant₁ hvacant₂
  | error hlevel => exact .error (habreast hlevel)
  | lostFirst he => exact .lostFirst (he ▸ hexhausted)
  | lostSecond he => exact .lostSecond (he ▸ hexhausted)

theorem Abreast.selectConfiguration (h : Abreast lost same g₁ g₂) (hexhausted : lost Bus.exhausted)
    (value : UInt8) (configuration : Configuration) :
    Paired lost (Abreast lost same) Eq (g₁.does (selectConfiguration value configuration))
      (g₂.does (selectConfiguration value configuration)) := by
  rw [selectConfiguration_eq]
  exact Paired.bind h.stop fun _ _ g₁ g₂ _ h => h.bringIn hexhausted value configuration

/-- Selecting a configuration does nothing on endpoint 0. -/
theorem selectConfiguration_frame (g : Gadget Bus P) (value : UInt8)
    (configuration : Configuration) :
    let outcome := g.does (selectConfiguration value configuration)
    outcome.2.bus.ep0 = g.bus.ep0 ∧ outcome.2.bus.dataStage = g.bus.dataStage := by
  intro outcome
  have hselecting := selecting_pick g value configuration
  rw [does_bind_pure] at hselecting
  exact ⟨apart_ep0.selecting hselecting, apart_dataStage.selecting hselecting⟩

end device

/-! ### Twins -/

/-- Devices that a host cannot tell apart, and that did the same on endpoint 0 after what they did
there before. -/
structure Twins (before₁ before₂ : List Performed) (g₁ g₂ : Gadget Bus P) : Prop
    extends Mates g₁ g₂ where
  state : g₂.state = g₁.state
  ep0 : ∃ performed, g₁.bus.ep0 = before₁ ++ performed ∧ g₂.bus.ep0 = before₂ ++ performed

/-- Twins with the same data stage, to which the system refuses the same threads. -/
structure Poised (before₁ before₂ : List Performed) (g₁ g₂ : Gadget Bus P) : Prop
    extends Twins before₁ before₂ g₁ g₂ where
  dataStage : g₂.bus.dataStage = g₁.bus.dataStage
  refusals : g₂.refusals = g₁.refusals

variable {before₁ before₂ : List Performed}

theorem Twins.symm (h : Twins before₁ before₂ g₁ g₂) : Twins before₂ before₁ g₂ g₁ where
  toMates := h.toMates.symm
  state := h.state.symm
  ep0 := by
    obtain ⟨performed, hep0₁, hep0₂⟩ := h.ep0
    exact ⟨performed, hep0₂, hep0₁⟩

/-- Mates in the same state are twins from then on. -/
theorem Mates.twins (h : Mates g₁ g₂) (hstate : g₂.state = g₁.state) :
    Twins g₁.bus.ep0 g₂.bus.ep0 g₁ g₂ :=
  ⟨h, hstate, [], (List.append_nil _).symm, (List.append_nil _).symm⟩

/-- What does nothing on endpoint 0. -/
theorem Poised.apart {g₁' g₂' : Gadget Bus P} (h : Poised before₁ before₂ g₁ g₂)
    (hmates : Mates g₁' g₂') (hstate : g₂'.state = g₁'.state)
    (hrefusals : g₂'.refusals = g₁'.refusals) (hep0₁ : g₁'.bus.ep0 = g₁.bus.ep0)
    (hep0₂ : g₂'.bus.ep0 = g₂.bus.ep0) (hdata₁ : g₁'.bus.dataStage = g₁.bus.dataStage)
    (hdata₂ : g₂'.bus.dataStage = g₂.bus.dataStage) : Poised before₁ before₂ g₁' g₂' where
  toMates := hmates
  state := hstate
  ep0 := by
    rw [hep0₁, hep0₂]
    exact h.ep0
  dataStage := by
    rw [hdata₁, hdata₂]
    exact h.dataStage
  refusals := hrefusals

/-- What happens beside the bus and the roster. -/
theorem Poised.of_same {g₁' g₂' : Gadget Bus P} (h : Poised before₁ before₂ g₁ g₂)
    (hbus₁ : g₁'.bus = g₁.bus) (hbus₂ : g₂'.bus = g₂.bus) (hmates : Mates g₁' g₂')
    (hstate : g₂'.state = g₁'.state) (hrefusals : g₂'.refusals = g₁'.refusals) :
    Poised before₁ before₂ g₁' g₂' :=
  h.apart hmates hstate hrefusals (congrArg Bus.ep0 hbus₁) (congrArg Bus.ep0 hbus₂)
    (congrArg Bus.dataStage hbus₁) (congrArg Bus.dataStage hbus₂)

/-- The same operations on endpoint 0. -/
theorem Poised.recorded {channel₁ channel₂ : Bus} (h : Poised before₁ before₂ g₁ g₂)
    (more : List Performed) (hpipes₁ : channel₁.pipes = g₁.bus.pipes)
    (hpipes₂ : channel₂.pipes = g₂.bus.pipes) (hep0₁ : channel₁.ep0 = g₁.bus.ep0 ++ more)
    (hep0₂ : channel₂.ep0 = g₂.bus.ep0 ++ more)
    (hdata : channel₂.dataStage = channel₁.dataStage) :
    Poised before₁ before₂ (g₁.withChannel channel₁) (g₂.withChannel channel₂) where
  toMates := h.toMates.of_pipes hpipes₁ hpipes₂
  state := h.state
  ep0 := by
    obtain ⟨performed, hperformed₁, hperformed₂⟩ := h.ep0
    refine ⟨performed ++ more, ?_, ?_⟩
    · show channel₁.ep0 = _
      rw [hep0₁, hperformed₁, List.append_assoc]
    · show channel₂.ep0 = _
      rw [hep0₂, hperformed₂, List.append_assoc]
  dataStage := hdata
  refusals := h.refusals

theorem likeness_poised :
    Likeness (Poised before₁ before₂ : Gadget Bus P → Gadget Bus P → Prop) where
  profile h := h.profile
  handlers h := h.handlers
  selected h := h.selected
  wedged h := h.wedged
  state {g₁ _} h := ⟨g₁.state.suspended, h.state⟩
  enrolled address h := h.contains address
  noted _ _ h :=
    h.of_same rfl rfl
      (h.toMates.of_same rfl rfl rfl rfl h.profile h.handlers h.selected h.wedged) h.state h.refusals
  consulted _ h :=
    h.of_same rfl rfl (h.toMates.of_same rfl rfl rfl rfl rfl h.handlers h.selected h.wedged) h.state
      h.refusals
  updated {_ _ f} _ h :=
    h.of_same rfl rfl
      (h.toMates.of_same rfl rfl rfl rfl h.profile h.handlers h.selected h.wedged)
      (congrArg f h.state) h.refusals

/-! ### Twins handle events alike -/

/-- One and the same operation on endpoint 0. -/
theorem Poised.onEndpoint0 (h : Poised before₁ before₂ g₁ g₂) {p : Performed}
    (hp : p.onEndpoint0 = true) :
    Poised before₁ before₂ (g₁.withChannel (g₁.bus.record p)) (g₂.withChannel (g₂.bus.record p)) :=
  h.recorded [p] rfl rfl (g₁.bus.ep0_record hp) (g₂.bus.ep0_record hp) h.dataStage

/-- Operations on other endpoints, whose handles may differ. -/
theorem Poised.offEndpoint0 (h : Poised before₁ before₂ g₁ g₂) {p₁ p₂ : Performed}
    (hp₁ : p₁.onEndpoint0 = false) (hp₂ : p₂.onEndpoint0 = false) :
    Poised before₁ before₂ (g₁.withChannel (g₁.bus.record p₁))
      (g₂.withChannel (g₂.bus.record p₂)) := by
  refine h.recorded [] rfl rfl ?_ ?_ h.dataStage
  · rw [g₁.bus.ep0_record_of_apart hp₁, List.append_nil]
  · rw [g₂.bus.ep0_record_of_apart hp₂, List.append_nil]

/-- The same data stage is read alike. -/
theorem Poised.ep0Read (h : Poised before₁ before₂ g₁ g₂) (room : Nat) :
    Agrees lost (Poised before₁ before₂) g₁ g₂ (call (Channel.ep0Read room)) := by
  have hread : ∀ g : Gadget Bus P, (Channel.ep0Read room g.around.channel).1 =
      .ok ((g.bus.dataStage.getD []).take room) := fun g => (g.bus.ep0Read_eq room).1
  obtain ⟨hpipes₁, hep0₁, hdata₁⟩ := g₁.bus.ep0Read_rest room
  obtain ⟨hpipes₂, hep0₂, hdata₂⟩ := g₂.bus.ep0Read_rest room
  rw [h.dataStage] at hep0₂ hdata₂
  unfold Agrees
  rw [does_call, does_call, hread, hread, h.dataStage]
  exact .ok rfl (h.recorded _ hpipes₁ hpipes₂ hep0₁ hep0₂ (hdata₂.trans hdata₁.symm))

theorem Poised.stop (h : Poised before₁ before₂ g₁ g₂) :
    Paired lost (Poised before₁ before₂) (fun _ _ => True) (g₁.does stop) (g₂.does stop) := by
  have hpoised : Mates (g₁.does Gadget.stop).2 (g₂.does Gadget.stop).2 →
      Poised before₁ before₂ (g₁.does Gadget.stop).2 (g₂.does Gadget.stop).2 := by
    intro hmates
    refine h.apart hmates ?_ ?_ (apart_ep0.stop g₁) (apart_ep0.stop g₂) (apart_dataStage.stop g₁)
      (apart_dataStage.stop g₂)
    · rw [state_stop, state_stop, h.state]
    · rw [refusals_stop, refusals_stop, h.refusals]
  exact h.toMates.stop.refined (fun _ _ _ _ => hpoised) (fun _ _ _ => hpoised)

section device

variable [DeviceProfile P]

theorem Poised.selectConfiguration (h : Poised before₁ before₂ g₁ g₂) (value : UInt8)
    (configuration : Configuration) :
    Agrees (· = Bus.exhausted) (Poised before₁ before₂) g₁ g₂
      (selectConfiguration value configuration) := by
  obtain ⟨hep0₁, hdata₁⟩ := selectConfiguration_frame g₁ value configuration
  obtain ⟨hep0₂, hdata₂⟩ := selectConfiguration_frame g₂ value configuration
  have hpoised : ∀ g₁' g₂' : Gadget Bus P, Abreast (· = Bus.exhausted) True g₁' g₂' →
      g₂'.refusals = g₁'.refusals := fun _ _ h => h.refusals.resolve_right fun hlost => nomatch hlost ""
  have habreast : Abreast (· = Bus.exhausted) True g₁ g₂ :=
    { toMates := h.toMates, state := fun _ => h.state, refusals := .inl h.refusals }
  refine (habreast.selectConfiguration rfl value configuration).refined ?_ ?_
  · intro _ _ _ _ hafter
    exact h.apart hafter.toMates (hafter.state trivial) (hpoised _ _ hafter) hep0₁ hep0₂ hdata₁ hdata₂
  · intro _ _ _ hafter
    exact h.apart hafter.toMates (hafter.state trivial) (hpoised _ _ hafter) hep0₁ hep0₂ hdata₁ hdata₂

/-- On a bus the look at the controller's endpoints changes nothing. -/
theorem does_checkEndpoints (g : Gadget Bus P) :
    ∃ journal, g.does checkEndpoints = (.ok (), { g with journal }) := ⟨_, rfl⟩

/-- **Twins with the same data stage resemble each other**, as long as both buses have handles
left. -/
theorem resemblance_poised :
    Resemblance (· = Bus.exhausted) (Poised before₁ before₂ : Gadget Bus P → Gadget Bus P → Prop)
    where
  toLikeness := likeness_poised
  ep0Read room h := h.ep0Read room
  ep0Write _ h := .ok rfl (h.onEndpoint0 rfl)
  ep0Stall h := .ok rfl (h.onEndpoint0 rfl)
  setHalt h _ _ := .ok rfl (h.offEndpoint0 rfl rfl)
  clearHalt h _ _ := .ok rfl (h.offEndpoint0 rfl rfl)
  checkEndpoints {g₁ g₂} h := by
    obtain ⟨journal₁, hcheck₁⟩ := does_checkEndpoints g₁
    obtain ⟨journal₂, hcheck₂⟩ := does_checkEndpoints g₂
    unfold Agrees
    rw [hcheck₁, hcheck₂]
    exact .ok rfl (likeness_poised.noted journal₁ journal₂ h)
  stop h := h.stop
  selectConfiguration value configuration h := h.selectConfiguration value configuration

end device

/-! ### What workers and hosts do meanwhile -/

/-- Changes of the bus without enabling, disabling or an operation of the device. -/
theorem Twins.beside {around : Surroundings Bus} {roster : Roster} {journal : Journal}
    (h : Twins before₁ before₂ g₁ g₂) (horderly : Orderly { g₁ with around, roster, journal })
    (hkeys : roster.keys = g₁.roster.keys)
    (hquenches : Bus.Quenches (fun _ => False) g₁.bus around.channel)
    (hperformed : around.channel.performed = g₁.bus.performed) :
    Twins before₁ before₂ { g₁ with around, roster, journal } g₂ where
  orderlyFirst := horderly
  orderlySecond := h.orderlySecond
  profile := h.profile
  handlers := h.handlers
  selected := h.selected
  wedged := h.wedged
  keys := h.keys.trans hkeys.symm
  enabled := h.enabled.trans (hquenches.enabled h.orderlyFirst.sound).symm
  state := h.state
  ep0 := by
    obtain ⟨performed, hep0₁, hep0₂⟩ := h.ep0
    exact ⟨performed, (Bus.ep0_of_performed hperformed).trans hep0₁, hep0₂⟩

theorem Twins.runWorker (h : Twins before₁ before₂ g₁ g₂) (fuel : Nat) (address : Address) :
    Twins before₁ before₂ (g₁.runWorker fuel address) g₂ := by
  have horderly := h.orderlyFirst.runWorker fuel address
  unfold Gadget.runWorker at horderly ⊢
  cases hworker : (g₁.roster.get? address).bind (·.worker) with
  | none => exact h
  | some w =>
      rw [hworker] at horderly
      exact h.beside horderly (ByteMap.keys_modify _ _ _)
        (Bus.calm_quenches.worker_run g₁.state.suspended fuel w g₁.around)
        (Bus.calm_aside.worker_run g₁.state.suspended fuel w g₁.around).performed

/-- A move of a worker, of the depot, of the system, or of a host that lets endpoints be disabled. -/
def Background : Move Bus P → Prop
  | .work _ | .stock _ | .threads _ => True
  | .outside f => ∃ a : HostAct, a.isMild = true ∧ f = a.apply
  | _ => False

/-- **What happens meanwhile at one of the twins keeps them twins.** -/
theorem Twins.meanwhile [DeviceProfile P] (h : Twins before₁ before₂ g₁ g₂) {m : Move Bus P}
    (hm : Background m) : Twins before₁ before₂ (g₁.next m) g₂ := by
  cases m with
  | work address => exact h.runWorker 1 address
  | stock f =>
      exact h.beside (h.orderlyFirst.of_same rfl rfl) rfl (.refl _) rfl
  | outside f =>
      obtain ⟨a, ha, rfl⟩ := hm
      have hquenches : Bus.Quenches (fun _ => False) g₁.bus (a.apply g₁.bus) := a.quenches g₁.bus
      have horderly : Orderly (g₁.withChannel (a.apply g₁.bus)) :=
        h.orderlyFirst.of_spares (h.orderlyFirst.sound.of_quenches hquenches) rfl fun handle =>
          Bus.spares_of_table hquenches (a.milder ha g₁.bus) (a.sameTable g₁.bus) handle
      exact h.beside horderly rfl hquenches (a.performed g₁.bus)
  | threads refusals =>
      exact { h with
        toMates := h.toMates.of_same rfl rfl rfl rfl h.profile h.handlers h.selected h.wedged }
  | _ => exact absurd hm id

/-! ### Runs of twins -/

section runs

variable [DeviceProfile P] {m m₁ m₂ : Move Bus P} {ms ms₁ ms₂ : List (Move Bus P)}

/-- What a device meets: an event, its data stage, and the threads that the system refuses. -/
abbrev Meeting := BusEvent × Option Bytes × ByteMap String

/-- The event that a device meets in a move, if there is one, with what goes with it. -/
def meets (g : Gadget Bus P) : Move Bus P → List Meeting
  | .event event => [(event, g.bus.dataStage, g.refusals)]
  | .step => (g.bus.events.take 1).map fun event =>
      (event.record.decode, event.dataStage, g.refusals)
  | _ => []

/-- The events that a device meets in a run, in order. -/
def metIn (g : Gadget Bus P) : List (Move Bus P) → List Meeting
  | [] => []
  | m :: ms => g.meets m ++ (g.next m).metIn ms

/-- A move of a device that is left to its host. -/
def Onward : Move Bus P → Prop
  | .event _ | .step => True
  | m => Background m

/-- No move of a run fails because the bus has given all its handles out. -/
def Supplied (g : Gadget Bus P) : List (Move Bus P) → Prop
  | [] => True
  | m :: ms => (g.does m.dispatch).1 ≠ .error Bus.exhausted ∧ Supplied (g.next m) ms

theorem supplied_of_smooth (h : g.Smooth ms) : g.Supplied ms := by
  induction ms generalizing g with
  | nil => trivial
  | cons m ms ih =>
      refine ⟨?_, ih h.2⟩
      rw [h.1]
      exact nofun

omit [DeviceProfile P] in
theorem meets_cases (g : Gadget Bus P) (m : Move Bus P) :
    g.meets m = [] ∨ ∃ event data, g.meets m = [(event, data, g.refusals)] := by
  cases m with
  | event event => exact .inr ⟨event, _, rfl⟩
  | step =>
      unfold meets
      cases g.bus.events with
      | nil => exact .inl rfl
      | cons first rest => exact .inr ⟨_, _, rfl⟩
  | _ => exact .inl rfl

/-- A move in which nothing is met keeps twins twins. -/
theorem Twins.idle (h : Twins before₁ before₂ g₁ g₂) (hm : Onward m) (hidle : g₁.meets m = []) :
    Twins before₁ before₂ (g₁.next m) g₂ := by
  cases m with
  | event event => cases hidle
  | step =>
      have hevents : g₁.bus.events = [] := by
        unfold meets at hidle
        simpa using hidle
      rw [next_step, does_step_nil hevents]
      exact h
  | work address => exact h.meanwhile hm
  | stock f => exact h.meanwhile hm
  | outside f => exact h.meanwhile hm
  | threads refusals => exact h.meanwhile hm
  | _ => exact absurd hm id

omit [DeviceProfile P] in
theorem refusals_of_meets {event : BusEvent} {data : Option Bytes} {refusals : ByteMap String}
    (h : g.meets m = [(event, data, refusals)]) : refusals = g.refusals := by
  rcases g.meets_cases m with hnone | ⟨_, _, hmeets⟩
  · rw [hnone] at h
    cases h
  · rw [hmeets] at h
    cases h
    rfl

/-- An event that is met is handled with its data stage. -/
theorem does_of_meets {event : BusEvent} {data : Option Bytes} {refusals : ByteMap String}
    (h : g.meets m = [(event, data, refusals)]) :
    ∃ events, g.does m.dispatch =
      (g.withChannel { g.bus with events, dataStage := data }).does (handleEvent event) := by
  cases m with
  | event e =>
      cases h
      exact ⟨g.bus.events, rfl⟩
  | step =>
      cases hevents : g.bus.events with
      | nil =>
          unfold meets at h
          rw [hevents] at h
          cases h
      | cons first rest =>
          unfold meets at h
          rw [hevents] at h
          cases h
          refine ⟨rest, ?_⟩
          show g.does (do let _ ← Gadget.step) = (g.fetched first rest).does _
          rw [does_bind_pure, does_step_cons hevents]
          rcases (g.fetched first rest).does (handleEvent first.record.decode) with ⟨e | ⟨⟩, g'⟩ <;>
            rfl
  | _ => cases h

omit [DeviceProfile P] in
/-- Twins to which the same data stage is presented. -/
theorem Twins.presented (h : Twins before₁ before₂ g₁ g₂) (hrefusals : g₂.refusals = g₁.refusals)
    (events₁ events₂ : List ScriptedEvent) (data : Option Bytes) :
    Poised before₁ before₂ (g₁.withChannel { g₁.bus with events := events₁, dataStage := data })
      (g₂.withChannel { g₂.bus with events := events₂, dataStage := data }) :=
  ⟨⟨h.toMates.of_pipes rfl rfl, h.state, h.ep0⟩, rfl, hrefusals⟩

/-- Moves in which the same is met keep twins twins. -/
theorem Twins.meet (h : Twins before₁ before₂ g₁ g₂) (hmet : g₂.meets m₂ = g₁.meets m₁)
    (hevent : g₁.meets m₁ ≠ []) (hsupplied₁ : (g₁.does m₁.dispatch).1 ≠ .error Bus.exhausted)
    (hsupplied₂ : (g₂.does m₂.dispatch).1 ≠ .error Bus.exhausted) :
    Twins before₁ before₂ (g₁.next m₁) (g₂.next m₂) := by
  rcases g₁.meets_cases m₁ with hnone | ⟨event, data, hmeets₁⟩
  · exact absurd hnone hevent
  · obtain ⟨events₁, hdoes₁⟩ := does_of_meets hmeets₁
    obtain ⟨events₂, hdoes₂⟩ := does_of_meets (hmet.trans hmeets₁)
    have hrefusals := refusals_of_meets (hmet.trans hmeets₁)
    have hpresented := h.presented hrefusals.symm events₁ events₂ data
    have hagrees := resemblance_poised.handleEvent hpresented event
    unfold Agrees at hagrees
    rw [← hdoes₁, ← hdoes₂] at hagrees
    have hpoised : Poised before₁ before₂ (g₁.next m₁) (g₂.next m₂) := by
      refine hagrees.related ?_ ?_
      · rintro _ rfl
        exact hsupplied₁
      · rintro _ rfl
        exact hsupplied₂
    exact hpoised.toTwins

/-- Runs that meet the same, and begin by meeting something, begin by meeting the same. -/
theorem metIn_cons_eq (hmet : g₂.metIn (m₂ :: ms₂) = g₁.metIn (m₁ :: ms₁))
    (hevent₁ : g₁.meets m₁ ≠ []) (hevent₂ : g₂.meets m₂ ≠ []) :
    g₂.meets m₂ = g₁.meets m₁ ∧ (g₂.next m₂).metIn ms₂ = (g₁.next m₁).metIn ms₁ := by
  refine List.append_inj hmet ?_
  rcases g₁.meets_cases m₁ with hnone | ⟨event₁, data₁, hmeets₁⟩
  · exact absurd hnone hevent₁
  · rcases g₂.meets_cases m₂ with hnone | ⟨event₂, data₂, hmeets₂⟩
    · exact absurd hnone hevent₂
    · rw [hmeets₁, hmeets₂]
      rfl

/-- **Twins stay twins** as long as they meet the same. -/
theorem Twins.after (h : Twins before₁ before₂ g₁ g₂) (hms₁ : ∀ m ∈ ms₁, Onward m)
    (hms₂ : ∀ m ∈ ms₂, Onward m) (hsupplied₁ : g₁.Supplied ms₁) (hsupplied₂ : g₂.Supplied ms₂)
    (hmet : g₂.metIn ms₂ = g₁.metIn ms₁) :
    Twins before₁ before₂ (g₁.after ms₁) (g₂.after ms₂) := by
  induction ms₁ generalizing g₁ g₂ ms₂ with
  | nil =>
      -- the other one meets nothing any more
      induction ms₂ generalizing g₂ with
      | nil => exact h
      | cons m₂ ms₂ ih =>
          obtain ⟨hm₂, hms₂⟩ := List.forall_mem_cons.mp hms₂
          obtain ⟨hidle, hmet⟩ := List.append_eq_nil_iff.mp hmet
          exact ih (h.symm.idle hm₂ hidle).symm hms₂ hsupplied₂.2 hmet
  | cons m₁ ms₁ ih =>
      obtain ⟨hm₁, hms₁⟩ := List.forall_mem_cons.mp hms₁
      by_cases hidle₁ : g₁.meets m₁ = []
      · rw [metIn, hidle₁, List.nil_append] at hmet
        exact ih (h.idle hm₁ hidle₁) hms₁ hms₂ hsupplied₁.2 hsupplied₂ hmet
      · -- the other one idles until it meets the same
        induction ms₂ generalizing g₂ with
        | nil => exact absurd (List.append_eq_nil_iff.mp hmet.symm).1 hidle₁
        | cons m₂ ms₂ ih₂ =>
            obtain ⟨hm₂, hms₂⟩ := List.forall_mem_cons.mp hms₂
            by_cases hidle₂ : g₂.meets m₂ = []
            · rw [metIn, hidle₂, List.nil_append] at hmet
              exact ih₂ (h.symm.idle hm₂ hidle₂).symm hms₂ hsupplied₂.2 hmet
            · obtain ⟨hhead, hrest⟩ := metIn_cons_eq hmet hidle₁ hidle₂
              have hnext := h.meet hhead hidle₁ hsupplied₁.1 hsupplied₂.1
              have hafter := ih hnext hms₁ hms₂ hsupplied₁.2 hsupplied₂.2 hrest
              exact hafter

end runs

end Gadget

end UsbPeripheral
