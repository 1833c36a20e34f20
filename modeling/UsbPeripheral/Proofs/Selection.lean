import UsbPeripheral.Proofs.Teardown

/-! # Selecting a configuration

An accepted SET_CONFIGURATION (`selection?`) takes the roster down and, for a value other than 0,
**brings up** the endpoints of the configuration before anything of it is remembered.  `Selecting`
lists how this can end, and `selecting_setConfiguration` says that there is no other end.

Bringing up touches nothing but the channel (`onChannel_bringUp`).  What is remembered afterwards is
the roster that the enabled endpoints are **enrolled** in, all of them or those before the first whose
worker gets no thread (`does_startWorkers`). -/

namespace UsbPeripheral

/-- The packet that asks for the configuration of a value. -/
def Setup.select (value : UInt8) : Setup :=
  ⟨.toDevice, StandardRequest.setConfiguration.code, value.toUInt16, 0, 0⟩

namespace Gadget

variable {σ P : Type}

/-! ### Talking to the channel -/

/-- A dispatch that only talks to the channel. -/
def OnChannel {α : Type} (d : Dispatch σ P α) : Prop :=
  ∀ g : Gadget σ P, ∃ channel, (g.does d).2 = g.withChannel channel

theorem onChannel_call {α : Type} (operation : σ → Except DeviceError α × σ) :
    OnChannel (call operation : Dispatch σ P α) := fun _ => ⟨_, rfl⟩

theorem onChannel_pure {α : Type} (a : α) : OnChannel (pure a : Dispatch σ P α) :=
  fun g => ⟨g.around.channel, rfl⟩

theorem OnChannel.bind {α β : Type} {d : Dispatch σ P α} {f : α → Dispatch σ P β}
    (hd : OnChannel d) (hf : ∀ a, OnChannel (f a)) : OnChannel (d >>= f) := by
  have trans : ∀ g₁ g₂ g₃ : Gadget σ P, (∃ channel, g₂ = g₁.withChannel channel) →
      (∃ channel, g₃ = g₂.withChannel channel) → ∃ channel, g₃ = g₁.withChannel channel := by
    rintro g₁ g₂ g₃ ⟨channel₁, rfl⟩ ⟨channel₂, rfl⟩
    exact ⟨channel₂, rfl⟩
  exact Keeps.bind (R := fun g g' => ∃ channel, g' = g.withChannel channel) trans hd hf

/-! ### Entering endpoints into the roster -/

/-- `r'` is the roster `r` with enabled endpoints entered. -/
structure Enrolled (enabled : List (Endpoint × Handle)) (r r' : Roster) : Prop where
  /-- Every handle was there before or is one of the enabled endpoints at its address. -/
  handle {address : Address} {handle : Handle} : r'.handle? address = some handle →
    r.handle? address = some handle ∨ ∃ e, (e, handle) ∈ enabled ∧ e.address = address
  /-- No address gets lost. -/
  kept {address : Address} : r.contains address → r'.contains address
  /-- Every enabled endpoint is there. -/
  entered {e : Endpoint × Handle} : e ∈ enabled → r'.contains e.1.address

theorem Enrolled.nil (r : Roster) : Enrolled [] r r :=
  ⟨.inl, id, fun h => absurd h List.not_mem_nil⟩

theorem Enrolled.cons {endpoint : Endpoint} {handle : Handle} {worker : Option Worker}
    {rest : List (Endpoint × Handle)} {r r' : Roster}
    (h : Enrolled rest (r.insert endpoint.address { handle, worker }) r') :
    Enrolled ((endpoint, handle) :: rest) r r' where
  handle {address handle'} hh := by
    rcases h.handle hh with hr | ⟨e, he, rfl⟩
    · rw [Roster.handle?_insert] at hr
      by_cases ha : address = endpoint.address
      · rw [if_pos ha] at hr
        cases hr
        exact .inr ⟨endpoint, List.mem_cons_self, ha.symm⟩
      · rw [if_neg ha] at hr
        exact .inl hr
    · exact .inr ⟨e, List.mem_cons_of_mem _ he, rfl⟩
  kept {address} hc := by
    refine h.kept ?_
    rw [ByteMap.contains_insert, hc, Bool.or_true]
  entered {e} he := by
    rcases List.mem_cons.mp he with rfl | he
    · refine h.kept ?_
      rw [ByteMap.contains_insert, decide_eq_true rfl, Bool.true_or]
    · exact h.entered he

/-- In a roster that was empty every handle is that of an enabled endpoint. -/
theorem Enrolled.mem_of_handle? {enabled : List (Endpoint × Handle)} {r : Roster}
    (h : Enrolled enabled .empty r) {address : Address} {handle : Handle}
    (hh : r.handle? address = some handle) : ∃ e, (e, handle) ∈ enabled ∧ e.address = address := by
  rcases h.handle hh with hempty | hentered
  · cases hempty
  · exact hentered

/-- A roster that was empty has the addresses of the enabled endpoints. -/
theorem Enrolled.contains_iff {enabled : List (Endpoint × Handle)} {r : Roster}
    (h : Enrolled enabled .empty r) {address : Address} :
    r.contains address = true ↔ ∃ e ∈ enabled, e.1.address = address := by
  constructor
  · intro hc
    rw [Roster.contains_eq_isSome] at hc
    obtain ⟨handle, hh⟩ := Option.isSome_iff_exists.mp hc
    obtain ⟨e, he, hae⟩ := h.mem_of_handle? hh
    exact ⟨(e, handle), he, hae⟩
  · rintro ⟨e, he, rfl⟩
    exact h.entered he

theorem does_startWorker_refused {g : Gadget σ P} {endpoint : Endpoint} {data : Option EndpointData}
    {reason : String} (h : g.refusal? endpoint data = some reason) (handle : Handle) :
    g.does (startWorker endpoint handle data) = (.error (.unstarted reason), g) := by
  unfold startWorker
  rw [does_get_bind, h]
  rfl

/-- An endpoint that is entered has a new worker, or none. -/
theorem does_startWorker {g : Gadget σ P} {endpoint : Endpoint} {data : Option EndpointData}
    (h : g.refusal? endpoint data = none) (handle : Handle) :
    ∃ worker journal, g.does (startWorker endpoint handle data) =
        (.ok (), { g with roster := g.roster.insert endpoint.address { handle, worker }, journal }) ∧
      ∀ w, worker = some w → ∃ data, w = Worker.start g.settings endpoint handle data := by
  unfold startWorker
  rw [does_get_bind, h]
  cases data with
  | none => exact ⟨none, g.journal, rfl, nofun⟩
  | some data =>
      dsimp only
      split
      · exact ⟨_, _, rfl, fun w hw => ⟨data, (Option.some.inj hw).symm⟩⟩
      · exact ⟨none, _, rfl, nofun⟩

/-- How starting the workers of enabled endpoints can end: all endpoints are entered, or those before
the first whose worker gets no thread. -/
inductive Started (enabled : List (Endpoint × Handle)) :
    List (Endpoint × Handle) → Except DeviceError Unit → Prop
  | all : Started enabled enabled (.ok ())
  | refused {entered : List (Endpoint × Handle)} (reason : String) :
      entered <+: enabled → Started enabled entered (.error (.unstarted reason))

theorem Started.cons {e : Endpoint × Handle} {enabled entered : List (Endpoint × Handle)}
    {result : Except DeviceError Unit} (h : Started enabled entered result) :
    Started (e :: enabled) (e :: entered) result := by
  cases h with
  | all => exact .all
  | refused reason hfront => exact .refused reason ((List.prefix_cons_inj e).mpr hfront)

section profile

variable [DeviceProfile P]

/-- Starting workers enters the endpoints in order. -/
theorem does_startWorkers (enabled : List (Endpoint × Handle)) (g : Gadget σ P) :
    ∃ entered result profile roster journal, g.does (startWorkers enabled) =
        (result, { g with profile, roster, journal }) ∧
      Started enabled entered result ∧ Enrolled entered g.roster roster := by
  induction enabled generalizing g with
  | nil => exact ⟨[], .ok (), g.profile, g.roster, g.journal, rfl, .all, .nil g.roster⟩
  | cons e rest ih =>
      obtain ⟨endpoint, handle⟩ := e
      let data := DeviceProfile.endpointData g.profile endpoint
      rw [startWorkers, does_bind, does_consult]
      dsimp only
      rw [does_bind]
      cases hrefusal : refusal? { g with profile := data.2 } endpoint data.1 with
      | some reason =>
          rw [does_startWorker_refused hrefusal handle]
          exact ⟨[], _, data.2, g.roster, g.journal, rfl, .refused reason List.nil_prefix,
            .nil g.roster⟩
      | none =>
          obtain ⟨worker, journal₁, hstart, -⟩ := does_startWorker hrefusal handle
          obtain ⟨entered, result, profile, roster, journal, hrest, hstarted, hroster⟩ := ih
            { g with profile := data.2
                     roster := g.roster.insert endpoint.address { handle, worker }
                     journal := journal₁ }
          rw [hstart]
          exact ⟨(endpoint, handle) :: entered, result, profile, roster, journal, hrest,
            hstarted.cons, hroster.cons⟩

/-! ### What is selected -/

/-- What an accepted SET_CONFIGURATION asks for. -/
inductive Selection where
  /-- No configuration. -/
  | clear
  /-- The configuration that a value stands for. -/
  | pick (value : UInt8) (configuration : Configuration)

/-- What a packet selects, unless it is refused or is another request. -/
def selection? (p : P) (setup : Setup) : Option Selection :=
  if setup.category = .standard ∧
      StandardRequest.ofCode? setup.request = some .setConfiguration ∧
      setup.direction = .toDevice then
    let value := Bytes.low setup.value
    if value = 0 then some .clear
    else (DeviceProfile.configuration? p value).map (.pick value)
  else none

/-- What is selected is what the value of the packet stands for. -/
theorem selection?_cases {p : P} {setup : Setup} {s : Selection} (h : selection? p setup = some s) :
    (s = .clear ∧ Bytes.low setup.value = 0) ∨
      ∃ configuration, s = .pick (Bytes.low setup.value) configuration ∧
        Bytes.low setup.value ≠ 0 ∧
        DeviceProfile.configuration? p (Bytes.low setup.value) = some configuration := by
  unfold selection? at h
  split at h
  · dsimp only at h
    split at h
    · rename_i hvalue
      exact .inl ⟨(Option.some.inj h).symm, hvalue⟩
    · rename_i hvalue
      obtain ⟨configuration, hconfiguration, rfl⟩ := Option.map_eq_some_iff.mp h
      exact .inr ⟨configuration, rfl, hvalue, hconfiguration⟩
  · cases h

/-- What selecting a configuration does once its endpoints are up. -/
def remember (value : UInt8) (configuration : Configuration)
    (enabled : List (Endpoint × Handle)) : Dispatch σ P Unit := do
  update (·.select value)
  startWorkers enabled
  note (.configurationSelected value configuration.endpoints.length)
  modify fun g => { g with selected := some configuration }

/-- The value is written into the state first, and the configuration is remembered last. -/
theorem does_remember (value : UInt8) (configuration : Configuration)
    (enabled : List (Endpoint × Handle)) (g : Gadget σ P) :
    ∃ entered profile roster journal, Enrolled entered g.roster roster ∧
      (entered = enabled ∧ g.does (remember value configuration enabled) =
          (.ok (), { g with profile, roster, journal, state := g.state.select value,
                            selected := some configuration }) ∨
        entered <+: enabled ∧ ∃ reason, g.does (remember value configuration enabled) =
          (.error (.unstarted reason),
            { g with profile, roster, journal, state := g.state.select value })) := by
  obtain ⟨entered, result, profile, roster, journal, hstart, hstarted, hroster⟩ :=
    does_startWorkers enabled { g with state := g.state.select value }
  rw [remember, does_bind, does_update]
  dsimp only
  rw [does_bind, hstart]
  cases hstarted with
  | all =>
      exact ⟨enabled, profile, roster,
        journal.add [.configurationSelected value configuration.endpoints.length], hroster,
        .inl ⟨rfl, rfl⟩⟩
  | refused reason hfront =>
      exact ⟨entered, profile, roster, journal, hroster, .inr ⟨hfront, reason, rfl⟩⟩

end profile

/-! ### Bringing endpoints up -/

section channel

variable [Channel σ]

/-- What selecting a configuration asks of the channel. -/
def bringUp (configuration : Configuration) : Dispatch σ P (List (Endpoint × Handle)) := do
  let enabled ← enableAll configuration.endpoints
  call (Channel.vbusDraw configuration.maxPower)
  call Channel.configure
  pure enabled

theorem onChannel_enableAll (endpoints : List Endpoint) :
    OnChannel (enableAll endpoints : Dispatch σ P _) := by
  induction endpoints with
  | nil => exact onChannel_pure []
  | cons endpoint rest ih =>
      exact (onChannel_call _).bind fun handle => ih.bind fun enabled => onChannel_pure _

theorem onChannel_bringUp (configuration : Configuration) :
    OnChannel (bringUp configuration : Dispatch σ P _) :=
  (onChannel_enableAll _).bind fun enabled => (onChannel_call _).bind fun _ =>
    (onChannel_call _).bind fun _ => onChannel_pure enabled

theorem withChannel_of_bringUp {configuration : Configuration} {g g' : Gadget σ P}
    {result : Except DeviceError (List (Endpoint × Handle))}
    (h : g.does (bringUp configuration) = (result, g')) : ∃ channel, g' = g.withChannel channel := by
  obtain ⟨channel, hchannel⟩ := onChannel_bringUp configuration g
  rw [h] at hchannel
  exact ⟨channel, hchannel⟩

/-- Endpoints are enabled one after the other. -/
theorem does_enableAll_cons_eq_ok {endpoint : Endpoint} {rest : List Endpoint}
    {g g' : Gadget σ P} {enabled : List (Endpoint × Handle)}
    (h : g.does (enableAll (endpoint :: rest)) = (.ok enabled, g')) :
    ∃ handle channel later, Channel.enable endpoint g.around.channel = (.ok handle, channel) ∧
      (g.withChannel channel).does (enableAll rest) = (.ok later, g') ∧
      enabled = (endpoint, handle) :: later := by
  obtain ⟨handle, g₁, hcall, h⟩ := does_bind_eq_ok.mp h
  obtain ⟨later, g₂, hrest, h⟩ := does_bind_eq_ok.mp h
  cases h
  rw [does_call] at hcall
  obtain ⟨hresult, rfl⟩ := Prod.mk.inj hcall
  exact ⟨handle, _, later, Prod.ext hresult rfl, hrest, rfl⟩

section keeps

variable {R : Gadget σ P → Gadget σ P → Prop} (refl : ∀ g, R g g)
  (trans : ∀ g₁ g₂ g₃, R g₁ g₂ → R g₂ g₃ → R g₁ g₃)
  (enable : ∀ endpoint, Keeps R (call (Channel.enable endpoint)))
include refl trans enable

theorem keeps_enableAll (endpoints : List Endpoint) : Keeps R (enableAll endpoints) := by
  induction endpoints with
  | nil => exact refl
  | cons endpoint rest ih =>
      refine (enable endpoint).bind trans fun handle => ?_
      exact ih.bind trans fun enabled => refl

theorem keeps_bringUp (vbusDraw : ∀ milliamps, Keeps R (call (Channel.vbusDraw milliamps)))
    (configure : Keeps R (call Channel.configure)) (configuration : Configuration) :
    Keeps R (bringUp configuration) := by
  refine (keeps_enableAll refl trans enable configuration.endpoints).bind trans fun enabled => ?_
  refine (vbusDraw configuration.maxPower).bind trans fun _ => ?_
  exact configure.bind trans fun _ => refl

end keeps

/-! ### Selecting -/

/-- How a selection can end. -/
inductive Selecting (g : Gadget σ P) :
    Selection → Except DeviceError (Reply P) × Gadget σ P → Prop
  /-- The roster cannot be taken down. -/
  | stuck {s : Selection} {e : DeviceError} {g' : Gadget σ P} :
      g.does stop = (.error e, g') → Selecting g s (.error e, g')
  /-- No configuration is selected any more. -/
  | cleared {exits : List (Address × Exit)} {g' : Gadget σ P} (journal : Journal) :
      g.does stop = (.ok exits, g') →
      Selecting g .clear (.ok .ack, { g' with state := g'.state.select 0, journal })
  /-- The endpoints cannot be brought up. -/
  | interrupted {value : UInt8} {configuration : Configuration} {exits : List (Address × Exit)}
      {e : DeviceError} {g₁ g' : Gadget σ P} :
      g.does stop = (.ok exits, g₁) →
      g₁.does (bringUp configuration) = (.error e, g') →
      Selecting g (.pick value configuration) (.error e, g')
  | selected {value : UInt8} {configuration : Configuration} {exits : List (Address × Exit)}
      {enabled : List (Endpoint × Handle)} {g₁ g₂ : Gadget σ P} {roster : Roster} (profile : P)
      (journal : Journal) :
      g.does stop = (.ok exits, g₁) →
      g₁.does (bringUp configuration) = (.ok enabled, g₂) →
      Enrolled enabled g₂.roster roster →
      Selecting g (.pick value configuration) (.ok .ack,
        { g₂ with profile, roster, journal, state := g₂.state.select value,
                  selected := some configuration })
  /-- The endpoints are up, and a worker gets no thread: the value is written into the state, and the
  endpoints before that of the worker are entered, but the configuration is not remembered. -/
  | unstarted {value : UInt8} {configuration : Configuration} {exits : List (Address × Exit)}
      {enabled entered : List (Endpoint × Handle)} {g₁ g₂ : Gadget σ P} {roster : Roster} (profile : P)
      (journal : Journal) (reason : String) :
      g.does stop = (.ok exits, g₁) →
      g₁.does (bringUp configuration) = (.ok enabled, g₂) →
      entered <+: enabled → Enrolled entered g₂.roster roster →
      Selecting g (.pick value configuration) (.error (.unstarted reason),
        { g₂ with profile, roster, journal, state := g₂.state.select value })

/-- The value of a selection. -/
def Selection.value : Selection → UInt8
  | .clear => 0
  | .pick value _ => value

/-- What has to succeed before a selection is written into the state. -/
def Selection.prepare : Selection → Dispatch σ P Unit
  | .clear => do let _ ← stop
  | .pick _ configuration => do
    let _ ← stop
    let _ ← bringUp configuration

/-- The state after a selection: only one that was prepared is written into it. -/
def selectedState {α : Type} (s : DeviceState) (value : UInt8) : Except DeviceError α → DeviceState
  | .ok _ => s.select value
  | .error _ => s

theorem prepare_of_stuck {g g' : Gadget σ P} {e : DeviceError} (h : g.does stop = (.error e, g'))
    (s : Selection) : (g.does s.prepare).1 = .error e := by
  cases s <;> exact congrArg Prod.fst (does_bind_eq_error.mpr (.inl h))

theorem prepare_clear {g g₁ : Gadget σ P} {exits : List (Address × Exit)}
    (h : g.does stop = (.ok exits, g₁)) : (g.does Selection.clear.prepare).1 = .ok () := by
  rw [Selection.prepare, does_bind, h]
  rfl

theorem prepare_pick {g g₁ g₂ : Gadget σ P} {exits : List (Address × Exit)}
    {configuration : Configuration} {result : Except DeviceError (List (Endpoint × Handle))}
    (hstop : g.does stop = (.ok exits, g₁))
    (hup : g₁.does (bringUp configuration) = (result, g₂)) (value : UInt8) :
    (g.does (Selection.pick value configuration).prepare).1 = result.map fun _ => () := by
  rw [Selection.prepare, does_bind, hstop]
  dsimp only
  rw [does_bind, hup]
  cases result <;> rfl

/-- Nothing is written into the state before the endpoints are up. -/
theorem state_broughtUp {g g₁ g₂ : Gadget σ P} {configuration : Configuration}
    {exits : List (Address × Exit)} {result : Except DeviceError (List (Endpoint × Handle))}
    (hstop : g.does stop = (.ok exits, g₁))
    (hup : g₁.does (bringUp configuration) = (result, g₂)) : g₂.state = g.state := by
  have hstate := state_stop g
  rw [hstop] at hstate
  obtain ⟨channel, rfl⟩ := withChannel_of_bringUp hup
  exact hstate

theorem state_selecting {g : Gadget σ P} {s : Selection}
    {outcome : Except DeviceError (Reply P) × Gadget σ P} (h : Selecting g s outcome) :
    outcome.2.state = selectedState g.state s.value (g.does s.prepare).1 := by
  cases h with
  | stuck hstop =>
      have hstate := state_stop g
      rw [hstop] at hstate
      rw [prepare_of_stuck hstop]
      exact hstate
  | cleared journal hstop =>
      have hstate := state_stop g
      rw [hstop] at hstate
      rw [prepare_clear hstop]
      exact congrArg (·.select 0) hstate
  | @interrupted value _ _ _ _ _ hstop hup =>
      rw [prepare_pick hstop hup]
      exact state_broughtUp hstop hup
  | @selected value _ _ _ _ _ _ profile journal hstop hup _ =>
      rw [prepare_pick hstop hup]
      exact congrArg (·.select value) (state_broughtUp hstop hup)
  | @unstarted value _ _ _ _ _ _ _ profile journal reason hstop hup _ _ =>
      rw [prepare_pick hstop hup]
      exact congrArg (·.select value) (state_broughtUp hstop hup)

/-- A selection that succeeds is written into the state. -/
theorem state_selected {g g' : Gadget σ P} {s : Selection} {reply : Reply P}
    (h : Selecting g s (.ok reply, g')) : g'.state = g.state.select s.value := by
  have hstate := state_selecting h
  cases h with
  | cleared journal hstop =>
      rw [prepare_clear hstop] at hstate
      exact hstate
  | selected profile journal hstop hup _ =>
      rw [prepare_pick hstop hup] at hstate
      exact hstate

variable [DeviceProfile P]

theorem selectConfiguration_eq (value : UInt8) (configuration : Configuration) :
    (selectConfiguration value configuration : Dispatch σ P Unit) = (do
      let _ ← stop
      let enabled ← bringUp configuration
      remember value configuration enabled) := by
  simp only [selectConfiguration, bringUp, remember, bind_assoc, pure_bind]

/-- Selecting a configuration leads to one of the ends of a selection. -/
theorem selecting_pick (g : Gadget σ P) (value : UInt8) (configuration : Configuration) :
    Selecting g (.pick value configuration) (g.does (do
      selectConfiguration value configuration
      return .ack)) := by
  rw [selectConfiguration_eq, does_bind, does_bind]
  rcases hstop : g.does stop with ⟨e | exits, g₁⟩
  · exact .stuck hstop
  · dsimp only
    rw [does_bind]
    rcases hup : g₁.does (bringUp configuration) with ⟨e | enabled, g₂⟩
    · exact .interrupted hstop hup
    · obtain ⟨entered, profile, roster, journal, hroster, hremember⟩ :=
        does_remember value configuration enabled g₂
      dsimp only
      rcases hremember with ⟨rfl, hremember⟩ | ⟨hfront, reason, hremember⟩
      · rw [hremember]
        exact .selected profile journal hstop hup hroster
      · rw [hremember]
        exact .unstarted profile journal reason hstop hup hfront hroster

/-- A SET_CONFIGURATION that is accepted leads to one of the ends of a selection. -/
theorem selecting_setConfiguration {g : Gadget σ P} {setup : Setup} {s : Selection}
    (h : selection? g.profile setup = some s) : Selecting g s (g.does (setConfiguration setup)) := by
  unfold selection? at h
  split at h
  case isFalse => cases h
  case isTrue hsetup =>
    obtain ⟨-, -, hdirection⟩ := hsetup
    unfold setConfiguration
    rw [hdirection, if_neg (fun h => h rfl)]
    dsimp only at h ⊢
    split at h
    case isTrue hzero =>
      cases h
      rw [if_pos hzero, does_bind]
      rcases hstop : g.does stop with ⟨e | exits, g₁⟩
      · exact .stuck hstop
      · have hcleared := Selecting.cleared (g₁.journal.add [.configurationCleared]) hstop
        exact hcleared
    case isFalse hvalue =>
      rw [if_neg hvalue, does_get_bind]
      cases hc : DeviceProfile.configuration? g.profile (Bytes.low setup.value) with
      | none =>
          rw [hc] at h
          cases h
      | some configuration =>
          rw [hc] at h
          cases h
          exact selecting_pick g (Bytes.low setup.value) configuration

end channel

end Gadget

end UsbPeripheral
