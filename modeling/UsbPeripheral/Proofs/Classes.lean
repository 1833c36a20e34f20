import UsbPeripheral.Proofs.Refusal

/-! # What becomes of the device class

A device keeps the state of its class and the handlers that it got when it was made.  The state passes
through the hands of the dispatcher, of the handlers and of the hooks of the class; the handlers are
never exchanged (`handlers_after`).

Most of what the dispatcher does **spares** the class (`Spares`).  What it does with the state on its own
account is to ask for the data of endpoints and to select alternate settings.  A relation between states
that outlasts both is **sturdy** (`Sturdy`), and no standard request breaks it (`Sturdy.standard`).  A
relation that outlasts resets and the handlers of a table as well is **lasting** (`Lasting`), and no run
of a device with that table breaks it (`Lasting.after`). -/

namespace UsbPeripheral

namespace Gadget

variable {σ P α β : Type} {R : P → P → Prop}

/-- The states of the class are related, and the handlers are the same. -/
structure Inherits (R : P → P → Prop) (g g' : Gadget σ P) : Prop where
  profile : R g.profile g'.profile
  handlers : g'.handlers = g.handlers

/-! ### What spares the device class -/

/-- A dispatch that leaves the state of the class and the handlers alone. -/
def Spares (d : Dispatch σ P α) : Prop := Keeps (Inherits Eq) d

theorem Spares.bind {d : Dispatch σ P α} {f : α → Dispatch σ P β} (hd : Spares d)
    (hf : ∀ a, Spares (f a)) : Spares (d >>= f) :=
  Keeps.bind (fun _ _ _ h₁ h₂ => ⟨h₁.profile.trans h₂.profile, h₂.handlers.trans h₁.handlers⟩) hd hf

theorem spares_pure (a : α) : Spares (pure a : Dispatch σ P α) := fun _ => ⟨rfl, rfl⟩

theorem spares_note (n : Note) : Spares (note n : Dispatch σ P Unit) := fun _ => ⟨rfl, rfl⟩

theorem spares_call (operation : σ → Except DeviceError α × σ) :
    Spares (call operation : Dispatch σ P α) := fun _ => ⟨rfl, rfl⟩

theorem spares_update (f : DeviceState → DeviceState) : Spares (update f : Dispatch σ P Unit) :=
  fun _ => ⟨rfl, rfl⟩

theorem spares_startWorker (endpoint : Endpoint) (handle : Handle) (data : Option EndpointData) :
    Spares (startWorker endpoint handle data : Dispatch σ P Unit) := by
  intro g
  cases hrefusal : g.refusal? endpoint data with
  | some reason =>
      rw [does_startWorker_refused hrefusal]
      exact ⟨rfl, rfl⟩
  | none =>
      obtain ⟨worker, journal, h, -⟩ := does_startWorker hrefusal handle
      rw [h]
      exact ⟨rfl, rfl⟩

section channel

variable [Channel σ]

theorem spares_stop : Spares (stop : Dispatch σ P _) := by
  intro g
  obtain ⟨around, journal, h⟩ := does_stop_forgotten g
  rw [h]
  exact ⟨rfl, rfl⟩

theorem spares_bringUp (configuration : Configuration) :
    Spares (bringUp configuration : Dispatch σ P _) := by
  intro g
  obtain ⟨channel, h⟩ := onChannel_bringUp configuration g
  rw [h]
  exact ⟨rfl, rfl⟩

theorem spares_hostHalt (address : Address) (set : Bool) :
    Spares (hostHalt address set : Dispatch σ P _) := by
  have hhalted : ∀ halted, Spares (do update (·.setHalted address halted); return .ack :
      Dispatch σ P (Reply P)) := fun _ => (spares_update _).bind fun _ => spares_pure _
  intro g
  unfold hostHalt
  split
  · exact spares_pure _ g
  · rw [does_get_bind]
    cases g.roster.handle? address with
    | none => exact spares_pure _ g
    | some handle =>
        dsimp only
        split
        · exact (spares_call _).bind (fun _ => hhalted true) g
        · split
          · exact (spares_note _).bind (fun _ => spares_pure _) g
          · exact (spares_call _).bind (fun _ => hhalted false) g

theorem spares_feature (setup : Setup) (set : Bool) :
    Spares (feature setup set : Dispatch σ P _) := by
  intro g
  rw [does_feature]
  split
  · split
    · exact ⟨rfl, rfl⟩
    · exact spares_hostHalt _ set g
    · exact ⟨rfl, rfl⟩
  · exact ⟨rfl, rfl⟩

theorem spares_start : Spares (start : Dispatch σ P Unit) := by
  intro g
  obtain ⟨channel, journal, h | ⟨e, h⟩⟩ := does_start g
  · rw [h]
    exact ⟨rfl, rfl⟩
  · rw [h]
    exact ⟨rfl, rfl⟩

omit [Channel σ] in
theorem inherits_halting {g : Gadget σ P} {address : Address}
    {operation : Handle → σ → Except DeviceError Unit × σ} {halted : Bool} {wedged : ByteSet}
    {outcome : Except DeviceError Bool × Gadget σ P}
    (h : Halting g address operation halted wedged outcome) : Inherits Eq g outcome.2 := by
  cases h <;> exact ⟨rfl, rfl⟩

theorem spares_connect [DeviceProfile P] : Spares (handleEvent .connect : Dispatch σ P Unit) := by
  have hcheck : Spares (checkEndpoints : Dispatch σ P Unit) :=
    (spares_call _).bind fun _ _ => ⟨rfl, rfl⟩
  refine (spares_note _).bind fun _ => spares_stop.bind fun _ => hcheck.bind fun _ => ?_
  exact (spares_update _).bind fun _ => spares_note _

end channel

end Gadget

open Gadget

variable {σ P : Type} [DeviceProfile P] {R : P → P → Prop}

/-! ### Standard requests -/

/-- A relation between states of a device class that the dispatcher does not break on its own. -/
structure Sturdy (R : P → P → Prop) : Prop where
  refl (p : P) : R p p
  trans {p₁ p₂ p₃ : P} : R p₁ p₂ → R p₂ p₃ → R p₁ p₃
  endpointData (p : P) (e : Endpoint) : R p (DeviceProfile.endpointData p e).2
  setInterface (p : P) (interface alternate : UInt8) :
    R p (DeviceProfile.setInterface p interface alternate).2

namespace Sturdy

variable (hR : Sturdy R)
include hR

theorem unchanged (g : Gadget σ P) : Inherits R g g := ⟨hR.refl g.profile, rfl⟩

theorem inherits (g₁ g₂ g₃ : Gadget σ P) (h₁ : Inherits R g₁ g₂) (h₂ : Inherits R g₂ g₃) :
    Inherits R g₁ g₃ := ⟨hR.trans h₁.profile h₂.profile, h₂.handlers.trans h₁.handlers⟩

theorem of_same {g g' : Gadget σ P} (h : Inherits Eq g g') : Inherits R g g' :=
  ⟨h.profile ▸ hR.refl g.profile, h.handlers⟩

theorem of_spares {α : Type} {d : Dispatch σ P α} (h : Spares d) : Keeps (Inherits R) d :=
  fun g => hR.of_same (h g)

theorem startWorkers (enabled : List (Endpoint × Handle)) :
    Keeps (σ := σ) (Inherits R) (startWorkers enabled) := by
  induction enabled with
  | nil => exact hR.unchanged
  | cons e rest ih =>
      have hconsult : Keeps (σ := σ) (Inherits R)
          (consult fun p => DeviceProfile.endpointData p e.1) :=
        fun g => ⟨hR.endpointData g.profile e.1, rfl⟩
      refine hconsult.bind hR.inherits fun data => ?_
      exact (hR.of_spares (spares_startWorker e.1 e.2 data)).bind hR.inherits fun _ => ih

variable [Channel σ]

theorem selectConfiguration (value : UInt8) (configuration : Configuration) :
    Keeps (σ := σ) (Inherits R) (selectConfiguration (P := P) value configuration) := by
  have hbefore : Spares (σ := σ) (P := P) (update (·.select value)) := spares_update _
  have hafter : Spares (σ := σ) (P := P) (do
      note (.configurationSelected value configuration.endpoints.length)
      modify fun g => { g with selected := some configuration }) :=
    (spares_note _).bind fun _ _ => ⟨rfl, rfl⟩
  rw [selectConfiguration_eq]
  refine (hR.of_spares spares_stop).bind hR.inherits fun _ => ?_
  refine (hR.of_spares (spares_bringUp configuration)).bind hR.inherits fun enabled => ?_
  refine (hR.of_spares hbefore).bind hR.inherits fun _ => ?_
  exact (hR.startWorkers enabled).bind hR.inherits fun _ => hR.of_spares hafter

theorem setConfiguration (setup : Setup) :
    Keeps (σ := σ) (P := P) (Inherits R) (setConfiguration setup) := by
  intro g
  unfold Gadget.setConfiguration
  split
  · exact hR.unchanged g
  · dsimp only
    split
    · refine hR.of_spares (spares_stop.bind fun _ => ?_) g
      exact (spares_update _).bind fun _ => (spares_note _).bind fun _ => spares_pure _
    · rw [does_get_bind]
      cases DeviceProfile.configuration? g.profile (Bytes.low setup.value) with
      | none => exact hR.of_spares ((spares_note _).bind fun _ => spares_pure _) g
      | some configuration =>
          refine (hR.selectConfiguration _ configuration).bind hR.inherits (fun _ => ?_) g
          exact hR.of_spares (spares_pure _)

/-- **No standard request breaks a sturdy relation.** -/
theorem standard (setup : Setup) : Keeps (σ := σ) (P := P) (Inherits R) (standard setup) := by
  intro g
  unfold Gadget.standard
  cases StandardRequest.ofCode? setup.request with
  | none => exact hR.unchanged g
  | some request =>
      cases request with
      | getStatus =>
          dsimp only
          rw [does_getStatus]
          exact hR.unchanged g
      | clearFeature => exact hR.of_spares (spares_feature setup false) g
      | setFeature => exact hR.of_spares (spares_feature setup true) g
      | getDescriptor =>
          obtain ⟨journal, h⟩ := does_getDescriptor g setup
          dsimp only
          rw [h]
          exact ⟨hR.refl g.profile, rfl⟩
      | getConfiguration =>
          dsimp only
          rw [does_getConfiguration]
          exact hR.unchanged g
      | setConfiguration => exact hR.setConfiguration setup g
      | getInterface =>
          dsimp only
          rw [does_getInterface]
          exact hR.unchanged g
      | setInterface =>
          dsimp only
          rw [does_setInterface]
          split
          · dsimp only
            split
            · exact ⟨hR.setInterface _ _ _, rfl⟩
            · exact ⟨hR.setInterface _ _ _, rfl⟩
          · exact hR.unchanged g
      | setAddress => exact hR.unchanged g
      | setDescriptor => exact hR.unchanged g
      | synchFrame => exact hR.unchanged g

end Sturdy

/-! ### Packets -/

namespace Gadget

/-- The device after a handler answered a packet. -/
def routed (g : Gadget σ P) (setup : Setup) (h : NamedHandler P) : Gadget σ P :=
  { ((g.noted [.event (.control setup)]).noted [.routedRequest h.name setup.category]).noted
      (h.handler setup g.profile).notes with
    profile := (h.handler setup g.profile).profile }

/-- The device after no handler was found for a packet. -/
def unrouted (g : Gadget σ P) (setup : Setup) : Gadget σ P :=
  (g.noted [.event (.control setup)]).noted [.unroutedRequest setup.request setup.category]

variable [Channel σ] {g : Gadget σ P} {setup : Setup}

/-- The handler that the table has for a request answers it. -/
theorem answering_routed {h : NamedHandler P} (hcategory : setup.category ≠ .standard)
    (hlookup : g.handlers.lookup setup.category setup.request = some h) :
    g.answering setup = (.ok (h.handler setup g.profile).reply, g.routed setup h) := by
  unfold answering answer
  split
  · rename_i hstandard
    exact absurd hstandard hcategory
  · rw [does_get_bind, show (g.noted _).handlers.lookup _ _ = _ from hlookup]
    rfl

theorem answering_unrouted (hcategory : setup.category ≠ .standard)
    (hlookup : g.handlers.lookup setup.category setup.request = none) :
    g.answering setup = (.ok .stall, g.unrouted setup) := by
  unfold answering answer
  split
  · rename_i hstandard
    exact absurd hstandard hcategory
  · rw [does_get_bind, show (g.noted _).handlers.lookup _ _ = _ from hlookup]
    rfl

/-- What is handed over after a handler answered is for the state that it left. -/
theorem profile_routed {h : NamedHandler P} (hcategory : setup.category ≠ .standard)
    (hlookup : g.handlers.lookup setup.category setup.request = some h) :
    let handled := h.handler setup g.profile
    Inherits (fun _ p => p = handOver setup handled.reply
        ((stage setup handled.reply).operate g.around.channel).1 handled.profile)
      g (g.does (handleEvent (.control setup))).2 := by
  intro handled
  obtain ⟨journal, hcomplete⟩ := does_complete (g.routed setup h) setup handled.reply
  rw [does_handleEvent_control, answering_routed hcategory hlookup]
  dsimp only
  rw [hcomplete]
  exact ⟨rfl, rfl⟩

/-- Endpoint 0 is stalled for a packet that a handler answers exactly if it is for its reply. -/
theorem any_isStall_routed {g : Gadget (Traced σ) P} {h : NamedHandler P}
    (hcategory : setup.category ≠ .standard)
    (hlookup : g.handlers.lookup setup.category setup.request = some h) :
    ((g.does (handleEvent (.control setup))).2.calls.drop g.calls.length).any Call.isStall = true ↔
      stage setup (h.handler setup g.profile).reply = .stall := by
  obtain ⟨journal, hcomplete⟩ :=
    does_complete (g.routed setup h) setup (h.handler setup g.profile).reply
  obtain ⟨call, hcall, hstall⟩ := operate_stall
    (stage setup (h.handler setup g.profile).reply) (g.routed setup h).around.channel
  have hcalls : (g.does (handleEvent (.control setup))).2.calls = g.calls ++ [call] := by
    rw [does_handleEvent_control, answering_routed hcategory hlookup]
    dsimp only
    rw [hcomplete]
    exact hcall
  rw [hcalls, List.drop_left]
  simpa using hstall

theorem inherits_unrouted (hcategory : setup.category ≠ .standard)
    (hlookup : g.handlers.lookup setup.category setup.request = none) :
    Inherits Eq g (g.does (handleEvent (.control setup))).2 := by
  obtain ⟨journal, hcomplete⟩ := does_complete (g.unrouted setup) setup (.stall : Reply P)
  rw [does_handleEvent_control, answering_unrouted hcategory hlookup]
  dsimp only
  rw [hcomplete]
  exact ⟨rfl, rfl⟩

end Gadget

/-- A standard request has no data to hand over. -/
theorem Sturdy.packet [Channel σ] (hR : Sturdy R) (g : Gadget σ P) {setup : Setup}
    (hstandard : setup.category = .standard) :
    Inherits R g (g.does (handleEvent (.control setup))).2 := by
  have hanswered : Inherits R g (g.answering setup).2 := by
    have h := hR.standard setup (g.heard setup)
    rw [answering_standard g hstandard]
    exact ⟨h.profile, h.handlers⟩
  have hsettled := settled_answering (g := g) hstandard
  rw [does_handleEvent_control]
  rcases hanswer : g.answering setup with ⟨e | reply, g₁⟩
  · rw [hanswer] at hanswered
    exact hanswered
  · rw [hanswer] at hanswered hsettled
    obtain ⟨journal, hcomplete⟩ := does_complete g₁ setup reply
    have hsame : handOver setup reply ((stage setup reply).operate g₁.around.channel).1 g₁.profile =
        g₁.profile := by
      cases hsettled <;> rfl
    dsimp only
    rw [hcomplete]
    refine ⟨?_, hanswered.handlers⟩
    dsimp only
    rw [hsame]
    exact hanswered.profile

/-! ### Other events -/

/-- What an event other than a packet makes of the state of the class. -/
def BusEvent.onClass (event : BusEvent) (p : P) : P :=
  match event with
  | .reset | .disconnect => DeviceProfile.onReset p
  | _ => p

namespace Gadget

variable [Channel σ]

/-- The class has what the event makes of it, unless the event failed and left it alone. -/
def Renews (event : BusEvent) (g : Gadget σ P) (outcome : Except DeviceError Unit × Gadget σ P) :
    Prop :=
  Inherits (fun p p' => p' = event.onClass p ∨ p' = p ∧ outcome.1 ≠ .ok ()) g outcome.2

omit [Channel σ] in
theorem Renews.of_same {event : BusEvent} {g : Gadget σ P}
    {outcome : Except DeviceError Unit × Gadget σ P} (h : Inherits Eq g outcome.2)
    (hevent : event.onClass g.profile = g.profile) : Renews event g outcome :=
  ⟨.inl (h.profile.symm.trans hevent.symm), h.handlers⟩

theorem renews_restart (event : BusEvent) (base : Lifecycle) (n : Note) (g : Gadget σ P)
    (hevent : event.onClass g.profile = DeviceProfile.onReset g.profile) :
    Renews event g ((g.noted [.event event]).does (do restart base; note n)) := by
  have hstop := spares_stop (g.noted [.event event])
  unfold restart
  rw [does_bind, does_bind]
  rcases hresult : (g.noted [.event event]).does stop with ⟨e | exits, g₁⟩
  · rw [hresult] at hstop
    exact ⟨.inr ⟨hstop.profile.symm, nofun⟩, hstop.handlers⟩
  · rw [hresult] at hstop
    refine ⟨.inl ?_, hstop.handlers⟩
    rw [hevent]
    exact congrArg DeviceProfile.onReset hstop.profile.symm

theorem renews_handled (g : Gadget σ P) {event : BusEvent} (hevent : ∀ setup, event ≠ .control setup) :
    Renews event g (g.does (handleEvent event)) := by
  cases event with
  | connect => exact .of_same (spares_connect g) rfl
  | control setup => exact absurd rfl (hevent setup)
  | suspend => exact .of_same ⟨rfl, rfl⟩ rfl
  | resume => exact .of_same ⟨rfl, rfl⟩ rfl
  | reset => exact renews_restart .reset .default .busReset g rfl
  | disconnect => exact renews_restart .disconnect .unattached .disconnected g rfl
  | unknown tag length => exact .of_same ⟨rfl, rfl⟩ rfl
  | malformed tag length => exact .of_same ⟨rfl, rfl⟩ rfl

end Gadget

/-! ### Runs -/

/-- A move in which no event is handled and that leaves the device class alone. -/
def Aside (m : Move σ P) : Prop :=
  (∀ event, m ≠ .event event) ∧ m ≠ .step ∧ ∀ f, m ≠ .adjust f

theorem Gadget.inherits_next [Channel σ] (g : Gadget σ P) {m : Move σ P} (hm : Aside m) :
    Inherits Eq g (g.next m) := by
  obtain ⟨hevent, hstep, hadjust⟩ := hm
  cases m with
  | start => exact spares_start g
  | event event => exact absurd rfl (hevent event)
  | step => exact absurd rfl hstep
  | stop =>
      rw [next_stop]
      exact spares_stop g
  | halt address =>
      rw [next_halt]
      exact inherits_halting (halting_halt g address)
  | wedge address =>
      rw [next_wedge]
      exact inherits_halting (halting_wedge g address)
  | unhalt address =>
      rw [next_unhalt]
      exact inherits_halting (halting_unhalt g address)
  | work address =>
      obtain ⟨around, roster, journal, hwork, -⟩ := runWorker_within Calm.any 1 address g
      rw [next_work, hwork]
      exact ⟨rfl, rfl⟩
  | outside f => exact ⟨rfl, rfl⟩
  | stock f => exact ⟨rfl, rfl⟩
  | adjust f => exact absurd rfl (hadjust f)
  | threads refusals => exact ⟨rfl, rfl⟩

/-- Whether a handler takes the data of the host. -/
def Reply.receives : Reply P → Bool
  | .receive _ => true
  | _ => false

omit [DeviceProfile P] in
theorem Reply.ne_receive {reply : Reply P} (h : reply.receives = false)
    (handler : Setup → Bytes → P → P × List Note) : reply ≠ .receive handler := by
  rintro rfl
  cases h

/-- A relation that outlasts resets and the handlers of a table, too. -/
structure Lasting (t : HandlerTable P) (R : P → P → Prop) : Prop extends Sturdy R where
  onReset (p : P) : R p (DeviceProfile.onReset p)
  handled {category : Category} {code : UInt8} {h : NamedHandler P} :
    t.lookup category code = some h → ∀ setup p, R p (h.handler setup p).profile
  received {category : Category} {code : UInt8} {h : NamedHandler P} {setup : Setup} {p : P}
    {handler : Setup → Bytes → P → P × List Note} :
    t.lookup category code = some h → (h.handler setup p).reply = .receive handler →
    ∀ data p', R p' (handler setup data p').1

/-- Nothing is asked of the states. -/
theorem Lasting.any (t : HandlerTable P) : Lasting t fun _ _ : P => True where
  refl _ := trivial
  trans _ _ := trivial
  endpointData _ _ := trivial
  setInterface _ _ _ := trivial
  onReset _ := trivial
  handled _ _ _ := trivial
  received _ _ _ _ := trivial

namespace Lasting

variable [Channel σ] {g : Gadget σ P} (hR : Lasting g.handlers R)
include hR

theorem packet (setup : Setup) : Inherits R g (g.does (handleEvent (.control setup))).2 := by
  by_cases hcategory : setup.category = .standard
  · exact hR.toSturdy.packet g hcategory
  · cases hlookup : g.handlers.lookup setup.category setup.request with
    | none => exact hR.of_same (inherits_unrouted hcategory hlookup)
    | some h =>
        obtain ⟨hprofile, hhandlers⟩ := profile_routed hcategory hlookup
        have hhandled := hR.handled hlookup setup g.profile
        refine ⟨?_, hhandlers⟩
        rw [hprofile]
        unfold handOver
        split
        · rename_i handler data hreply hdirection hresult
          exact hR.trans hhandled (hR.received hlookup hreply _ _)
        · exact hhandled

theorem event (event : BusEvent) : Inherits R g (g.does (handleEvent event)).2 := by
  by_cases hevent : ∃ setup, event = .control setup
  · obtain ⟨setup, rfl⟩ := hevent
    exact hR.packet setup
  · have hrenews := renews_handled g fun setup h => hevent ⟨setup, h⟩
    refine ⟨?_, hrenews.handlers⟩
    rcases hrenews.profile with hprofile | ⟨hprofile, -⟩
    · rw [hprofile]
      unfold BusEvent.onClass
      split
      · exact hR.onReset _
      · exact hR.onReset _
      · exact hR.refl _
    · rw [hprofile]
      exact hR.refl _

/-- No move breaks a lasting relation, if what is done to the class from outside does not. -/
theorem next {m : Move σ P} (hm : ∀ f, m = .adjust f → ∀ p, R p (f p)) : Inherits R g (g.next m) := by
  cases m with
  | event event => exact hR.event event
  | step =>
      rw [next_step, does_step]
      rcases Channel.fetchEvent g.around.channel with ⟨e | record, channel⟩
      · exact ⟨hR.refl _, rfl⟩
      · have hchannel : Lasting (g.withChannel channel).handlers R := hR
        obtain ⟨hprofile, hhandlers⟩ := hchannel.event record.decode
        exact ⟨hprofile, hhandlers⟩
  | adjust f => exact ⟨hm f rfl g.profile, rfl⟩
  | _ => exact hR.of_same (inherits_next g ⟨nofun, nofun, nofun⟩)

/-- **No run breaks a lasting relation.** -/
theorem after {ms : List (Move σ P)} (hms : ∀ f, .adjust f ∈ ms → ∀ p, R p (f p)) :
    Inherits R g (g.after ms) := by
  induction ms generalizing g with
  | nil => exact hR.unchanged g
  | cons m ms ih =>
      have hnext := hR.next fun f hf => hms f (hf ▸ List.mem_cons_self)
      have hR' : Lasting (g.next m).handlers R := hnext.handlers ▸ hR
      exact hR.inherits _ _ _ hnext (ih hR' fun f hf => hms f (List.mem_cons_of_mem _ hf))

end Lasting

/-- A device keeps the handlers that it has. -/
theorem Gadget.handlers_after [Channel σ] (g : Gadget σ P) (ms : List (Move σ P)) :
    (g.after ms).handlers = g.handlers :=
  ((Lasting.any g.handlers).after fun _ _ _ => trivial).handlers

end UsbPeripheral
