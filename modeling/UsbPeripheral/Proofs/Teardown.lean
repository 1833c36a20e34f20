import UsbPeripheral.Proofs.Dispatch
import UsbPeripheral.Proofs.Workers

/-! # Taking the roster down

`stop` forgets the configuration, the wedges and the roster, and then works on what was in the roster:
the endpoints are disabled, the workers are waited for, and the endpoints that refused are disabled
again.  Two facts say what this means.

* **Frame** (`does_stop_within`): apart from the three that are forgotten, only the surroundings and
  the journal change, and the channel moves along every calm relation that disabling the endpoints
  of the roster keeps.
* **Effect** (`does_stop_off`): if it succeeds, every endpoint of the roster was disabled, so a
  property that disabling brings about and a calm relation keeps holds of all of them.

Two teardowns whose acts **concur** take a roster down alike (`Teardown.Concur.stopAll`). -/

namespace UsbPeripheral

/-- The slot with its worker cancelled. -/
def Slot.cancelled (s : Slot) : Slot := { s with worker := s.worker.map Worker.cancel }

/-- The slots with their workers cancelled. -/
def cancelledSlots (slots : List (Address × Slot)) : List (Address × Slot) :=
  slots.map fun e => (e.1, e.2.cancelled)

/-! ### The passes, one slot at a time -/

theorem bind_at {ω α β : Type} (x : StateM ω α) (f : α → StateM ω β) (s : ω) :
    (x >>= f) s = f (x s).1 (x s).2 := rfl

namespace Teardown

variable {ω : Type} (t : Teardown (StateM ω)) (address : Address) (s : ω)

theorem cancelAll_cons (slot : Slot) (rest : List (Address × Slot)) :
    t.cancelAll ((address, slot) :: rest) s =
      match slot.worker with
      | some w =>
        let c := t.cancel address w s
        let r := t.cancelAll rest c.2
        ((address, { slot with worker := some c.1 }) :: r.1, r.2)
      | none =>
        let r := t.cancelAll rest s
        ((address, slot) :: r.1, r.2) := by
  obtain ⟨handle, worker⟩ := slot
  cases worker <;> rfl

theorem disableAll_cons (slot : Slot) (rest : List (Address × Slot)) :
    t.disableAll ((address, slot) :: rest) s =
      match t.disable address slot.handle (t.note (.disabling address slot.handle) s).2 with
      | (.ok (), s') => t.disableAll rest s'
      | (.error e, s') =>
        let r := t.disableAll rest (t.note (.disableDeferred address e) s').2
        ((address, slot.handle) :: r.1, r.2) := by
  rw [Teardown.disableAll, bind_at, bind_at]
  rcases t.disable address slot.handle (t.note (.disabling address slot.handle) s).2 with
    ⟨e | ⟨⟩, s'⟩
  · rfl
  · rfl

theorem joinAll_cons (slot : Slot) (rest : List (Address × Slot)) :
    t.joinAll ((address, slot) :: rest) s =
      match slot.worker with
      | some w =>
        let j := t.join address w s
        let r := t.joinAll rest (t.note (.workerStopped address j.1) j.2).2
        ((address, j.1) :: r.1, r.2)
      | none => t.joinAll rest s := by
  rw [Teardown.joinAll]
  cases slot.worker <;> rfl

theorem retryAll_cons (handle : Handle) (rest : List (Address × Handle)) :
    t.retryAll ((address, handle) :: rest) s =
      match t.disable address handle s with
      | (.ok (), s') => t.retryAll rest s'
      | (.error e, s') =>
        let r := t.retryAll rest (t.note (.disableFailed address e) s').2
        (e :: r.1, r.2) := by
  rw [Teardown.retryAll, bind_at]
  rcases t.disable address handle s with ⟨e | ⟨⟩, s'⟩
  · rfl
  · rfl

theorem stopAll_at (slots : List (Address × Slot)) :
    t.stopAll slots s =
      let cancelled := t.cancelAll slots s
      let disabled := t.disableAll cancelled.1 cancelled.2
      let joined := t.joinAll cancelled.1 disabled.2
      let retried := t.retryAll disabled.1 joined.2
      (match retried.1 with
        | [] => .ok joined.1
        | e :: _ => .error e, retried.2) := by
  rw [Teardown.stopAll, bind_at, bind_at, bind_at, bind_at]
  dsimp only
  generalize t.retryAll _ _ = retried
  obtain ⟨_ | ⟨e, failures⟩, s'⟩ := retried
  · rfl
  · rfl

end Teardown

/-! ### Two teardowns side by side -/

/-- Two acts have the same result at related states, and leave related states. -/
def Concurs {ω ω' α : Type} (R : ω → ω' → Prop) (act : StateM ω α) (act' : StateM ω' α) : Prop :=
  ∀ s s', R s s' → (act' s').1 = (act s).1 ∧ R (act s).2 (act' s').2

section concurs

variable {ω ω' α β : Type} {R : ω → ω' → Prop}

theorem concurs_pure (a : α) : Concurs R (pure a) (pure a) := fun _ _ h => ⟨rfl, h⟩

theorem Concurs.bind {act : StateM ω α} {act' : StateM ω' α} {f : α → StateM ω β}
    {f' : α → StateM ω' β} (hact : Concurs R act act') (hf : ∀ a, Concurs R (f a) (f' a)) :
    Concurs R (act >>= f) (act' >>= f') := by
  intro s s' h
  obtain ⟨hresult, hafter⟩ := hact s s' h
  rw [bind_at, bind_at, hresult]
  exact hf _ _ _ hafter

/-- The acts of two teardowns concur. -/
structure Teardown.Concur (R : ω → ω' → Prop) (t : Teardown (StateM ω)) (t' : Teardown (StateM ω')) :
    Prop where
  cancel (address : Address) (w : Worker) : Concurs R (t.cancel address w) (t'.cancel address w)
  disable (address : Address) (handle : Handle) :
    Concurs R (t.disable address handle) (t'.disable address handle)
  join (address : Address) (w : Worker) : Concurs R (t.join address w) (t'.join address w)
  note (n : Note) : Concurs R (t.note n) (t'.note n)

namespace Teardown.Concur

variable {t : Teardown (StateM ω)} {t' : Teardown (StateM ω')} (h : Concur R t t')
include h

theorem cancelAll (slots : List (Address × Slot)) :
    Concurs R (t.cancelAll slots) (t'.cancelAll slots) := by
  induction slots with
  | nil => exact concurs_pure []
  | cons e rest ih =>
      obtain ⟨address, handle, worker⟩ := e
      have hrest : ∀ worker, Concurs R
          (do let rest ← t.cancelAll rest; pure ((address, ⟨handle, worker⟩) :: rest))
          (do let rest ← t'.cancelAll rest; pure ((address, ⟨handle, worker⟩) :: rest)) :=
        fun _ => ih.bind fun _ => concurs_pure _
      cases worker with
      | none => exact (concurs_pure none).bind hrest
      | some w =>
          refine Concurs.bind ?_ hrest
          exact (h.cancel address w).bind fun _ => concurs_pure _

theorem disableAll (slots : List (Address × Slot)) :
    Concurs R (t.disableAll slots) (t'.disableAll slots) := by
  induction slots with
  | nil => exact concurs_pure []
  | cons e rest ih =>
      obtain ⟨address, slot⟩ := e
      refine (h.note _).bind fun _ => ?_
      refine (h.disable address slot.handle).bind fun result => ?_
      cases result with
      | ok _ => exact ih
      | error e => exact (h.note _).bind fun _ => ih.bind fun busy => concurs_pure _

theorem joinAll (slots : List (Address × Slot)) :
    Concurs R (t.joinAll slots) (t'.joinAll slots) := by
  induction slots with
  | nil => exact concurs_pure []
  | cons e rest ih =>
      obtain ⟨address, handle, worker⟩ := e
      cases worker with
      | none => exact ih
      | some w =>
          refine (h.join address w).bind fun exit => ?_
          exact (h.note _).bind fun _ => ih.bind fun exits => concurs_pure _

theorem retryAll (busy : List (Address × Handle)) :
    Concurs R (t.retryAll busy) (t'.retryAll busy) := by
  induction busy with
  | nil => exact concurs_pure []
  | cons e rest ih =>
      obtain ⟨address, handle⟩ := e
      refine (h.disable address handle).bind fun result => ?_
      cases result with
      | ok _ => exact ih
      | error e => exact (h.note _).bind fun _ => ih.bind fun failures => concurs_pure _

/-- Rosters are taken down alike by acts that concur. -/
theorem stopAll (slots : List (Address × Slot)) :
    Concurs R (t.stopAll slots) (t'.stopAll slots) := by
  refine (h.cancelAll slots).bind fun slots => ?_
  refine (h.disableAll slots).bind fun busy => ?_
  refine (h.joinAll slots).bind fun exits => ?_
  refine (h.retryAll busy).bind fun failures => ?_
  cases failures with
  | nil => exact concurs_pure _
  | cons e rest => exact concurs_pure _

end Teardown.Concur

end concurs

namespace Gadget

variable {σ P : Type} [Channel σ]

/-- The gadget with more notes. -/
def noted (g : Gadget σ P) (notes : List Note) : Gadget σ P :=
  { g with journal := g.journal.add notes }

/-- `g'` differs from `g` in surroundings and journal only, and its channel is related. -/
def Within (R : σ → σ → Prop) (g g' : Gadget σ P) : Prop :=
  ∃ around journal, g' = { g with around, journal } ∧ R g.around.channel around.channel

/-! ### The acts, one endpoint at a time -/

theorem note_at (n : Note) (g : Gadget σ P) : teardown.note n g = ((), g.noted [n]) := rfl

theorem disable_at (address : Address) (handle : Handle) (g : Gadget σ P) :
    teardown.disable address handle g = g.does (call (Channel.disable handle)) := rfl

theorem join_at (address : Address) (w : Worker) (g : Gadget σ P) :
    (teardown.join address w : StateM (Gadget σ P) Exit) g =
      ((w.join g.state.suspended g.around).1,
        { g with
          around := (w.join g.state.suspended g.around).2.2
          journal := g.journal.addWorker address (w.join g.state.suspended g.around).2.1 }) := rfl

theorem cancelAll_eq (slots : List (Address × Slot)) (g : Gadget σ P) :
    teardown.cancelAll slots g = (cancelledSlots slots, g) := by
  induction slots with
  | nil => rfl
  | cons e rest ih =>
      obtain ⟨address, handle, worker⟩ := e
      rw [Teardown.cancelAll_cons]
      cases worker with
      | none =>
          dsimp only
          rw [ih]
          rfl
      | some w =>
          show (let r := teardown.cancelAll rest g; ((address, _) :: r.1, r.2)) = _
          rw [ih]
          rfl

theorem disableAll_cons (address : Address) (slot : Slot) (rest : List (Address × Slot))
    (g : Gadget σ P) :
    teardown.disableAll ((address, slot) :: rest) g =
      match (g.noted [.disabling address slot.handle]).does (call (Channel.disable slot.handle)) with
      | (.ok (), g') => teardown.disableAll rest g'
      | (.error e, g') =>
        let r := teardown.disableAll rest (g'.noted [.disableDeferred address e])
        ((address, slot.handle) :: r.1, r.2) := by
  rw [Teardown.disableAll_cons, note_at, disable_at]
  rcases (g.noted [.disabling address slot.handle]).does (call (Channel.disable slot.handle)) with
    ⟨e | ⟨⟩, g'⟩
  · rfl
  · rfl

theorem joinAll_cons (address : Address) (slot : Slot) (rest : List (Address × Slot))
    (g : Gadget σ P) :
    teardown.joinAll ((address, slot) :: rest) g =
      match slot.worker with
      | some w =>
        let j := w.join g.state.suspended g.around
        let journal := (g.journal.addWorker address j.2.1).add [.workerStopped address j.1]
        let r := teardown.joinAll rest { g with around := j.2.2, journal }
        ((address, j.1) :: r.1, r.2)
      | none => teardown.joinAll rest g :=
  Teardown.joinAll_cons teardown address g slot rest

theorem retryAll_cons (address : Address) (handle : Handle) (rest : List (Address × Handle))
    (g : Gadget σ P) :
    teardown.retryAll ((address, handle) :: rest) g =
      match g.does (call (Channel.disable handle)) with
      | (.ok (), g') => teardown.retryAll rest g'
      | (.error e, g') =>
        let r := teardown.retryAll rest (g'.noted [.disableFailed address e])
        (e :: r.1, r.2) := by
  rw [Teardown.retryAll_cons, disable_at]
  rcases g.does (call (Channel.disable handle)) with ⟨e | ⟨⟩, g'⟩
  · rfl
  · rfl

theorem stopAll_eq (slots : List (Address × Slot)) (g : Gadget σ P) :
    teardown.stopAll slots g =
      let slots := cancelledSlots slots
      let disabled := teardown.disableAll slots g
      let joined := teardown.joinAll slots disabled.2
      let retried := teardown.retryAll disabled.1 joined.2
      (match retried.1 with
        | [] => .ok joined.1
        | e :: _ => .error e, retried.2) := by
  rw [Teardown.stopAll_at, cancelAll_eq]

/-! ### The frame -/

section frame

variable {R : σ → σ → Prop} (hR : Calm R)
include hR

theorem Within.refl (g : Gadget σ P) : Within R g g := ⟨g.around, g.journal, rfl, hR.refl _⟩

theorem Within.trans {g₁ g₂ g₃ : Gadget σ P} (h₁ : Within R g₁ g₂) (h₂ : Within R g₂ g₃) :
    Within R g₁ g₃ := by
  obtain ⟨around₁, journal₁, rfl, h₁⟩ := h₁
  obtain ⟨around₂, journal₂, rfl, h₂⟩ := h₂
  exact ⟨around₂, journal₂, rfl, hR.trans h₁ h₂⟩

theorem within_noted (g : Gadget σ P) (notes : List Note) : Within R g (g.noted notes) :=
  ⟨g.around, g.journal.add notes, rfl, hR.refl _⟩

omit hR in
theorem within_disable {handle : Handle} (h : ∀ s, R s (Channel.disable handle s).2)
    (g : Gadget σ P) : Within R g (g.does (call (Channel.disable handle))).2 :=
  ⟨_, g.journal, rfl, h g.around.channel⟩

theorem within_disableAll {slots : List (Address × Slot)}
    (h : ∀ e ∈ slots, ∀ s, R s (Channel.disable e.2.handle s).2) (g : Gadget σ P) :
    Within R g (teardown.disableAll slots g).2 := by
  induction slots generalizing g with
  | nil => exact Within.refl hR g
  | cons e rest ih =>
      obtain ⟨address, slot⟩ := e
      have hrest := fun g => ih (fun e he => h e (List.mem_cons_of_mem _ he)) g
      have hd := (within_noted hR g [.disabling address slot.handle]).trans hR
        (within_disable (h _ List.mem_cons_self) _)
      rw [disableAll_cons]
      rcases hr : (g.noted [.disabling address slot.handle]).does
        (call (Channel.disable slot.handle)) with ⟨e | ⟨⟩, g'⟩
      · rw [hr] at hd
        exact (hd.trans hR (within_noted hR g' _)).trans hR (hrest _)
      · rw [hr] at hd
        exact hd.trans hR (hrest g')

theorem within_joinAll (slots : List (Address × Slot)) (g : Gadget σ P) :
    Within R g (teardown.joinAll slots g).2 := by
  induction slots generalizing g with
  | nil => exact Within.refl hR g
  | cons e rest ih =>
      obtain ⟨address, handle, worker⟩ := e
      rw [joinAll_cons]
      cases worker with
      | none => exact ih g
      | some w => exact Within.trans hR ⟨_, _, rfl, hR.worker_join g.state.suspended w g.around⟩ (ih _)

theorem within_retryAll {busy : List (Address × Handle)}
    (h : ∀ e ∈ busy, ∀ s, R s (Channel.disable e.2 s).2) (g : Gadget σ P) :
    Within R g (teardown.retryAll busy g).2 := by
  induction busy generalizing g with
  | nil => exact Within.refl hR g
  | cons e rest ih =>
      obtain ⟨address, handle⟩ := e
      have hrest := fun g => ih (fun e he => h e (List.mem_cons_of_mem _ he)) g
      have hd := within_disable (h _ List.mem_cons_self) g
      rw [retryAll_cons]
      rcases hr : g.does (call (Channel.disable handle)) with ⟨e | ⟨⟩, g'⟩
      · rw [hr] at hd
        exact (hd.trans hR (within_noted hR g' _)).trans hR (hrest _)
      · rw [hr] at hd
        exact hd.trans hR (hrest g')

end frame

/-! ### The effect -/

theorem mem_disableAll {slots : List (Address × Slot)} {g : Gadget σ P} {p : Address × Handle}
    (h : p ∈ (teardown.disableAll slots g).1) : ∃ e ∈ slots, p = (e.1, e.2.handle) := by
  induction slots generalizing g with
  | nil => cases h
  | cons e rest ih =>
      obtain ⟨address, slot⟩ := e
      rw [disableAll_cons] at h
      rcases hr : (g.noted [.disabling address slot.handle]).does
        (call (Channel.disable slot.handle)) with ⟨e | ⟨⟩, g'⟩
      · rw [hr] at h
        rcases List.mem_cons.mp h with rfl | h
        · exact ⟨_, List.mem_cons_self, rfl⟩
        · obtain ⟨e, he, rfl⟩ := ih h
          exact ⟨e, List.mem_cons_of_mem _ he, rfl⟩
      · rw [hr] at h
        obtain ⟨e, he, rfl⟩ := ih h
        exact ⟨e, List.mem_cons_of_mem _ he, rfl⟩

section effect

variable {R : σ → σ → Prop} (hR : Calm R) {Off : Handle → σ → Prop}
  (off : ∀ ⦃handle : Handle⦄ ⦃s s' : σ⦄, Channel.disable handle s = (.ok (), s') → Off handle s')
  (keep : ∀ ⦃handle : Handle⦄ ⦃s s' : σ⦄, R s s' → Off handle s → Off handle s')
include hR off keep

omit [Channel σ] hR off in
theorem off_of_within {handle : Handle} {g g' : Gadget σ P} (h : Within R g g')
    (hoff : Off handle g.around.channel) : Off handle g'.around.channel := by
  obtain ⟨around, journal, rfl, h⟩ := h
  exact keep h hoff

omit hR keep in
theorem off_disable {handle : Handle} {g g' : Gadget σ P}
    (h : g.does (call (Channel.disable handle)) = (.ok (), g')) : Off handle g'.around.channel := by
  obtain ⟨hr, rfl⟩ := Prod.mk.inj h
  exact off (Prod.ext hr rfl)

/-- After the first attempt every endpoint is off, or is to be tried again. -/
theorem off_disableAll {slots : List (Address × Slot)}
    (h : ∀ e ∈ slots, ∀ s, R s (Channel.disable e.2.handle s).2) (g : Gadget σ P)
    {e : Address × Slot} (he : e ∈ slots) :
    (e.1, e.2.handle) ∈ (teardown.disableAll slots g).1 ∨
      Off e.2.handle (teardown.disableAll slots g).2.around.channel := by
  induction slots generalizing g with
  | nil => cases he
  | cons e' rest ih =>
      obtain ⟨address, slot⟩ := e'
      have hrest := fun e he => h e (List.mem_cons_of_mem _ he)
      rw [disableAll_cons]
      rcases hr : (g.noted [.disabling address slot.handle]).does
        (call (Channel.disable slot.handle)) with ⟨err | ⟨⟩, g'⟩
      · rcases List.mem_cons.mp he with rfl | he
        · exact .inl List.mem_cons_self
        · rcases ih hrest (g'.noted _) he with hbusy | hoff
          · exact .inl (List.mem_cons_of_mem _ hbusy)
          · exact .inr hoff
      · rcases List.mem_cons.mp he with rfl | he
        · -- what is off stays off while the rest is disabled
          have hoff := off_disable off hr
          exact .inr (off_of_within keep (within_disableAll hR hrest g') hoff)
        · exact ih hrest g' he

/-- If the second attempt leaves no failure, everything that was tried again is off. -/
theorem off_retryAll {busy : List (Address × Handle)}
    (h : ∀ e ∈ busy, ∀ s, R s (Channel.disable e.2 s).2) {g : Gadget σ P}
    (hnone : (teardown.retryAll busy g).1 = []) {p : Address × Handle} (hp : p ∈ busy) :
    Off p.2 (teardown.retryAll busy g).2.around.channel := by
  induction busy generalizing g with
  | nil => cases hp
  | cons p' rest ih =>
      obtain ⟨address, handle⟩ := p'
      have hrest := fun e he => h e (List.mem_cons_of_mem _ he)
      rw [retryAll_cons] at hnone ⊢
      rcases hr : g.does (call (Channel.disable handle)) with ⟨err | ⟨⟩, g'⟩
      · rw [hr] at hnone
        cases hnone
      · rw [hr] at hnone
        rcases List.mem_cons.mp hp with rfl | hp
        · have hoff := off_disable off hr
          exact off_of_within keep (within_retryAll hR hrest g') hoff
        · exact ih hrest hnone hp

end effect

/-! ### Stopping -/

/-- The gadget with configuration, wedges and roster forgotten. -/
def forgotten (g : Gadget σ P) : Gadget σ P :=
  { g with selected := none, wedged := .empty, roster := .empty }

theorem does_stop (g : Gadget σ P) :
    g.does stop = teardown.stopAll g.roster.entries g.forgotten := rfl

/-- A property of the cancelled slots of a roster is one of the slots. -/
theorem forall_cancelled {slots : List (Address × Slot)} {p : Handle → Prop}
    (h : ∀ e ∈ slots, p e.2.handle) :
    ∀ e ∈ cancelledSlots slots, p e.2.handle := by
  intro e he
  obtain ⟨e', he', rfl⟩ := List.mem_map.mp he
  exact h e' he'

theorem within_stopAll {R : σ → σ → Prop} (hR : Calm R) {slots : List (Address × Slot)}
    (h : ∀ e ∈ slots, ∀ s, R s (Channel.disable e.2.handle s).2) (g : Gadget σ P) :
    Within R g (teardown.stopAll slots g).2 := by
  have hslots := forall_cancelled (p := fun handle => ∀ s, R s (Channel.disable handle s).2) h
  rw [stopAll_eq]
  refine ((within_disableAll hR hslots _).trans hR (within_joinAll hR _ _)).trans hR
    (within_retryAll hR ?_ _)
  intro p hp
  obtain ⟨e, he, rfl⟩ := mem_disableAll hp
  exact hslots e he

/-- **Frame of stopping.** -/
theorem does_stop_within {R : σ → σ → Prop} (hR : Calm R) (g : Gadget σ P)
    (h : ∀ e ∈ g.roster.entries, ∀ s, R s (Channel.disable e.2.handle s).2) :
    Within R g.forgotten (g.does stop).2 := within_stopAll hR h g.forgotten

/-- Besides what is forgotten, stopping changes the surroundings and the journal only. -/
theorem does_stop_forgotten (g : Gadget σ P) :
    ∃ around journal, (g.does stop).2 = { g.forgotten with around, journal } := by
  obtain ⟨around, journal, h, -⟩ := does_stop_within Calm.any g fun _ _ _ => trivial
  exact ⟨around, journal, h⟩

theorem state_stop (g : Gadget σ P) : (g.does stop).2.state = g.state := by
  obtain ⟨around, journal, h⟩ := does_stop_forgotten g
  rw [h]
  rfl

/-- Only without a failure in the second attempt is there a success. -/
theorem nil_of_retried {failures : List DeviceError} {exits exits' : List (Address × Exit)}
    (h : (match failures with | [] => .ok exits | e :: _ => .error e) =
      (.ok exits' : Except DeviceError (List (Address × Exit)))) : failures = [] := by
  cases failures with
  | nil => rfl
  | cons e rest => cases h

/-- Without a failure in the second attempt there is a success. -/
theorem ok_of_retried {g : Gadget σ P}
    (h : (teardown.retryAll (teardown.disableAll (cancelledSlots g.roster.entries) g.forgotten).1
      (teardown.joinAll (cancelledSlots g.roster.entries)
        (teardown.disableAll (cancelledSlots g.roster.entries) g.forgotten).2).2).1 = []) :
    ∃ exits, (g.does stop).1 = .ok exits := by
  rw [does_stop, stopAll_eq]
  dsimp only
  rw [h]
  exact ⟨_, rfl⟩

/-- **Effect of stopping.** -/
theorem does_stop_off {R : σ → σ → Prop} (hR : Calm R) {Off : Handle → σ → Prop}
    (off : ∀ ⦃handle : Handle⦄ ⦃s s' : σ⦄, Channel.disable handle s = (.ok (), s') → Off handle s')
    (keep : ∀ ⦃handle : Handle⦄ ⦃s s' : σ⦄, R s s' → Off handle s → Off handle s')
    {g g' : Gadget σ P} {exits : List (Address × Exit)}
    (h : ∀ e ∈ g.roster.entries, ∀ s, R s (Channel.disable e.2.handle s).2)
    (hstop : g.does stop = (.ok exits, g')) :
    ∀ e ∈ g.roster.entries, Off e.2.handle g'.around.channel := by
  have hslots := forall_cancelled (p := fun handle => ∀ s, R s (Channel.disable handle s).2) h
  intro e he
  rw [does_stop, stopAll_eq] at hstop
  dsimp only at hstop
  obtain ⟨hresult, rfl⟩ := Prod.mk.inj hstop
  have hcancelled : (e.1, e.2.cancelled) ∈ cancelledSlots g.roster.entries := List.mem_map_of_mem he
  have hbusy : ∀ p ∈ (teardown.disableAll (cancelledSlots g.roster.entries) g.forgotten).1,
      ∀ s, R s (Channel.disable p.2 s).2 := by
    intro p hp
    obtain ⟨e', he', rfl⟩ := mem_disableAll hp
    exact hslots e' he'
  have hnone := nil_of_retried hresult
  rcases off_disableAll hR off keep hslots g.forgotten hcancelled with hp | hoff
  · exact off_retryAll hR off keep hbusy hnone hp
  · have hjoined := off_of_within keep (within_joinAll hR (cancelledSlots g.roster.entries) _) hoff
    exact off_of_within keep (within_retryAll hR hbusy _) hjoined

end Gadget

end UsbPeripheral
