import UsbPeripheral.Proofs.Moves

/-! # Devices that a host cannot tell apart

Two devices on channels of one type **resemble** each other if a host sees the same of both: the same
answers follow from what they have in common, and the operations on which an answer depends have the
same outcome at both (`Resemblance`).  They may differ in what a host does not see: in their journals,
in whether their bus is suspended, in the handles of their endpoints and in the workers behind them.

What devices that resemble each other make of an event are outcomes that are **paired** (`Paired`):
both succeed or both fail with the same error, and the devices resemble each other afterwards
(`Resemblance.handleEvent`).  Some errors may be declared **lost**: a comparison ends where one of the
devices fails with one. -/

namespace UsbPeripheral

/-- The states agree apart from suspension. -/
def DeviceState.Similar (s s' : DeviceState) : Prop := ∃ suspended, s' = { s with suspended }

namespace Gadget

variable {σ P α β γ δ : Type}

/-! ### Paired outcomes -/

/-- Both outcomes are the same failure, or successes with related results; and the devices are
related.  A comparison in which one of the failures is `lost` says nothing. -/
inductive Paired (lost : DeviceError → Prop) (R : Gadget σ P → Gadget σ P → Prop)
    (S : α → β → Prop) :
    Except DeviceError α × Gadget σ P → Except DeviceError β × Gadget σ P → Prop where
  | ok {a : α} {b : β} {g₁ g₂ : Gadget σ P} :
      S a b → R g₁ g₂ → Paired lost R S (.ok a, g₁) (.ok b, g₂)
  | error {e : DeviceError} {g₁ g₂ : Gadget σ P} :
      R g₁ g₂ → Paired lost R S (.error e, g₁) (.error e, g₂)
  | lostFirst {e : DeviceError} {g₁ : Gadget σ P} {r₂ : Except DeviceError β × Gadget σ P} :
      lost e → Paired lost R S (.error e, g₁) r₂
  | lostSecond {e : DeviceError} {r₁ : Except DeviceError α × Gadget σ P} {g₂ : Gadget σ P} :
      lost e → Paired lost R S r₁ (.error e, g₂)

/-- A dispatch agrees at related devices if its outcomes there are paired, with equal results. -/
def Agrees (lost : DeviceError → Prop) (R : Gadget σ P → Gadget σ P → Prop) (g₁ g₂ : Gadget σ P)
    (d : Dispatch σ P α) : Prop :=
  Paired lost R Eq (g₁.does d) (g₂.does d)

variable {lost : DeviceError → Prop} {R : Gadget σ P → Gadget σ P → Prop} {g₁ g₂ : Gadget σ P}

theorem Paired.bind {S : α → β → Prop} {T : γ → δ → Prop} {d₁ : Dispatch σ P α}
    {d₂ : Dispatch σ P β} {f₁ : α → Dispatch σ P γ} {f₂ : β → Dispatch σ P δ}
    (hd : Paired lost R S (g₁.does d₁) (g₂.does d₂))
    (hf : ∀ a b g₁ g₂, S a b → R g₁ g₂ → Paired lost R T (g₁.does (f₁ a)) (g₂.does (f₂ b))) :
    Paired lost R T (g₁.does (d₁ >>= f₁)) (g₂.does (d₂ >>= f₂)) := by
  rw [does_bind, does_bind]
  generalize g₁.does d₁ = r₁ at hd ⊢
  generalize g₂.does d₂ = r₂ at hd ⊢
  cases hd with
  | ok hS hR => exact hf _ _ _ _ hS hR
  | error hR => exact .error hR
  | lostFirst he => exact .lostFirst he
  | lostSecond he => exact .lostSecond he

theorem Agrees.bind {d : Dispatch σ P α} {f : α → Dispatch σ P β} (hd : Agrees lost R g₁ g₂ d)
    (hf : ∀ a g₁ g₂, R g₁ g₂ → Agrees lost R g₁ g₂ (f a)) : Agrees lost R g₁ g₂ (d >>= f) := by
  refine Paired.bind hd fun a b g₁ g₂ hab hR => ?_
  subst hab
  exact hf a g₁ g₂ hR

theorem agrees_pure (h : R g₁ g₂) (a : α) : Agrees lost R g₁ g₂ (pure a : Dispatch σ P α) := .ok rfl h

/-- What is read off the devices may differ, as long as the same follows from it. -/
theorem Agrees.get {f : Gadget σ P → Dispatch σ P α}
    (h : Paired lost R Eq (g₁.does (f g₁)) (g₂.does (f g₂))) : Agrees lost R g₁ g₂ (MonadState.get >>= f) := h

/-- Paired outcomes are the same success, or the same failure. -/
theorem Agrees.result {d : Dispatch σ P α} (h : Agrees lost R g₁ g₂ d) (hlost : ∀ e, ¬lost e) :
    (g₂.does d).1 = (g₁.does d).1 := by
  unfold Agrees at h
  generalize g₁.does d = r₁ at h ⊢
  generalize g₂.does d = r₂ at h ⊢
  cases h with
  | ok hab _ => rw [hab]
  | error _ => rfl
  | lostFirst he => exact absurd he (hlost _)
  | lostSecond he => exact absurd he (hlost _)

/-- Whatever the results are. -/
theorem Agrees.weaken {d : Dispatch σ P α} (h : Agrees lost R g₁ g₂ d) :
    Paired lost R (fun _ _ => True) (g₁.does d) (g₂.does d) := by
  unfold Agrees at h
  generalize g₁.does d = r₁ at h ⊢
  generalize g₂.does d = r₂ at h ⊢
  cases h with
  | ok _ hR => exact .ok trivial hR
  | error hR => exact .error hR
  | lostFirst he => exact .lostFirst he
  | lostSecond he => exact .lostSecond he

/-- Outcomes with the same result, at related devices, are paired. -/
theorem Paired.of_eq {r₁ r₂ : Except DeviceError α × Gadget σ P} (hresult : r₂.1 = r₁.1)
    (hafter : R r₁.2 r₂.2) : Paired lost R Eq r₁ r₂ := by
  obtain ⟨result, g₁⟩ := r₁
  obtain ⟨result', g₂⟩ := r₂
  have hresult : result = result' := hresult.symm
  subst hresult
  cases result with
  | error e => exact .error hafter
  | ok a => exact .ok rfl hafter

/-- Paired outcomes are also paired by another relation if each pair of outcomes has it. -/
theorem Paired.refined {S : α → β → Prop} {R' : Gadget σ P → Gadget σ P → Prop}
    {r₁ : Except DeviceError α × Gadget σ P} {r₂ : Except DeviceError β × Gadget σ P}
    (h : Paired lost R S r₁ r₂)
    (hok : ∀ a b, r₁.1 = .ok a → r₂.1 = .ok b → R r₁.2 r₂.2 → R' r₁.2 r₂.2)
    (herror : ∀ e, r₁.1 = .error e → r₂.1 = .error e → R r₁.2 r₂.2 → R' r₁.2 r₂.2) :
    Paired lost R' S r₁ r₂ := by
  cases h with
  | ok hS hR => exact .ok hS (hok _ _ rfl rfl hR)
  | error hR => exact .error (herror _ rfl rfl hR)
  | lostFirst he => exact .lostFirst he
  | lostSecond he => exact .lostSecond he

/-- Outcomes of which none is lost lead to related devices. -/
theorem Paired.related {S : α → β → Prop} {r₁ : Except DeviceError α × Gadget σ P}
    {r₂ : Except DeviceError β × Gadget σ P} (h : Paired lost R S r₁ r₂)
    (h₁ : ∀ e, lost e → r₁.1 ≠ .error e) (h₂ : ∀ e, lost e → r₂.1 ≠ .error e) : R r₁.2 r₂.2 := by
  cases h with
  | ok _ hR => exact hR
  | error hR => exact hR
  | lostFirst he => exact absurd rfl (h₁ _ he)
  | lostSecond he => exact absurd rfl (h₂ _ he)

/-! ### What makes devices resemble each other -/

/-- Related devices have in common what a host's view depends on, and the relation does not depend on
journals. -/
structure Likeness (R : Gadget σ P → Gadget σ P → Prop) : Prop where
  profile {g₁ g₂ : Gadget σ P} : R g₁ g₂ → g₂.profile = g₁.profile
  handlers {g₁ g₂ : Gadget σ P} : R g₁ g₂ → g₂.handlers = g₁.handlers
  selected {g₁ g₂ : Gadget σ P} : R g₁ g₂ → g₂.selected = g₁.selected
  wedged {g₁ g₂ : Gadget σ P} : R g₁ g₂ → g₂.wedged = g₁.wedged
  state {g₁ g₂ : Gadget σ P} : R g₁ g₂ → g₁.state.Similar g₂.state
  enrolled {g₁ g₂ : Gadget σ P} (address : Address) : R g₁ g₂ →
    g₂.roster.contains address = g₁.roster.contains address
  noted {g₁ g₂ : Gadget σ P} (journal₁ journal₂ : Journal) : R g₁ g₂ →
    R { g₁ with journal := journal₁ } { g₂ with journal := journal₂ }
  consulted {g₁ g₂ : Gadget σ P} (profile : P) : R g₁ g₂ →
    R { g₁ with profile } { g₂ with profile }
  updated {g₁ g₂ : Gadget σ P} {f : DeviceState → DeviceState}
    (hf : ∀ s s', s.Similar s' → (f s).Similar (f s')) : R g₁ g₂ →
    R { g₁ with state := f g₁.state } { g₂ with state := f g₂.state }

/-- The operations that a host can observe agree at related devices, whatever the handles of their
endpoints are. -/
structure Resemblance [Channel σ] [DeviceProfile P] (lost : DeviceError → Prop)
    (R : Gadget σ P → Gadget σ P → Prop) : Prop
    extends Likeness R where
  ep0Read {g₁ g₂ : Gadget σ P} (room : Nat) : R g₁ g₂ → Agrees lost R g₁ g₂ (call (Channel.ep0Read room))
  ep0Write {g₁ g₂ : Gadget σ P} (data : Bytes) : R g₁ g₂ →
    Agrees lost R g₁ g₂ (call (Channel.ep0Write data))
  ep0Stall {g₁ g₂ : Gadget σ P} : R g₁ g₂ → Agrees lost R g₁ g₂ (call Channel.ep0Stall)
  setHalt {g₁ g₂ : Gadget σ P} {address : Address} {handle₁ handle₂ : Handle} : R g₁ g₂ →
    g₁.roster.handle? address = some handle₁ → g₂.roster.handle? address = some handle₂ →
    Paired lost R Eq (g₁.does (call (Channel.setHalt handle₁)))
      (g₂.does (call (Channel.setHalt handle₂)))
  clearHalt {g₁ g₂ : Gadget σ P} {address : Address} {handle₁ handle₂ : Handle} : R g₁ g₂ →
    g₁.roster.handle? address = some handle₁ → g₂.roster.handle? address = some handle₂ →
    Paired lost R Eq (g₁.does (call (Channel.clearHalt handle₁)))
      (g₂.does (call (Channel.clearHalt handle₂)))
  checkEndpoints {g₁ g₂ : Gadget σ P} : R g₁ g₂ → Agrees lost R g₁ g₂ checkEndpoints
  stop {g₁ g₂ : Gadget σ P} : R g₁ g₂ → Paired lost R (fun _ _ => True) (g₁.does stop) (g₂.does stop)
  selectConfiguration {g₁ g₂ : Gadget σ P} (value : UInt8) (configuration : Configuration) :
    R g₁ g₂ → Agrees lost R g₁ g₂ (selectConfiguration value configuration)

namespace Likeness

variable (hR : Likeness R)
include hR

/-! ### Elements -/

theorem noteAll (h : R g₁ g₂) (notes : List Note) : Agrees lost R g₁ g₂ (noteAll notes) :=
  .ok rfl (hR.noted _ _ h)

theorem note (h : R g₁ g₂) (n : Note) : Agrees lost R g₁ g₂ (note n) := hR.noteAll h [n]

theorem consult (h : R g₁ g₂) (act : P → α × P) : Agrees lost R g₁ g₂ (consult act) := by
  have hprofile := hR.profile h
  unfold Agrees
  rw [does_consult, does_consult, hprofile]
  exact .ok rfl (hR.consulted _ h)

theorem update (h : R g₁ g₂) {f : DeviceState → DeviceState}
    (hf : ∀ s s', s.Similar s' → (f s).Similar (f s')) : Agrees lost R g₁ g₂ (update f) :=
  .ok rfl (hR.updated hf h)

theorem hasInterface (h : R g₁ g₂) (interface : UInt8) :
    g₂.hasInterface interface = g₁.hasInterface interface := by
  obtain ⟨suspended, hstate⟩ := hR.state h
  unfold Gadget.hasInterface
  rw [hR.selected h, hstate]
  rfl

/-- Both devices have an endpoint of an address, or none has. -/
theorem handle? (h : R g₁ g₂) (address : Address) :
    (g₁.roster.handle? address = none ∧ g₂.roster.handle? address = none) ∨
      ∃ handle₁ handle₂, g₁.roster.handle? address = some handle₁ ∧
        g₂.roster.handle? address = some handle₂ := by
  have henrolled := hR.enrolled address h
  rw [Roster.contains_eq_isSome, Roster.contains_eq_isSome] at henrolled
  cases hhandle₁ : g₁.roster.handle? address with
  | none =>
      rw [hhandle₁] at henrolled
      exact .inl ⟨rfl, by simpa using henrolled⟩
  | some handle₁ =>
      rw [hhandle₁] at henrolled
      obtain ⟨handle₂, hhandle₂⟩ := Option.isSome_iff_exists.mp henrolled
      exact .inr ⟨handle₁, handle₂, rfl, hhandle₂⟩

/-! ### Standard requests -/

theorem getConfiguration (h : R g₁ g₂) (setup : Setup) :
    Agrees lost R g₁ g₂ (getConfiguration setup) := by
  obtain ⟨suspended, hstate⟩ := hR.state h
  unfold Gadget.getConfiguration
  split
  · exact agrees_pure h _
  · refine Agrees.get ?_
    rw [hstate]
    exact agrees_pure h _

theorem getInterface (h : R g₁ g₂) (setup : Setup) : Agrees lost R g₁ g₂ (getInterface setup) := by
  obtain ⟨suspended, hstate⟩ := hR.state h
  unfold Gadget.getInterface
  refine Agrees.get ?_
  rw [hR.hasInterface h, hstate]
  split
  · exact agrees_pure h _
  · exact agrees_pure h _

variable [DeviceProfile P]

theorem getStatus (h : R g₁ g₂) (setup : Setup) : Agrees lost R g₁ g₂ (getStatus setup) := by
  have hword : g₂.statusWord setup = g₁.statusWord setup := by
    obtain ⟨suspended, hstate⟩ := hR.state h
    unfold statusWord
    rw [hR.profile h, hR.hasInterface h, hstate]
    dsimp only
    rw [hR.enrolled (Bytes.low setup.index) h]
    rfl
  unfold Gadget.getStatus
  split
  · exact agrees_pure h _
  · refine Agrees.get ?_
    rw [hword]
    cases g₁.statusWord setup with
    | none => exact agrees_pure h _
    | some word => exact agrees_pure h _

theorem getDescriptor (h : R g₁ g₂) (setup : Setup) : Agrees lost R g₁ g₂ (getDescriptor setup) := by
  unfold Gadget.getDescriptor
  split
  · exact agrees_pure h _
  · refine Agrees.bind (hR.note h _) fun _ g₁ g₂ h => Agrees.get ?_
    rw [hR.profile h]
    cases DeviceProfile.descriptor? g₁.profile setup.descriptorQuery with
    | none => exact Agrees.bind (hR.note h _) fun _ g₁ g₂ h => agrees_pure h _
    | some data => exact agrees_pure h _

theorem setInterface (h : R g₁ g₂) (setup : Setup) : Agrees lost R g₁ g₂ (setInterface setup) := by
  unfold Gadget.setInterface
  refine Agrees.get ?_
  rw [hR.hasInterface h]
  split
  · exact agrees_pure h _
  · refine Agrees.bind (hR.consult h _) fun found g₁ g₂ h => ?_
    cases found with
    | false => exact agrees_pure h _
    | true =>
        refine Agrees.bind (hR.update h ?_) fun _ g₁ g₂ h => agrees_pure h _
        rintro s _ ⟨suspended, rfl⟩
        exact ⟨suspended, rfl⟩

end Likeness

namespace Resemblance

variable [Channel σ] [DeviceProfile P] (hR : Resemblance lost R)
include hR

theorem hostHalt (h : R g₁ g₂) (address : Address) (set : Bool) :
    Agrees lost R g₁ g₂ (hostHalt address set) := by
  have hhalted : ∀ halted (s s' : DeviceState), s.Similar s' →
      (s.setHalted address halted).Similar (s'.setHalted address halted) := by
    rintro halted s _ ⟨suspended, rfl⟩
    exact ⟨suspended, rfl⟩
  unfold Gadget.hostHalt
  split
  · exact agrees_pure h _
  · refine Agrees.get ?_
    rw [hR.wedged h]
    rcases hR.handle? h address with ⟨hnone₁, hnone₂⟩ | ⟨handle₁, handle₂, hhandle₁, hhandle₂⟩
    · rw [hnone₁, hnone₂]
      exact agrees_pure h _
    · rw [hhandle₁, hhandle₂]
      dsimp only
      cases set with
      | true =>
          refine Paired.bind (hR.setHalt h hhandle₁ hhandle₂) fun _ _ g₁ g₂ _ h => ?_
          exact Agrees.bind (hR.update h (hhalted true)) fun _ g₁ g₂ h => agrees_pure h _
      | false =>
          rw [if_neg Bool.false_ne_true, if_neg Bool.false_ne_true]
          split
          · exact Agrees.bind (hR.note h _) fun _ g₁ g₂ h => agrees_pure h _
          · refine Paired.bind (hR.clearHalt h hhandle₁ hhandle₂) fun _ _ g₁ g₂ _ h => ?_
            exact Agrees.bind (hR.update h (hhalted false)) fun _ g₁ g₂ h => agrees_pure h _

theorem feature (h : R g₁ g₂) (setup : Setup) (set : Bool) :
    Agrees lost R g₁ g₂ (feature setup set) := by
  unfold Gadget.feature
  split
  · exact agrees_pure h _
  · split
    · refine Agrees.bind (hR.update h ?_) fun _ g₁ g₂ h => agrees_pure h _
      rintro s _ ⟨suspended, rfl⟩
      exact ⟨suspended, rfl⟩
    · split
      · exact hR.hostHalt h _ set
      · exact agrees_pure h _

theorem setConfiguration (h : R g₁ g₂) (setup : Setup) :
    Agrees lost R g₁ g₂ (setConfiguration setup) := by
  unfold Gadget.setConfiguration
  split
  · exact agrees_pure h _
  · dsimp only
    split
    · refine Paired.bind (hR.stop h) fun _ _ g₁ g₂ _ h => ?_
      refine Agrees.bind (hR.update h ?_) fun _ g₁ g₂ h => ?_
      · rintro s _ ⟨suspended, rfl⟩
        exact ⟨suspended, rfl⟩
      · exact Agrees.bind (hR.note h _) fun _ g₁ g₂ h => agrees_pure h _
    · refine Agrees.get ?_
      rw [hR.profile h]
      cases DeviceProfile.configuration? g₁.profile (Bytes.low setup.value) with
      | none => exact Agrees.bind (hR.note h _) fun _ g₁ g₂ h => agrees_pure h _
      | some configuration =>
          exact Agrees.bind (hR.selectConfiguration _ configuration h) fun _ g₁ g₂ h =>
            agrees_pure h _

theorem standard (h : R g₁ g₂) (setup : Setup) : Agrees lost R g₁ g₂ (standard setup) := by
  unfold Gadget.standard
  cases StandardRequest.ofCode? setup.request with
  | none => exact agrees_pure h _
  | some request =>
      cases request with
      | getStatus => exact hR.getStatus h setup
      | clearFeature => exact hR.feature h setup false
      | setFeature => exact hR.feature h setup true
      | getDescriptor => exact hR.getDescriptor h setup
      | getConfiguration => exact hR.getConfiguration h setup
      | setConfiguration => exact hR.setConfiguration h setup
      | getInterface => exact hR.getInterface h setup
      | setInterface => exact hR.setInterface h setup
      | setAddress => exact agrees_pure h _
      | setDescriptor => exact agrees_pure h _
      | synchFrame => exact agrees_pure h _

/-! ### Packets -/

theorem answer (h : R g₁ g₂) (setup : Setup) : Agrees lost R g₁ g₂ (answer setup) := by
  unfold Gadget.answer
  split
  · exact Agrees.bind (hR.note h _) fun _ g₁ g₂ h => hR.standard h setup
  · refine Agrees.get ?_
    rw [hR.handlers h]
    cases g₁.handlers.lookup setup.category setup.request with
    | none => exact Agrees.bind (hR.note h _) fun _ g₁ g₂ h => agrees_pure h _
    | some handler =>
        refine Agrees.bind (hR.note h _) fun _ g₁ g₂ h => ?_
        refine Agrees.bind (hR.consult h _) fun reply g₁ g₂ h => ?_
        exact Agrees.bind (hR.noteAll h _) fun _ g₁ g₂ h => agrees_pure h _

theorem refuse (h : R g₁ g₂) (setup : Setup) : Agrees lost R g₁ g₂ (refuse setup) :=
  Agrees.bind (hR.note h _) fun _ _ _ h => hR.ep0Stall h

/-- A reply that does not fit the direction of its packet is noted and refused. -/
theorem mismatched (h : R g₁ g₂) (setup : Setup) (n : Note) :
    Agrees lost R g₁ g₂ (do Gadget.note n; Gadget.refuse setup) :=
  Agrees.bind (hR.note h n) fun _ _ _ h => hR.refuse h setup

theorem complete (h : R g₁ g₂) (setup : Setup) (reply : Reply P) :
    Agrees lost R g₁ g₂ (complete setup reply) := by
  unfold Gadget.complete
  cases setup.direction with
  | toHost =>
      cases reply with
      | send data => exact Agrees.bind (hR.ep0Write _ h) fun _ _ _ h => hR.note h _
      | receive handler => exact hR.mismatched h setup _
      | ack => exact Agrees.bind (hR.ep0Write _ h) fun _ _ _ h => agrees_pure h ()
      | stall => exact hR.refuse h setup
  | toDevice =>
      cases reply with
      | send data => exact hR.mismatched h setup _
      | receive handler =>
          refine Agrees.bind (hR.ep0Read _ h) fun data g₁ g₂ h => ?_
          refine Agrees.bind (hR.note h _) fun _ g₁ g₂ h => ?_
          exact Agrees.bind (hR.consult h _) fun notes g₁ g₂ h => hR.noteAll h notes
      | ack =>
          refine Agrees.bind (hR.ep0Read _ h) fun data g₁ g₂ h => ?_
          split
          · exact hR.note h _
          · exact agrees_pure h ()
      | stall => exact hR.refuse h setup

theorem handleControl (h : R g₁ g₂) (setup : Setup) : Agrees lost R g₁ g₂ (handleControl setup) :=
  Agrees.bind (hR.answer h setup) fun reply _ _ h => hR.complete h setup reply

/-! ### Events -/

theorem restart (h : R g₁ g₂) (base : Lifecycle) : Agrees lost R g₁ g₂ (restart base) := by
  refine Paired.bind (hR.stop h) fun _ _ g₁ g₂ _ h => ?_
  refine Agrees.bind (hR.update h fun _ _ _ => ⟨false, rfl⟩) fun _ g₁ g₂ h => ?_
  have hprofile := hR.profile h
  refine .ok rfl ?_
  show R { g₁ with profile := DeviceProfile.onReset g₁.profile }
    { g₂ with profile := DeviceProfile.onReset g₂.profile }
  rw [hprofile]
  exact hR.consulted _ h

/-- **Devices that resemble each other handle every event alike.** -/
theorem handleEvent (h : R g₁ g₂) (event : BusEvent) : Agrees lost R g₁ g₂ (handleEvent event) := by
  refine Agrees.bind (hR.note h _) fun _ g₁ g₂ h => ?_
  cases event with
  | connect =>
      refine Paired.bind (hR.stop h) fun _ _ g₁ g₂ _ h => ?_
      refine Agrees.bind (hR.checkEndpoints h) fun _ g₁ g₂ h => ?_
      exact Agrees.bind (hR.update h fun _ _ _ => ⟨false, rfl⟩) fun _ g₁ g₂ h => hR.note h _
  | control setup => exact hR.handleControl h setup
  | suspend =>
      refine Agrees.bind (hR.update h ?_) fun _ g₁ g₂ h => hR.note h _
      rintro s _ ⟨suspended, rfl⟩
      exact ⟨true, rfl⟩
  | resume =>
      refine Agrees.bind (hR.update h ?_) fun _ g₁ g₂ h => hR.note h _
      rintro s _ ⟨suspended, rfl⟩
      exact ⟨false, rfl⟩
  | reset => exact Agrees.bind (hR.restart h .default) fun _ g₁ g₂ h => hR.note h _
  | disconnect => exact Agrees.bind (hR.restart h .unattached) fun _ g₁ g₂ h => hR.note h _
  | unknown tag length => exact hR.note h _
  | malformed tag length => exact hR.note h _

end Resemblance

end Gadget

end UsbPeripheral
