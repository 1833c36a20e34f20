import UsbPeripheral.Gadget.Events

/-! # What a dispatch does to a gadget

`g.does d` is the outcome of the dispatch `d` at the gadget `g`: its result, and the gadget after it.
The elements of a dispatch are computed (`does_note`, `does_call`, `does_update`, …), and a sequence
is taken apart by its outcome: a success has passed through a gadget in between
(`does_bind_eq_ok`), and a failure is that of its first or of its second part
(`does_bind_eq_error`). -/

namespace UsbPeripheral.Gadget

variable {σ P α β : Type}

/-- The outcome of a dispatch. -/
def does (g : Gadget σ P) (d : Dispatch σ P α) : Except DeviceError α × Gadget σ P := d.run g

/-- The gadget with its channel changed. -/
def withChannel (g : Gadget σ P) (channel : σ) : Gadget σ P :=
  { g with around := { g.around with channel } }

/-! ### Sequences -/

theorem does_bind (g : Gadget σ P) (d : Dispatch σ P α) (f : α → Dispatch σ P β) :
    g.does (d >>= f) =
      match g.does d with
      | (.ok a, g') => g'.does (f a)
      | (.error e, g') => (.error e, g') := by
  show (ExceptT.bind d f) g = _
  simp only [ExceptT.bind, ExceptT.mk, bind, StateT.bind, ExceptT.bindCont, does, ExceptT.run]
  rcases d g with ⟨a | e, g'⟩ <;> rfl

theorem does_bind_eq_ok {g g' : Gadget σ P} {d : Dispatch σ P α} {f : α → Dispatch σ P β} {b : β} :
    g.does (d >>= f) = (.ok b, g') ↔
      ∃ a g₁, g.does d = (.ok a, g₁) ∧ g₁.does (f a) = (.ok b, g') := by
  rw [does_bind]
  constructor
  · intro h
    rcases hr : g.does d with ⟨e | a, g₁⟩
    · rw [hr] at h
      cases h
    · rw [hr] at h
      exact ⟨a, g₁, rfl, h⟩
  · rintro ⟨a, g₁, hr, h⟩
    rw [hr]
    exact h

theorem does_bind_eq_error {g g' : Gadget σ P} {d : Dispatch σ P α} {f : α → Dispatch σ P β}
    {e : DeviceError} :
    g.does (d >>= f) = (.error e, g') ↔
      g.does d = (.error e, g') ∨
        ∃ a g₁, g.does d = (.ok a, g₁) ∧ g₁.does (f a) = (.error e, g') := by
  rw [does_bind]
  constructor
  · intro h
    rcases hr : g.does d with ⟨e' | a, g₁⟩
    · rw [hr] at h
      cases h
      exact .inl rfl
    · rw [hr] at h
      exact .inr ⟨a, g₁, rfl, h⟩
  · rintro (hr | ⟨a, g₁, hr, h⟩)
    · rw [hr]
    · rw [hr]
      exact h

theorem does_get_bind (g : Gadget σ P) (f : Gadget σ P → Dispatch σ P β) :
    g.does (get >>= f) = g.does (f g) := rfl

/-! ### Elements -/

theorem does_note (g : Gadget σ P) (n : Note) :
    g.does (note n) = (.ok (), { g with journal := g.journal.add [n] }) := rfl

theorem does_call (g : Gadget σ P) (operation : σ → Except DeviceError α × σ) :
    g.does (call operation) =
      ((operation g.around.channel).1, g.withChannel (operation g.around.channel).2) := rfl

theorem does_consult (g : Gadget σ P) (act : P → α × P) :
    g.does (consult act) = (.ok (act g.profile).1, { g with profile := (act g.profile).2 }) := rfl

theorem does_update (g : Gadget σ P) (f : DeviceState → DeviceState) :
    g.does (update f) = (.ok (), { g with state := f g.state }) := rfl

/-! ### Results that are dropped -/

theorem does_bind_pure (g : Gadget σ P) (d : Dispatch σ P α) (b : β) :
    g.does (do let _ ← d; pure b) = ((g.does d).1.map fun _ => b, (g.does d).2) := by
  rw [does_bind]
  rcases g.does d with ⟨e | a, g'⟩ <;> rfl

theorem does_dropped (g : Gadget σ P) (d : Dispatch σ P α) :
    (g.does (do let _ ← d)).2 = (g.does d).2 := congrArg Prod.snd (does_bind_pure g d ())

theorem ok_of_dropped {g g' : Gadget σ P} {d : Dispatch σ P α}
    (h : g.does (do let _ ← d) = (.ok (), g')) : ∃ a, g.does d = (.ok a, g') := by
  obtain ⟨a, g₁, hd, h⟩ := does_bind_eq_ok.mp h
  cases h
  exact ⟨a, hd⟩

/-! ### Relations that a dispatch keeps -/

/-- A dispatch keeps a relation if it always leads to a related gadget. -/
def Keeps (R : Gadget σ P → Gadget σ P → Prop) (d : Dispatch σ P α) : Prop :=
  ∀ g, R g (g.does d).2

theorem Keeps.bind {R : Gadget σ P → Gadget σ P → Prop}
    (trans : ∀ g₁ g₂ g₃, R g₁ g₂ → R g₂ g₃ → R g₁ g₃) {d : Dispatch σ P α}
    {f : α → Dispatch σ P β} (hd : Keeps R d) (hf : ∀ a, Keeps R (f a)) : Keeps R (d >>= f) := by
  intro g
  have h := hd g
  rw [does_bind]
  rcases hr : g.does d with ⟨e | a, g₁⟩
  · rw [hr] at h
    exact h
  · rw [hr] at h
    exact trans _ _ _ h (hf a g₁)

/-- The gadgets' channels are related. -/
def Related (R : σ → σ → Prop) (g g' : Gadget σ P) : Prop := R g.around.channel g'.around.channel

/-- An operation keeps what it keeps on the channel. -/
theorem keeps_call {R : σ → σ → Prop} {operation : σ → Except DeviceError α × σ}
    (h : ∀ s, R s (operation s).2) : Keeps (P := P) (Related R) (call operation) :=
  fun g => h g.around.channel

end UsbPeripheral.Gadget
