import UsbPeripheral.Proofs.Pipes

/-! # What transfers leave alone

Transfers happen in the pipes of a bus and nowhere else.  A change of the pipes is a change **aside**
of the events, the data stage and the operations performed, and everything that workers do is such a
change (`calm_aside`).  A host also queues events, but performs no operation (`HostAct.performed`). -/

namespace UsbPeripheral

namespace Bus

/-- Only the pipes are changed. -/
def Aside (b b' : Bus) : Prop := ∃ pipes, b' = { b with pipes }

theorem Aside.refl (b : Bus) : b.Aside b := ⟨b.pipes, rfl⟩

theorem Aside.trans {b₁ b₂ b₃ : Bus} (h₁ : b₁.Aside b₂) (h₂ : b₂.Aside b₃) : b₁.Aside b₃ := by
  obtain ⟨pipes₁, rfl⟩ := h₁
  obtain ⟨pipes₂, rfl⟩ := h₂
  exact ⟨pipes₂, rfl⟩

theorem Aside.performed {b b' : Bus} (h : b.Aside b') : b'.performed = b.performed := by
  obtain ⟨pipes, rfl⟩ := h
  rfl

theorem Aside.events {b b' : Bus} (h : b.Aside b') : b'.events = b.events := by
  obtain ⟨pipes, rfl⟩ := h
  rfl

theorem Aside.dataStage {b b' : Bus} (h : b.Aside b') : b'.dataStage = b.dataStage := by
  obtain ⟨pipes, rfl⟩ := h
  rfl

theorem Aside.owedFailures {b b' : Bus} (h : b.Aside b') : b'.owedFailures = b.owedFailures := by
  obtain ⟨pipes, rfl⟩ := h
  rfl

theorem aside_modifyPipe (b : Bus) (handle : Handle) (f : Pipe → Pipe) :
    b.Aside (b.modifyPipe handle f) := by
  unfold modifyPipe
  split
  · exact .refl b
  · exact ⟨_, rfl⟩

/-- Workers change nothing but the pipes. -/
theorem calm_aside : Calm Aside :=
  calm_of_transfer .refl .trans fun b handle f _ => b.aside_modifyPipe handle f

end Bus

/-- A host performs no operation of the device. -/
theorem HostAct.performed (a : HostAct) (b : Bus) : (a.apply b).performed = b.performed := by
  have hmakes := a.makes b
  generalize a.apply b = b' at hmakes ⊢
  cases hmakes with
  | changed _ _ _ => exact (b.aside_modifyPipe _ _).performed
  | refusing => exact (b.aside_modifyPipe _ _).performed
  | beside owedFailures udc => rfl

/-- A host queues events behind those that are there, and leaves the data stage alone. -/
theorem HostAct.events (a : HostAct) (b : Bus) :
    (a.apply b).events = b.events ++ a.queued ∧ (a.apply b).dataStage = b.dataStage := by
  have haside : ∀ {b' : Bus}, b.Aside b' → b'.events = b.events ++ [] ∧ b'.dataStage = b.dataStage :=
    fun h => ⟨h.events.trans (List.append_nil _).symm, h.dataStage⟩
  have hmakes := a.makes b
  generalize a.apply b = b' at hmakes ⊢
  cases hmakes with
  | changed hqueued _ _ =>
      rw [hqueued]
      exact haside (b.aside_modifyPipe _ _)
  | refusing => exact haside (b.aside_modifyPipe _ _)
  | beside owedFailures udc => exact ⟨rfl, rfl⟩

end UsbPeripheral
