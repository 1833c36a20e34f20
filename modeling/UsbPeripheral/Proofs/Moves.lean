import UsbPeripheral.Proofs.Events

/-! # Runs of a device

A run is a list of **moves**: calls into the device, which may fail, single steps of its workers, and
changes from outside that the device has no part in.  Moves come in any order, and a run goes on
after a call that failed. -/

namespace UsbPeripheral

/-- Something that happens to a device. -/
inductive Move (σ P : Type) where
  | start
  /-- The device handles an event. -/
  | event (event : BusEvent)
  /-- The device fetches and handles an event. -/
  | step
  | stop
  | halt (address : Address)
  | wedge (address : Address)
  | unhalt (address : Address)
  /-- The worker of an endpoint takes a step. -/
  | work (address : Address)
  /-- The channel changes, as by a host. -/
  | outside (f : σ → σ)
  | stock (f : Depot → Depot)
  | adjust (f : P → P)
  /-- From now on the system has threads for all endpoints but some. -/
  | threads (refusals : ByteMap String)

variable {σ P : Type} [Channel σ] [DeviceProfile P]

/-- What a move is for the device. -/
def Move.dispatch : Move σ P → Dispatch σ P Unit
  | .start => Gadget.start
  | .event e => Gadget.handleEvent e
  | .step => do let _ ← Gadget.step
  | .stop => do let _ ← Gadget.stop
  | .halt address => do let _ ← Gadget.halt address
  | .wedge address => do let _ ← Gadget.wedge address
  | .unhalt address => do let _ ← Gadget.unhalt address
  | .work address => modify (Gadget.runWorker 1 address)
  | .outside f => modify fun g => g.withChannel (f g.around.channel)
  | .stock f => modify fun g => { g with around := { g.around with depot := f g.around.depot } }
  | .adjust f => modify fun g => { g with profile := f g.profile }
  | .threads refusals => modify fun g => { g with refusals }

namespace Gadget

/-- The device after a move. -/
def next (g : Gadget σ P) (m : Move σ P) : Gadget σ P := (g.does m.dispatch).2

theorem next_start (g : Gadget σ P) : g.next .start = (g.does start).2 := rfl

theorem next_step (g : Gadget σ P) : g.next .step = (g.does step).2 := does_dropped g step

theorem next_stop (g : Gadget σ P) : g.next .stop = (g.does stop).2 := does_dropped g stop

theorem next_halt (g : Gadget σ P) (address : Address) :
    g.next (.halt address) = (g.does (halt address)).2 := does_dropped g (halt address)

theorem next_wedge (g : Gadget σ P) (address : Address) :
    g.next (.wedge address) = (g.does (wedge address)).2 := does_dropped g (wedge address)

theorem next_unhalt (g : Gadget σ P) (address : Address) :
    g.next (.unhalt address) = (g.does (unhalt address)).2 := does_dropped g (unhalt address)

theorem next_work (g : Gadget σ P) (address : Address) :
    g.next (.work address) = g.runWorker 1 address := rfl

/-- The device after some moves. -/
def after (g : Gadget σ P) (ms : List (Move σ P)) : Gadget σ P := ms.foldl next g

/-- No move of a run fails. -/
def Smooth (g : Gadget σ P) : List (Move σ P) → Prop
  | [] => True
  | m :: ms => (g.does m.dispatch).1 = .ok () ∧ Smooth (g.next m) ms

/-- Whether a call succeeded can be seen from its result. -/
instance decidableOk {ε : Type} : (result : Except ε Unit) → Decidable (result = .ok ())
  | .ok () => .isTrue rfl
  | .error _ => .isFalse nofun

/-- Whether a run fails can be found out by carrying it out. -/
instance decidableSmooth (g : Gadget σ P) : (ms : List (Move σ P)) → Decidable (g.Smooth ms)
  | [] => .isTrue trivial
  | m :: ms =>
    have := decidableSmooth (g.next m) ms
    inferInstanceAs (Decidable (_ ∧ _))

/-- A run without a failure is one such run after the other. -/
theorem smooth_append {g : Gadget σ P} {ms ns : List (Move σ P)} :
    g.Smooth (ms ++ ns) ↔ g.Smooth ms ∧ (g.after ms).Smooth ns := by
  induction ms generalizing g with
  | nil => exact ⟨fun h => ⟨trivial, h⟩, fun h => h.2⟩
  | cons m ms ih =>
      constructor
      · rintro ⟨hm, hrest⟩
        obtain ⟨hms, hns⟩ := ih.mp hrest
        exact ⟨⟨hm, hms⟩, hns⟩
      · rintro ⟨⟨hm, hms⟩, hns⟩
        exact ⟨hm, ih.mpr ⟨hms, hns⟩⟩

/-- What every successful move keeps is kept by every run without a failure. -/
theorem after_keeps {I : Gadget σ P → Prop} {good : Move σ P → Prop}
    (step : ∀ g m, I g → good m → (g.does m.dispatch).1 = .ok () → I (g.next m))
    {g : Gadget σ P} {ms : List (Move σ P)} (hg : I g) (hgood : ∀ m ∈ ms, good m)
    (hsmooth : g.Smooth ms) : I (g.after ms) := by
  induction ms generalizing g with
  | nil => exact hg
  | cons m ms ih =>
      have hnext := step g m hg (hgood m List.mem_cons_self) hsmooth.1
      exact ih hnext (fun n hn => hgood n (List.mem_cons_of_mem _ hn)) hsmooth.2

end Gadget

end UsbPeripheral
