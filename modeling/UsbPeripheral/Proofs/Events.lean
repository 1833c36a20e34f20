import UsbPeripheral.Proofs.Requests

/-! # What an event can do to a device

`Handling` lists the ways in which an event can be handled, and `handling` says that there are no
others.  A connect, a reset and a disconnect take the roster down and **renew** the state; a packet is
answered and completed; every other event changes no more than whether the bus is suspended. -/

namespace UsbPeripheral

/-- The stage that an event renews a device to. -/
def BusEvent.renewal? : BusEvent → Option Lifecycle
  | .connect => some .default
  | .reset => some .default
  | .disconnect => some .unattached
  | _ => none

theorem BusEvent.renewal?_ne {event : BusEvent} {base : Lifecycle}
    (h : event.renewal? = some base) : base ≠ .configured := by
  cases event <;> cases h <;> exact nofun

namespace Gadget

variable {σ P : Type} [Channel σ]

/-- How an event can be handled. -/
inductive Handling [DeviceProfile P] (g : Gadget σ P) : BusEvent → Except DeviceError Unit × Gadget σ P → Prop
  /-- An event without a meaning is noted. -/
  | unknown (tag : UInt32) (length : Nat) (journal : Journal) :
      Handling g (.unknown tag length) (.ok (), { g with journal })
  /-- A packet that is too short is noted. -/
  | malformed (tag : UInt32) (length : Nat) (journal : Journal) :
      Handling g (.malformed tag length) (.ok (), { g with journal })
  | suspended (journal : Journal) :
      Handling g .suspend (.ok (), { g with state := { g.state with suspended := true }, journal })
  | resumed (journal : Journal) :
      Handling g .resume (.ok (), { g with state := { g.state with suspended := false }, journal })
  /-- The roster cannot be taken down. -/
  | stuck {event : BusEvent} {base : Lifecycle} {e : DeviceError} {g' : Gadget σ P} :
      event.renewal? = some base → g.does stop = (.error e, g') →
      Handling g event (.error e, g')
  /-- The endpoints of the controller are not known. -/
  | unchecked {exits : List (Address × Exit)} {e : DeviceError} {g₁ : Gadget σ P} {channel : σ} :
      g.does stop = (.ok exits, g₁) →
      Channel.endpoints g₁.around.channel = (.error e, channel) →
      Handling g .connect (.error e, g₁.withChannel channel)
  /-- The device starts over. -/
  | renewed {event : BusEvent} {base : Lifecycle} {exits : List (Address × Exit)}
      {g₁ : Gadget σ P} {channel : σ} (profile : P) (journal : Journal) :
      event.renewal? = some base → g.does stop = (.ok exits, g₁) →
      (channel = g₁.around.channel ∨ channel = (Channel.endpoints g₁.around.channel).2) →
      Handling g event
        (.ok (), { g₁.withChannel channel with state := .reset base, profile, journal })
  /-- A packet cannot be answered. -/
  | unanswered {setup : Setup} {e : DeviceError} {g' : Gadget σ P} :
      g.does (answer setup) = (.error e, g') → Handling g (.control setup) (.error e, g')
  /-- A packet is answered, and the answer is carried out. -/
  | answered {setup : Setup} {reply : Reply P} {g₁ : Gadget σ P} (profile : P)
      (journal : Journal) :
      g.does (answer setup) = (.ok reply, g₁) →
      Handling g (.control setup)
        (((stage setup reply).operate g₁.around.channel).1.map fun _ => (),
          { g₁.withChannel ((stage setup reply).operate g₁.around.channel).2 with
            profile, journal })

theorem handling_connect [DeviceProfile P] (g : Gadget σ P) :
    Handling { g with journal := g.journal.add [.event .connect] } .connect
      (g.does (handleEvent .connect)) := by
  unfold handleEvent
  rw [does_bind, does_note]
  dsimp only
  rw [does_bind]
  generalize hg : ({ g with journal := g.journal.add [.event .connect] } : Gadget σ P) = g₀
  rcases hstop : g₀.does stop with ⟨e | exits, g₁⟩
  · exact .stuck rfl hstop
  · dsimp only
    unfold checkEndpoints
    rw [does_bind, does_bind, does_call]
    rcases hcall : Channel.endpoints g₁.around.channel with ⟨e | udc, channel⟩
    · exact .unchecked hstop hcall
    · have hchannel : channel = (Channel.endpoints g₁.around.channel).2 := by rw [hcall]
      exact .renewed g₁.profile _ rfl hstop (.inr hchannel)

theorem handling_restart [DeviceProfile P] {g : Gadget σ P} {event : BusEvent} {base : Lifecycle} (n : Note)
    (h : event.renewal? = some base) :
    Handling g event (g.does (restart base >>= fun _ => note n)) := by
  unfold restart
  rw [does_bind, does_bind]
  rcases hstop : g.does stop with ⟨e | exits, g₁⟩
  · exact .stuck h hstop
  · exact .renewed (DeviceProfile.onReset g₁.profile) (g₁.journal.add [n]) h hstop (.inl rfl)

theorem handling_control [DeviceProfile P] (g : Gadget σ P) (setup : Setup) :
    Handling g (.control setup) (g.does (handleControl setup)) := by
  unfold handleControl
  rw [does_bind]
  rcases hanswer : g.does (answer setup) with ⟨e | reply, g₁⟩
  · exact .unanswered hanswer
  · obtain ⟨journal, hcomplete⟩ := does_complete g₁ setup reply
    dsimp only
    rw [hcomplete]
    exact .answered _ journal hanswer

/-- **How an event is handled.** -/
theorem handling [DeviceProfile P] (g : Gadget σ P) (event : BusEvent) :
    Handling { g with journal := g.journal.add [.event event] } event
      (g.does (handleEvent event)) := by
  cases event with
  | connect => exact handling_connect g
  | control setup => exact handling_control (g.noted [.event (.control setup)]) setup
  | suspend => exact .suspended _
  | resume => exact .resumed _
  | reset => exact handling_restart (g := g.noted [.event .reset]) .busReset rfl
  | disconnect => exact handling_restart (g := g.noted [.event .disconnect]) .disconnected rfl
  | unknown tag length => exact .unknown tag length _
  | malformed tag length => exact .malformed tag length _

/-! ### Fetching an event -/

/-- An event that can be fetched is handled. -/
theorem does_step [DeviceProfile P] (g : Gadget σ P) :
    g.does step = match Channel.fetchEvent g.around.channel with
      | (.ok record, channel) =>
        (((g.withChannel channel).does (handleEvent record.decode)).1.map fun _ => record.decode,
          ((g.withChannel channel).does (handleEvent record.decode)).2)
      | (.error e, channel) => (.error e, g.withChannel channel) := by
  unfold step
  rw [does_bind, does_call]
  rcases Channel.fetchEvent g.around.channel with ⟨e | record, channel⟩
  · rfl
  · dsimp only
    rw [does_bind]
    rcases (g.withChannel channel).does (handleEvent record.decode) with ⟨e | ⟨⟩, g'⟩ <;> rfl

/-! ### Starting -/

/-- A start that succeeds resets the state, and one that fails leaves it alone. -/
theorem does_start (g : Gadget σ P) :
    ∃ channel journal, g.does start = (.ok (), { g.withChannel channel with
        state := .reset .powered, journal }) ∨
      ∃ e, g.does start = (.error e, { g.withChannel channel with journal }) := by
  unfold start
  rw [does_get_bind]
  dsimp only
  rw [does_bind, does_note]
  dsimp only
  rw [does_bind, does_call]
  dsimp only [withChannel]
  rcases Channel.bind _ _ _ g.around.channel with ⟨e | ⟨⟩, channel₁⟩
  · exact ⟨_, _, .inr ⟨e, rfl⟩⟩
  · dsimp only
    rw [does_bind, does_call]
    dsimp only [withChannel]
    rcases Channel.run channel₁ with ⟨e | ⟨⟩, channel₂⟩
    · exact ⟨_, _, .inr ⟨e, rfl⟩⟩
    · exact ⟨_, _, .inl rfl⟩

/-! ### Halts on behalf of the device class -/

/-- How an endpoint can be halted, wedged or freed by the device class: by an operation that, if it
succeeds, changes whether the endpoint is halted and which endpoints are wedged. -/
inductive Halting (g : Gadget σ P) (address : Address)
    (operation : Handle → σ → Except DeviceError Unit × σ) (halted : Bool) (wedged : ByteSet) :
    Except DeviceError Bool × Gadget σ P → Prop
  /-- The endpoint is not in the roster. -/
  | absent : g.roster.handle? address = none → Halting g address operation halted wedged (.ok false, g)
  | done {handle : Handle} {channel : σ} :
      g.roster.handle? address = some handle →
      operation handle g.around.channel = (.ok (), channel) →
      Halting g address operation halted wedged
        (.ok true, { g.withChannel channel with state := g.state.setHalted address halted, wedged })
  | failed {handle : Handle} {e : DeviceError} {channel : σ} :
      operation handle g.around.channel = (.error e, channel) →
      Halting g address operation halted wedged (.error e, g.withChannel channel)

omit [Channel σ] in
/-- One operation on an endpoint of the roster, and what is written down after it. -/
theorem halting_call {address : Address} {operation : Handle → σ → Except DeviceError Unit × σ}
    {halted : Bool} {wedged : ByteSet} {rest : Dispatch σ P Bool} (g : Gadget σ P)
    (hrest : ∀ channel, (g.withChannel channel).does rest = (.ok true,
      { g.withChannel channel with state := g.state.setHalted address halted, wedged })) :
    Halting g address operation halted wedged (g.does (do
      match (← get).roster.handle? address with
      | some handle =>
        call (operation handle)
        rest
      | none => return false)) := by
  rw [does_get_bind]
  cases hhandle : g.roster.handle? address with
  | none => exact .absent hhandle
  | some handle =>
      dsimp only
      rw [does_bind, does_call]
      rcases hcall : operation handle g.around.channel with ⟨e | ⟨⟩, channel⟩
      · exact .failed hcall
      · dsimp only
        rw [hrest]
        exact .done hhandle hcall

theorem halting_halt (g : Gadget σ P) (address : Address) :
    Halting g address Channel.setHalt true g.wedged (g.does (halt address)) :=
  halting_call g fun _ => rfl

theorem halting_wedge (g : Gadget σ P) (address : Address) :
    Halting g address Channel.setWedge true (g.wedged.add address) (g.does (wedge address)) :=
  halting_call g fun _ => rfl

theorem halting_unhalt (g : Gadget σ P) (address : Address) :
    Halting g address Channel.clearHalt false (g.wedged.erase address)
      (g.does (unhalt address)) :=
  halting_call g fun _ => rfl

end Gadget

end UsbPeripheral
