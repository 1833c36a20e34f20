import UsbPeripheral.Proofs.Consistency
import UsbPeripheral.Proofs.Moves
import UsbPeripheral.Proofs.Transfers

/-! # Halts in the log of a bus

Every halt and every end of a halt that a device asks for is an operation on a handle, and the bus
records it.  What the log says of a handle is said by the last of them (`lastHalt?`).

In one move a device does one of three things about halts (`HaltStep`, `haltStep_next`).  It leaves all
of them alone, it starts over with a roster of fresh handles, or it **turns** the halt of one endpoint
in its roster on or off and the bus records that. -/

namespace UsbPeripheral

/-- The halt that an operation begins or ends. -/
def Performed.halt? : Performed → Option (Handle × Bool)
  | .setHalt handle => some (handle, true)
  | .setWedge handle => some (handle, true)
  | .clearHalt handle => some (handle, false)
  | _ => none

namespace Bus

/-- The halts that began and ended, oldest first. -/
def halts (b : Bus) : List (Handle × Bool) := b.performed.filterMap Performed.halt?

/-- Whether the last operation on the halt of a handle began or ended it. -/
def lastHalt? (b : Bus) (handle : Handle) : Option Bool := b.halts.reverse.lookup handle

/-- The address that a handle was given out for. -/
def addressOf? (b : Bus) (handle : Handle) : Option Address := (b.pipe? handle).map (·.address)

/-- More pipes may be there, and one more entry is in the log of halts, or none. -/
structure Logs (entry : Option (Handle × Bool)) (b b' : Bus) : Prop where
  places : b.pipes.map (·.address) <+: b'.pipes.map (·.address)
  halts : b'.halts = b.halts ++ entry.toList

variable {b b' b₁ b₂ b₃ : Bus} {entry : Option (Handle × Bool)} {handle : Handle}

theorem Logs.refl (b : Bus) : Logs none b b := ⟨List.prefix_rfl, (List.append_nil _).symm⟩

theorem Logs.after (h₁ : Logs none b₁ b₂) (h₂ : Logs entry b₂ b₃) : Logs entry b₁ b₃ where
  places := h₁.places.trans h₂.places
  halts := by rw [h₂.halts, h₁.halts, Option.toList_none, List.append_nil]

theorem Logs.trans (h₁ : Logs entry b₁ b₂) (h₂ : Logs none b₂ b₃) : Logs entry b₁ b₃ where
  places := h₁.places.trans h₂.places
  halts := by rw [h₂.halts, h₁.halts, Option.toList_none, List.append_nil]

/-- What performs nothing and keeps the pipes in their places logs nothing. -/
theorem logs_of_places (hplaces : b'.pipes.map (·.address) = b.pipes.map (·.address))
    (hperformed : b'.performed = b.performed) : Logs none b b' where
  places := hplaces.symm ▸ List.prefix_rfl
  halts := by
    unfold halts
    rw [hperformed, Option.toList_none, List.append_nil]

/-- What is performed is logged. -/
theorem logs_of_performed {p : Performed}
    (hplaces : b.pipes.map (·.address) <+: b'.pipes.map (·.address))
    (hperformed : b'.performed = b.performed ++ [p]) : Logs p.halt? b b' where
  places := hplaces
  halts := by
    unfold halts
    rw [hperformed, List.filterMap_append, List.filterMap_cons, List.filterMap_nil]
    cases p.halt? <;> rfl

theorem logs_record (b : Bus) (p : Performed) : Logs p.halt? b (b.record p) :=
  logs_of_performed List.prefix_rfl rfl

/-! ### Handles -/

theorem addressOf?_eq (b : Bus) (handle : Handle) : b.addressOf? handle =
    if handle = 0 then none else (b.pipes.map (·.address))[handle.toNat - 1]? := by
  unfold addressOf? pipe?
  split
  · rfl
  · exact (List.getElem?_map ..).symm

/-- A handle keeps its address. -/
theorem Logs.addressOf? (h : Logs entry b b') {address : Address}
    (haddress : b.addressOf? handle = some address) : b'.addressOf? handle = some address := by
  obtain ⟨more, hmore⟩ := h.places
  rw [addressOf?_eq] at haddress ⊢
  split
  · rename_i hzero
    rw [if_pos hzero] at haddress
    cases haddress
  · rename_i hzero
    rw [if_neg hzero] at haddress
    obtain ⟨hlt, -⟩ := List.getElem?_eq_some_iff.mp haddress
    rw [← hmore, List.getElem?_append_left hlt]
    exact haddress

/-- A handle without an address had none before. -/
theorem Logs.addressOf?_none (h : Logs entry b b') (hnone : b'.addressOf? handle = none) :
    b.addressOf? handle = none := by
  cases haddress : b.addressOf? handle with
  | none => rfl
  | some address =>
      rw [h.addressOf? haddress] at hnone
      cases hnone

/-- A handle is given out for an address between two states of a bus. -/
def Fresh (b b' : Bus) (handle : Handle) (address : Address) : Prop :=
  b.addressOf? handle = none ∧ b'.addressOf? handle = some address

theorem Fresh.mono {address : Address} (h : Fresh b₁ b₂ handle address) (hbefore : Logs none b b₁)
    (hafter : Logs none b₂ b₃) : Fresh b b₃ handle address :=
  ⟨hbefore.addressOf?_none h.1, hafter.addressOf? h.2⟩

/-- What enabling an endpoint does to the log and to the handles. -/
theorem enable_logs (b : Bus) (endpoint : Endpoint) :
    Logs none b (b.enable endpoint).2 ∧ ∀ handle, (b.enable endpoint).1 = .ok handle →
      Fresh b (b.enable endpoint).2 handle endpoint.address := by
  unfold enable
  dsimp only
  split
  · exact ⟨.refl b, nofun⟩
  · split
    · exact ⟨.refl b, nofun⟩
    · rename_i hbound
      have hlt := Nat.lt_of_not_le hbound
      refine ⟨logs_of_performed (p := .enable endpoint.address) ?_ rfl, ?_⟩
      · exact ⟨_, (List.map_append ..).symm⟩
      · rintro handle ⟨⟩
        constructor
        · unfold addressOf?
          rw [Option.map_eq_none_iff]
          refine Option.eq_none_iff_forall_ne_some.mpr fun p hp => ?_
          have hle := (pipe?_lt hp).2
          rw [toNat_handle hlt] at hle
          omega
        · unfold addressOf?
          rw [pipe?_concat (p := { address := endpoint.address, failWrites := _ }) rfl hlt,
            if_pos rfl]
          rfl

/-! ### Operations that log nothing -/

/-- What quenches nothing and changes nothing but the pipes logs nothing. -/
theorem logs_of_aside (hquenches : Quenches (fun _ => False) b b') (haside : b.Aside b') :
    Logs none b b' :=
  logs_of_places hquenches.places haside.performed

theorem calm_logs : Calm (Logs none) :=
  calm_of_transfer .refl .trans fun b handle f hf =>
    logs_of_aside (quenches_transferred b handle hf) (b.aside_modifyPipe handle f)

theorem logs_disable (handle : Handle) (b : Bus) : Logs none b (b.disable handle).2 := by
  have hquenches : Quenches (fun _ => True) b (b.disable handle).2 := quenches_disable b trivial
  have hplaces := hquenches.places
  unfold disable at hplaces ⊢
  split
  · exact .refl b
  · rename_i hnone
    rw [hnone] at hplaces
    refine logs_of_performed (p := .disable handle) (hplaces.symm ▸ List.prefix_rfl) ?_
    show (b.modifyPipe handle _).performed ++ [_] = _
    rw [(aside_modifyPipe b handle _).performed]

theorem logs_fetchEvent (b : Bus) : Logs none b b.fetchEvent.2 := by
  unfold fetchEvent
  split
  · exact logs_of_places rfl rfl
  · exact .refl b

theorem logs_operate (s : Gadget.Stage) (b : Bus) : Logs none b (s.operate b).2 := by
  cases s with
  | write data => exact logs_record b (.ep0Write data)
  | read room =>
      show Logs none b (b.ep0Read room).2
      unfold ep0Read
      split
      · split
        · exact logs_record b (.ep0Read 0)
        · exact logs_of_performed (p := .ep0Read _) List.prefix_rfl rfl
      · exact logs_record b (.ep0Read 0)
  | stall => exact logs_record b .ep0Stall

end Bus

theorem HostAct.logs (a : HostAct) (b : Bus) : Bus.Logs none b (a.apply b) := by
  have hquenches : Bus.Quenches (fun _ => False) b (a.apply b) := a.quenches b
  exact Bus.logs_of_places hquenches.places (a.performed b)

namespace Gadget

variable {P : Type}

/-! ### What a move does to halts -/

/-- Whether the device has an endpoint halted is as before, and nothing is logged. -/
structure Quiet (g g' : Gadget Bus P) : Prop where
  roster (address : Address) : g'.roster.handle? address = g.roster.handle? address
  halted (address : Address) : g'.state.isHalted address = g.state.isHalted address
  wedged (address : Address) : g'.wedged.contains address = g.wedged.contains address
  logs : Bus.Logs none g.bus g'.bus

/-- No endpoint is wedged, and the roster has fresh handles only, none of them halted. -/
structure Refills (g g' : Gadget Bus P) : Prop where
  wedged (address : Address) : g'.wedged.contains address = false
  roster {address : Address} {handle : Handle} : g'.roster.handle? address = some handle →
    g'.state.isHalted address = false ∧ Bus.Fresh g.bus g'.bus handle address
  logs : Bus.Logs none g.bus g'.bus

/-- The halt of an endpoint in the roster is turned on or off, and that is logged.  Only the halt of
the endpoint `freed` may be turned off while it is wedged. -/
structure Turns (freed : Option Address) (address : Address) (handle : Handle) (on : Bool)
    (g g' : Gadget Bus P) : Prop where
  entered : g.roster.handle? address = some handle
  roster (a : Address) : g'.roster.handle? a = g.roster.handle? a
  halted (a : Address) : g'.state.isHalted a = if a = address then on else g.state.isHalted a
  stays {a : Address} : g.wedged.contains a = true → freed ≠ some a → g'.wedged.contains a = true
  free : on = false → g.wedged.contains address = true → freed = some address
  logs : Bus.Logs (some (handle, on)) g.bus g'.bus

/-- What a move does to halts. -/
inductive HaltStep (freed : Option Address) (g g' : Gadget Bus P) : Prop
  | quiet (h : Quiet g g')
  | refilled (h : Refills g g')
  | turned {address : Address} {handle : Handle} {on : Bool} (h : Turns freed address handle on g g')

variable {freed : Option Address} {g g' g₁ g₂ g₃ : Gadget Bus P}

/-- What changes neither roster nor halts nor wedges is quiet if nothing is logged. -/
theorem quiet_of_same (hroster : g'.roster = g.roster) (hstate : g'.state.halted = g.state.halted)
    (hwedged : g'.wedged = g.wedged) (hlogs : Bus.Logs none g.bus g'.bus) : Quiet g g' where
  roster _ := by rw [hroster]
  halted _ := by
    unfold DeviceState.isHalted
    rw [hstate]
  wedged _ := by rw [hwedged]
  logs := hlogs

/-- What happens before a quiet change, or after it, is what happens in both together. -/
theorem HaltStep.then_quiet (h₁ : HaltStep freed g₁ g₂) (h₂ : Quiet g₂ g₃) :
    HaltStep freed g₁ g₃ := by
  cases h₁ with
  | quiet h =>
      refine .quiet ⟨fun a => ?_, fun a => ?_, fun a => ?_, h.logs.trans h₂.logs⟩
      · rw [h₂.roster, h.roster]
      · rw [h₂.halted, h.halted]
      · rw [h₂.wedged, h.wedged]
  | refilled h =>
      refine .refilled ⟨fun a => ?_, fun {a handle} hh => ?_, h.logs.trans h₂.logs⟩
      · rw [h₂.wedged, h.wedged]
      · rw [h₂.roster] at hh
        obtain ⟨hhalted, hfresh⟩ := h.roster hh
        rw [h₂.halted]
        exact ⟨hhalted, hfresh.mono (.refl _) h₂.logs⟩
  | @turned address handle on h =>
      have hturns : Turns freed address handle on g₁ g₃ := by
        refine ⟨h.entered, fun a => ?_, fun a => ?_, fun {a} ha hfreed => ?_, h.free,
          h.logs.trans h₂.logs⟩
        · rw [h₂.roster, h.roster]
        · rw [h₂.halted, h.halted]
        · rw [h₂.wedged]
          exact h.stays ha hfreed
      exact .turned hturns

theorem Quiet.then_step (h₁ : Quiet g₁ g₂) (h₂ : HaltStep freed g₂ g₃) : HaltStep freed g₁ g₃ := by
  cases h₂ with
  | quiet h => exact HaltStep.then_quiet (.quiet h₁) h
  | refilled h =>
      refine .refilled ⟨h.wedged, fun {a handle} hh => ?_, h₁.logs.after h.logs⟩
      obtain ⟨hhalted, hfresh⟩ := h.roster hh
      exact ⟨hhalted, hfresh.mono h₁.logs (.refl _)⟩
  | @turned address handle on h =>
      have hturns : Turns freed address handle on g₁ g₃ := by
        refine ⟨?_, fun a => ?_, fun a => ?_, fun {a} ha hfreed => ?_, fun hon ha => ?_,
          h₁.logs.after h.logs⟩
        · rw [← h₁.roster]
          exact h.entered
        · rw [h.roster, h₁.roster]
        · rw [h.halted, h₁.halted]
        · rw [← h₁.wedged] at ha
          exact h.stays ha hfreed
        · rw [← h₁.wedged] at ha
          exact h.free hon ha
      exact .turned hturns

/-! ### Taking the roster down and filling it -/

/-- Without a roster there is nothing to be halted. -/
theorem refills_of_empty (hroster : g'.roster = .empty) (hwedged : g'.wedged = .empty)
    (hlogs : Bus.Logs none g.bus g'.bus) : Refills g g' where
  wedged _ := by
    rw [hwedged]
    rfl
  roster h := by
    rw [hroster] at h
    cases h
  logs := hlogs

/-- Taking the roster down logs nothing. -/
theorem stop_logs (g : Gadget Bus P) :
    ∃ around journal, (g.does stop).2 = { g.forgotten with around, journal } ∧
      Bus.Logs none g.bus around.channel :=
  does_stop_within Bus.calm_logs g fun e _ b => Bus.logs_disable e.2.handle b

theorem refills_stop (g : Gadget Bus P) : Refills g (g.does stop).2 := by
  obtain ⟨around, journal, h, hlogs⟩ := stop_logs g
  rw [h]
  exact refills_of_empty rfl rfl hlogs

theorem related_logs_trans (g₁ g₂ g₃ : Gadget Bus P) (h₁ : Related (Bus.Logs none) g₁ g₂)
    (h₂ : Related (Bus.Logs none) g₂ g₃) : Related (Bus.Logs none) g₁ g₃ := Bus.Logs.trans h₁ h₂

theorem keeps_enable_logs (endpoint : Endpoint) :
    Keeps (P := P) (Related (Bus.Logs none)) (call (Channel.enable endpoint)) :=
  keeps_call fun b => (b.enable_logs endpoint).1

/-- Every endpoint that is enabled gets a fresh handle. -/
theorem enableAll_fresh {endpoints : List Endpoint} {enabled : List (Endpoint × Handle)}
    (h : g.does (enableAll endpoints) = (.ok enabled, g')) {e : Endpoint × Handle}
    (he : e ∈ enabled) : Bus.Fresh g.bus g'.bus e.2 e.1.address := by
  induction endpoints generalizing g enabled with
  | nil =>
      cases h
      cases he
  | cons endpoint rest ih =>
      obtain ⟨handle, channel, later, henable, hrest, rfl⟩ := does_enableAll_cons_eq_ok h
      obtain ⟨hlogs, hfresh⟩ := g.bus.enable_logs endpoint
      rw [show g.bus.enable endpoint = _ from henable] at hlogs hfresh
      rcases List.mem_cons.mp he with rfl | he
      · have hrestLogs := keeps_enableAll (fun g => .refl g.bus) related_logs_trans
          keeps_enable_logs rest (g.withChannel channel)
        rw [hrest] at hrestLogs
        exact (hfresh handle rfl).mono (.refl _) hrestLogs
      · exact (ih hrest he).mono hlogs (.refl _)

/-- What bringing up a configuration does to the log and to the handles. -/
theorem bringUp_logs (configuration : Configuration) (g : Gadget Bus P) :
    Bus.Logs none g.bus (g.does (bringUp configuration)).2.bus ∧
      ∀ enabled, (g.does (bringUp configuration)).1 = .ok enabled → ∀ e ∈ enabled,
        Bus.Fresh g.bus (g.does (bringUp configuration)).2.bus e.2 e.1.address := by
  refine ⟨keeps_bringUp (fun g => .refl g.bus) related_logs_trans keeps_enable_logs
    (fun milliamps => keeps_call fun b => b.logs_record (.vbusDraw milliamps))
    (keeps_call fun b => b.logs_record .configure) configuration g, ?_⟩
  rcases hup : g.does (bringUp configuration) with ⟨result, g'⟩
  rintro enabled rfl e he
  obtain ⟨g₁, henable, rfl⟩ := does_bringUp_eq_ok hup
  have hpowered : Bus.Logs none g₁.bus
      ((g₁.bus.record (.vbusDraw configuration.maxPower)).record .configure) :=
    (g₁.bus.logs_record (.vbusDraw _)).trans (Bus.logs_record _ .configure)
  exact (enableAll_fresh henable he).mono (.refl _) hpowered

/-- Endpoints that were brought up and entered, all of them or some, have fresh handles. -/
theorem refills_entered {g g₁ g₂ : Gadget Bus P} {configuration : Configuration}
    {exits : List (Address × Exit)} {enabled entered : List (Endpoint × Handle)} {roster : Roster}
    (hstop : g.does stop = (.ok exits, g₁))
    (hup : g₁.does (bringUp configuration) = (.ok enabled, g₂)) (hfront : entered <+: enabled)
    (hroster : Enrolled entered g₂.roster roster) (profile : P) (journal : Journal) (value : UInt8)
    (selected : Option Configuration) :
    Refills g { g₂ with profile, roster, journal, selected, state := g₂.state.select value } := by
  obtain ⟨around, journal', hstopped, hlogs⟩ := stop_logs g
  obtain ⟨hmore, hfresh⟩ := bringUp_logs configuration g₁
  rw [hup] at hmore hfresh
  rw [hstop] at hstopped
  obtain ⟨channel, rfl⟩ := withChannel_of_bringUp hup
  obtain rfl : g₁ = { g.forgotten with around, journal := journal' } := hstopped
  refine ⟨fun _ => rfl, fun {address handle} hh => ⟨rfl, ?_⟩, hlogs.trans hmore⟩
  obtain ⟨e, he, rfl⟩ := hroster.mem_of_handle? hh
  exact (hfresh enabled rfl (e, handle) (hfront.subset he)).mono hlogs (.refl _)

/-- A selection, however it ends, leaves an empty roster or one with fresh handles. -/
theorem refills_selecting {s : Selection} {outcome : Except DeviceError (Reply P) × Gadget Bus P}
    (h : Selecting g s outcome) : Refills g outcome.2 := by
  obtain ⟨around, journal, hstopped, hlogs⟩ := stop_logs g
  cases h with
  | stuck hstop =>
      rw [hstop] at hstopped
      rw [show _ = _ from hstopped]
      exact refills_of_empty rfl rfl hlogs
  | cleared journal' hstop =>
      rw [hstop] at hstopped
      obtain rfl := hstopped
      exact refills_of_empty rfl rfl hlogs
  | @interrupted value configuration exits e g₁ g' hstop hup =>
      have hmore := (bringUp_logs configuration g₁).1
      rw [hup] at hmore
      rw [hstop] at hstopped
      obtain ⟨channel, rfl⟩ := withChannel_of_bringUp hup
      obtain rfl : g₁ = { g.forgotten with around, journal } := hstopped
      exact refills_of_empty rfl rfl (hlogs.trans hmore)
  | @selected value configuration _ _ _ _ _ profile journal' hstop hup hroster =>
      exact refills_entered hstop hup List.prefix_rfl hroster profile journal' value
        (some configuration)
  | @unstarted value configuration _ _ _ _ _ _ profile journal' reason hstop hup hfront hroster =>
      exact refills_entered hstop hup hfront hroster profile journal' value _

/-! ### Turning a halt -/

theorem isHalted_setHalted (s : DeviceState) (address : Address) (on : Bool) (a : Address) :
    (s.setHalted address on).isHalted a = if a = address then on else s.isHalted a := by
  cases on with
  | true =>
      show (s.halted.insert address ()).contains a = _
      rw [ByteMap.contains_insert]
      by_cases ha : a = address
      · simp [ha]
      · simp [ha, DeviceState.isHalted]
  | false =>
      show (s.halted.erase address).contains a = _
      rw [ByteMap.contains_erase]
      by_cases ha : a = address
      · simp [ha]
      · simp [ha, DeviceState.isHalted]

/-- An operation on the halt of an endpoint in the roster turns it. -/
theorem turns_of_perform {address : Address} {handle : Handle} {p : Performed} {on : Bool}
    {wedged : ByteSet} (hhandle : g.roster.handle? address = some handle)
    (hp : p.halt? = some (handle, on))
    (hstays : ∀ a, g.wedged.contains a = true → freed ≠ some a → wedged.contains a = true)
    (hfree : on = false → g.wedged.contains address = true → freed = some address) :
    Turns freed address handle on g
      { g.withChannel (g.bus.record p) with state := g.state.setHalted address on, wedged } where
  entered := hhandle
  roster _ := rfl
  halted := isHalted_setHalted g.state address on
  stays {a} := hstays a
  free := hfree
  logs := by
    rw [← hp]
    exact Bus.logs_record g.bus p

/-- The device class turns the halt of an endpoint in its roster, or finds none. -/
theorem haltStep_halting {address : Address} {p : Handle → Performed} {on : Bool} {wedged : ByteSet}
    {outcome : Except DeviceError Bool × Gadget Bus P}
    (hp : ∀ handle, (p handle).halt? = some (handle, on))
    (hstays : ∀ a, g.wedged.contains a = true → freed ≠ some a → wedged.contains a = true)
    (hfree : on = false → freed = some address)
    (h : Halting g address (fun handle => Bus.perform (p handle)) on wedged outcome) :
    HaltStep freed g outcome.2 := by
  cases h with
  | absent _ => exact .quiet (quiet_of_same rfl rfl rfl (.refl _))
  | @done handle channel hhandle hcall =>
      obtain ⟨-, rfl⟩ := Prod.mk.inj hcall
      exact .turned (turns_of_perform hhandle (hp handle) hstays fun hon _ => hfree hon)
  | failed hcall => cases hcall

/-- A host turns the halt of an endpoint in the roster, and turns none off while it is wedged. -/
theorem haltStep_served {outcome : Except DeviceError (Reply P) × Gadget Bus P}
    (h : Served g outcome) : HaltStep none g outcome.2 := by
  cases h with
  | kept reply profile journal => exact .quiet (quiet_of_same rfl rfl rfl (.refl _))
  | waking wakeup => exact .quiet (quiet_of_same rfl rfl rfl (.refl _))
  | alternated alternate profile _ => exact .quiet (quiet_of_same rfl rfl rfl (.refl _))
  | @halted address handle channel hhandle hcall =>
      obtain ⟨-, rfl⟩ := Prod.mk.inj hcall
      exact .turned (turns_of_perform (p := .setHalt handle) hhandle rfl (fun _ ha _ => ha) nofun)
  | @resumed address handle channel hhandle hfree hcall =>
      obtain ⟨-, rfl⟩ := Prod.mk.inj hcall
      refine .turned (turns_of_perform (p := .clearHalt handle) hhandle rfl (fun _ ha _ => ha) ?_)
      intro _ hwedged
      rw [hfree] at hwedged
      cases hwedged
  | unhalted hcall => cases hcall
  | unresumed hcall => cases hcall

/-! ### Events and moves -/

section profile

variable [DeviceProfile P]

theorem haltStep_answer (g : Gadget Bus P) (setup : Setup) :
    HaltStep none g (g.does (answer setup)).2 := by
  obtain ⟨journal, h⟩ := answered g setup
  have hnoted : Quiet g { g with journal } := quiet_of_same rfl rfl rfl (.refl _)
  split at h
  · exact hnoted.then_step (.refilled (refills_selecting h))
  · exact hnoted.then_step (haltStep_served h)

theorem haltStep_handled (g : Gadget Bus P) (event : BusEvent) :
    HaltStep none g (g.does (handleEvent event)).2 := by
  have hnoted : Quiet g { g with journal := g.journal.add [.event event] } :=
    quiet_of_same rfl rfl rfl (.refl _)
  refine hnoted.then_step ?_
  have hhandling := handling g event
  have hstopped := refills_stop { g with journal := g.journal.add [.event event] }
  have hanswered := haltStep_answer { g with journal := g.journal.add [.event event] }
  generalize g.does (handleEvent event) = outcome at hhandling ⊢
  generalize ({ g with journal := g.journal.add [.event event] } : Gadget Bus P) = g₀ at *
  cases hhandling with
  | unknown tag length journal => exact .quiet (quiet_of_same rfl rfl rfl (.refl _))
  | malformed tag length journal => exact .quiet (quiet_of_same rfl rfl rfl (.refl _))
  | suspended journal => exact .quiet (quiet_of_same rfl rfl rfl (.refl _))
  | resumed journal => exact .quiet (quiet_of_same rfl rfl rfl (.refl _))
  | stuck _ hstop =>
      rw [hstop] at hstopped
      exact .refilled hstopped
  | unchecked _ hcall => cases hcall
  | @renewed _ base exits g₁ channel profile journal hbase hstop hchannel =>
      rw [hstop] at hstopped
      obtain rfl : channel = g₁.bus := Bus.eq_of_looked hchannel
      exact .refilled ⟨hstopped.wedged, fun hh => ⟨rfl, (hstopped.roster hh).2⟩, hstopped.logs⟩
  | @unanswered setup e g' hanswer =>
      have h := hanswered setup
      rw [hanswer] at h
      exact h
  | @answered setup reply g₁ profile journal hanswer =>
      have h := hanswered setup
      rw [hanswer] at h
      exact h.then_quiet (quiet_of_same rfl rfl rfl (Bus.logs_operate _ _))

/-- A move of a device that was started on a bus: it is not started again, and its bus is changed
from outside by its host only. -/
def Running : Move Bus P → Prop
  | .start => False
  | .outside f => ∃ a : HostAct, f = a.apply
  | _ => True

/-- The endpoint whose wedge the device class ends by a move. -/
def freed? : Move Bus P → Option Address
  | .unhalt address => some address
  | _ => none

theorem haltStep_step (g : Gadget Bus P) : HaltStep none g (g.does Gadget.step).2 := by
  have hfetch := Bus.logs_fetchEvent g.bus
  rw [does_step]
  rcases hfetched : Channel.fetchEvent g.around.channel with ⟨e | record, channel⟩
  · rw [show g.bus.fetchEvent = _ from hfetched] at hfetch
    exact .quiet (quiet_of_same rfl rfl rfl hfetch)
  · rw [show g.bus.fetchEvent = _ from hfetched] at hfetch
    have hquiet : Quiet g (g.withChannel channel) := quiet_of_same rfl rfl rfl hfetch
    exact hquiet.then_step (haltStep_handled _ record.decode)

/-- **What a move does to halts.**  This holds of moves that fail, too. -/
theorem haltStep_next {m : Move Bus P} (hm : Running m) (g : Gadget Bus P) :
    HaltStep (freed? m) g (g.next m) := by
  cases m with
  | start => exact absurd hm id
  | event event => exact haltStep_handled g event
  | step =>
      rw [next_step]
      exact haltStep_step g
  | stop =>
      rw [next_stop]
      exact .refilled (refills_stop g)
  | halt address =>
      rw [next_halt]
      exact haltStep_halting (p := .setHalt) (fun _ => rfl) (fun _ ha _ => ha) nofun
        (halting_halt g address)
  | wedge address =>
      rw [next_wedge]
      refine haltStep_halting (p := .setWedge) (fun _ => rfl) (fun a ha _ => ?_) nofun
        (halting_wedge g address)
      show (g.wedged.insert address ()).contains a = true
      rw [ByteMap.contains_insert, ha, Bool.or_true]
  | unhalt address =>
      rw [next_unhalt]
      refine haltStep_halting (p := .clearHalt) (fun _ => rfl) (fun a ha hfreed => ?_)
        (fun _ => rfl) (halting_unhalt g address)
      have hne : ¬a = address := fun h => hfreed (congrArg some h.symm)
      rw [ByteMap.contains_erase, ha, decide_eq_false hne]
      rfl
  | work address =>
      obtain ⟨around, roster, journal, hwork, hlogs, hroster⟩ :=
        runWorker_within Bus.calm_logs 1 address g
      rw [next_work, hwork]
      exact .quiet ⟨hroster, fun _ => rfl, fun _ => rfl, hlogs⟩
  | outside f =>
      obtain ⟨a, rfl⟩ := hm
      exact .quiet (quiet_of_same rfl rfl rfl (a.logs g.bus))
  | stock f => exact .quiet (quiet_of_same rfl rfl rfl (.refl _))
  | adjust f => exact .quiet (quiet_of_same rfl rfl rfl (.refl _))
  | threads refusals => exact .quiet (quiet_of_same rfl rfl rfl (.refl _))

end profile

end Gadget

end UsbPeripheral
