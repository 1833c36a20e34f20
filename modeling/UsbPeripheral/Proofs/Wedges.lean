import UsbPeripheral.Proofs.Answers
import UsbPeripheral.Proofs.HaltLog
import UsbPeripheral.Proofs.Service

/-! # Host, device and bus agree on halts

A device knows its halted endpoints by their addresses, and the bus has a log of halts by handles.  The
two are **tallied** (`Tallied`): an endpoint in the roster is halted if and only if the log says so of
its handle.  Every move keeps them tallied, one that fails as well.

A wedged endpoint is **stuck** (`Stuck`): until the device class frees it, no move makes the bus record
the end of its halt, and the host is told that it is halted for as long as it is in the roster.

`halts_agree` says this of every run of a device that is started on a new bus, and that endpoints enter
the roster neither halted nor wedged. -/

namespace UsbPeripheral

/-- The packet with which a host ends the halt of an endpoint. -/
def Setup.clearHalt (address : Address) : Setup :=
  ⟨RequestType.toDevice.apply .endpoint, StandardRequest.clearFeature.code,
    Feature.endpointHalt.code, address.toUInt16, 0⟩

namespace Bus

variable {b b' : Bus} {handle : Handle}

/-! ### The last halt of a handle -/

theorem Logs.lastHalt? (h : Logs none b b') (handle : Handle) :
    b'.lastHalt? handle = b.lastHalt? handle := by
  unfold Bus.lastHalt?
  rw [h.halts, Option.toList_none, List.append_nil]

theorem Logs.lastHalt?_turned {other : Handle} {on : Bool} (h : Logs (some (other, on)) b b')
    (handle : Handle) :
    b'.lastHalt? handle = if handle = other then some on else b.lastHalt? handle := by
  unfold Bus.lastHalt?
  rw [h.halts, Option.toList_some, List.reverse_append, List.reverse_singleton,
    List.singleton_append, List.lookup_cons]
  by_cases hhandle : handle = other
  · simp [hhandle]
  · rw [beq_eq_false_iff_ne.mpr hhandle, if_neg hhandle]

/-- A handle without an entry in the log was never halted. -/
theorem lastHalt?_eq_none (h : ∀ on, (handle, on) ∉ b.halts) : b.lastHalt? handle = none := by
  unfold Bus.lastHalt?
  rw [List.lookup_eq_none_iff]
  rintro ⟨other, on⟩ hmem
  rw [List.mem_reverse] at hmem
  have hne : handle ≠ other := by
    rintro rfl
    exact h on hmem
  exact bne_iff_ne.mpr hne

/-- The ends of a halt that were performed are those in the log. -/
theorem count_clearHalt (b : Bus) (handle : Handle) :
    b.performed.count (.clearHalt handle) = b.halts.count (handle, false) := by
  unfold halts
  induction b.performed with
  | nil => rfl
  | cons p rest ih =>
      rw [List.count_cons, ih, List.filterMap_cons]
      cases p <;> simp [Performed.halt?, List.count_cons]

end Bus

namespace Gadget

variable {P : Type} {g g' : Gadget Bus P} {freed : Option Address} {address : Address}
  {handle : Handle}

/-! ### Tallied devices -/

/-- What the device knows of halts is what the log of the bus says. -/
structure Tallied (g : Gadget Bus P) : Prop where
  /-- Every handle in the roster was given out for its address. -/
  placed {address : Address} {handle : Handle} :
    g.roster.handle? address = some handle → g.bus.addressOf? handle = some address
  halted {address : Address} {handle : Handle} : g.roster.handle? address = some handle →
    g.state.isHalted address = (g.bus.lastHalt? handle).getD false
  /-- Only handles that were given out were halted. -/
  recorded {handle : Handle} {on : Bool} :
    (handle, on) ∈ g.bus.halts → g.bus.addressOf? handle ≠ none

/-- A handle that is not given out yet was never halted. -/
theorem Tallied.lastHalt?_eq_none (hg : g.Tallied) (h : g.bus.addressOf? handle = none) :
    g.bus.lastHalt? handle = none :=
  Bus.lastHalt?_eq_none fun _ hmem => hg.recorded hmem h

theorem Tallied.recorded_of_logs {entry : Option (Handle × Bool)} (hg : g.Tallied)
    (hlogs : Bus.Logs entry g.bus g'.bus)
    (hentry : ∀ e ∈ entry, g.bus.addressOf? e.1 ≠ none) {other : Handle} {on : Bool}
    (h : (other, on) ∈ g'.bus.halts) : g'.bus.addressOf? other ≠ none := by
  have hknown : g.bus.addressOf? other ≠ none := by
    rw [hlogs.halts] at h
    rcases List.mem_append.mp h with h | h
    · exact hg.recorded h
    · exact hentry _ (Option.mem_toList.mp h)
  exact fun hnone => hknown (hlogs.addressOf?_none hnone)

/-- **Every step keeps a device tallied.** -/
theorem Tallied.step (hg : g.Tallied) (h : HaltStep freed g g') : g'.Tallied := by
  cases h with
  | quiet h =>
      refine ⟨fun hh => ?_, fun hh => ?_, hg.recorded_of_logs h.logs nofun⟩
      · rw [h.roster] at hh
        exact h.logs.addressOf? (hg.placed hh)
      · rw [h.roster] at hh
        rw [h.halted, h.logs.lastHalt?]
        exact hg.halted hh
  | refilled h =>
      refine ⟨fun hh => (h.roster hh).2.2, fun hh => ?_, hg.recorded_of_logs h.logs nofun⟩
      obtain ⟨hhalted, hfresh⟩ := h.roster hh
      rw [hhalted, h.logs.lastHalt?, hg.lastHalt?_eq_none hfresh.1]
      rfl
  | @turned turned handle' on h =>
      have hplaced := hg.placed h.entered
      refine ⟨fun hh => ?_, fun {address handle} hh => ?_, hg.recorded_of_logs h.logs ?_⟩
      · rw [h.roster] at hh
        exact h.logs.addressOf? (hg.placed hh)
      · rw [h.roster] at hh
        rw [h.halted, h.logs.lastHalt?_turned]
        by_cases ha : address = turned
        · subst ha
          rw [h.entered] at hh
          rw [if_pos rfl, if_pos (Option.some.inj hh).symm]
          rfl
        · -- handles at different addresses are different
          have hne : ¬handle = handle' := by
            rintro rfl
            rw [hg.placed hh] at hplaced
            exact ha (Option.some.inj hplaced)
          rw [if_neg ha, if_neg hne]
          exact hg.halted hh
      · rintro _ ⟨⟩
        rw [hplaced]
        exact Option.some_ne_none _

/-- A new device on a new bus is tallied once it is started. -/
theorem tallied_start [DeviceProfile P] (udc : List UdcEndpoint) (depot : Depot) (profile : P)
    (settings : Settings) : ((new ({ udc } : Bus) depot profile settings).next .start).Tallied :=
  ⟨nofun, nofun, nofun⟩

/-! ### Stuck halts -/

/-- The halt of an endpoint is wedged, as long as its handle is in the roster. -/
structure Stuck (address : Address) (handle : Handle) (g : Gadget Bus P) : Prop
    extends Tallied g where
  known : g.bus.addressOf? handle = some address
  wedged : g.roster.handle? address = some handle →
    g.wedged.contains address = true ∧ g.state.isHalted address = true

/-- **Every step keeps a wedged endpoint halted**, unless the device class frees it, and does not log
the end of its halt. -/
theorem Stuck.step (hg : g.Stuck address handle) (hfreed : freed ≠ some address)
    (h : HaltStep freed g g') :
    g'.Stuck address handle ∧ g'.bus.halts.count (handle, false) = g.bus.halts.count (handle, false) := by
  have hstep := hg.toTallied.step h
  cases h with
  | quiet h =>
      refine ⟨⟨hstep, h.logs.addressOf? hg.known, fun hh => ?_⟩, ?_⟩
      · rw [h.roster] at hh
        rw [h.wedged, h.halted]
        exact hg.wedged hh
      · rw [h.logs.halts, Option.toList_none, List.append_nil]
  | refilled h =>
      refine ⟨⟨hstep, h.logs.addressOf? hg.known, fun hh => ?_⟩, ?_⟩
      · -- a fresh handle is another one
        have hnone := (h.roster hh).2.1
        rw [hg.known] at hnone
        cases hnone
      · rw [h.logs.halts, Option.toList_none, List.append_nil]
  | @turned turned handle' on h =>
      have hplaced := hg.placed h.entered
      -- the handle is turned only where it stands, and there it cannot be turned off
      have hon : handle' = handle → on = true := by
        rintro rfl
        obtain rfl : turned = address := Option.some.inj (hplaced.symm.trans hg.known)
        obtain ⟨hwedged, -⟩ := hg.wedged h.entered
        cases on with
        | true => rfl
        | false => exact absurd (h.free rfl hwedged) hfreed
      refine ⟨⟨hstep, h.logs.addressOf? hg.known, fun hh => ?_⟩, ?_⟩
      · rw [h.roster] at hh
        obtain ⟨hwedged, hhalted⟩ := hg.wedged hh
        refine ⟨h.stays hwedged hfreed, ?_⟩
        rw [h.halted]
        split
        · rename_i ha
          rw [← ha] at h
          exact hon (Option.some.inj (h.entered.symm.trans hh))
        · exact hhalted
      · rw [h.logs.halts, List.count_append]
        have hne : ¬(handle', on) = (handle, false) := by
          rintro ⟨⟩
          cases hon rfl
        simp [hne]

section profile

variable [DeviceProfile P]

omit [DeviceProfile P] in
theorem does_wedge (hhandle : g.roster.handle? address = some handle) :
    g.does (wedge address) = (.ok true, { g.withChannel (g.bus.record (.setWedge handle)) with
      state := g.state.setHalted address true, wedged := g.wedged.add address }) := by
  unfold wedge
  rw [does_get_bind, hhandle]
  rfl

/-- Wedging an endpoint of the roster makes it stuck. -/
theorem stuck_wedge (hg : g.Tallied) (hhandle : g.roster.handle? address = some handle) :
    (g.next (.wedge address)).Stuck address handle := by
  have hstep := hg.step (haltStep_next (m := .wedge address) trivial g)
  have hnext : g.next (.wedge address) = { g.withChannel (g.bus.record (.setWedge handle)) with
      state := g.state.setHalted address true, wedged := g.wedged.add address } := by
    rw [next_wedge, does_wedge hhandle]
  rw [hnext] at hstep ⊢
  refine ⟨hstep, hg.placed hhandle, fun _ => ⟨?_, ?_⟩⟩
  · show (g.wedged.insert address ()).contains address = true
    rw [ByteMap.contains_insert, decide_eq_true rfl, Bool.true_or]
  · show (g.state.setHalted address true).isHalted address = true
    rw [isHalted_setHalted, if_pos rfl]

/-! ### Runs -/

theorem Tallied.after {ms : List (Move Bus P)} (hg : g.Tallied) (hms : ∀ m ∈ ms, Running m) :
    (g.after ms).Tallied := by
  induction ms generalizing g with
  | nil => exact hg
  | cons m ms ih =>
      have hnext := hg.step (haltStep_next (hms m List.mem_cons_self) g)
      exact ih hnext fun n hn => hms n (List.mem_cons_of_mem _ hn)

omit [DeviceProfile P] in
theorem freed?_ne {m : Move Bus P} (h : m ≠ .unhalt address) : freed? m ≠ some address := by
  intro hfreed
  cases m <;> cases hfreed
  exact h rfl

theorem Stuck.after {ms : List (Move Bus P)} (hg : g.Stuck address handle)
    (hms : ∀ m ∈ ms, Running m ∧ m ≠ .unhalt address) :
    (g.after ms).Stuck address handle ∧
      (g.after ms).bus.halts.count (handle, false) = g.bus.halts.count (handle, false) := by
  induction ms generalizing g with
  | nil => exact ⟨hg, rfl⟩
  | cons m ms ih =>
      obtain ⟨hrunning, hne⟩ := hms m List.mem_cons_self
      obtain ⟨hnext, hcount⟩ := hg.step (freed?_ne hne) (haltStep_next hrunning g)
      obtain ⟨hrest, hcounts⟩ := ih hnext fun n hn => hms n (List.mem_cons_of_mem _ hn)
      exact ⟨hrest, hcounts.trans hcount⟩

/-! ### What the host is told -/

/-- The host is told whether an endpoint is halted, and nothing else happens. -/
def Reports (g : Gadget Bus P) (address : Address) (halted : Bool) : Prop :=
  ∀ setup : Setup, setup.Carries .getStatus .toHost → setup.recipient = .endpoint →
    Bytes.low setup.index = address →
    (g.does (handleEvent (.control setup))).1 = .ok () ∧
    (g.does (handleEvent (.control setup))).2.bus.performed = g.bus.performed ++
      [.ep0Write ((Bytes.ofWord16 (if halted then 1 else 0)).take setup.length.toNat)]

theorem reports_of_roster (hhandle : g.roster.handle? address = some handle)
    (hnumber : Address.number address ≠ 0) : g.Reports address (g.state.isHalted address) := by
  rintro setup hcarries hrecipient rfl
  have hanswer := answering_getStatus g hcarries
  have hword : g.statusWord setup =
      some (if g.state.isHalted (Bytes.low setup.index) then 1 else 0) := by
    unfold statusWord
    rw [hrecipient]
    dsimp only
    rw [if_neg hnumber, Roster.contains_eq_isSome, hhandle]
    cases g.state.isHalted (Bytes.low setup.index) <;> rfl
  rw [hword] at hanswer
  obtain ⟨journal, hcomplete⟩ := does_complete (g.heard setup) setup
    (.send (Bytes.ofWord16 (if g.state.isHalted (Bytes.low setup.index) then 1 else 0)))
  rw [stage_send hcarries.2.2] at hcomplete
  rw [does_handleEvent_control, hanswer]
  show ((g.heard setup).does (complete setup (.send _))).1 = _ ∧
    ((g.heard setup).does (complete setup (.send _))).2.bus.performed = _
  rw [hcomplete]
  exact ⟨rfl, rfl⟩

/-- What enters the roster by a move is neither halted nor wedged, and was never halted. -/
theorem entered_unhalted (hg : g.Tallied) {m : Move Bus P} (hm : Running m)
    (hafter : (g.next m).roster.handle? address = some handle)
    (hbefore : g.roster.handle? address ≠ some handle) :
    (g.next m).state.isHalted address = false ∧ (g.next m).wedged.contains address = false ∧
      (g.next m).bus.lastHalt? handle = none := by
  cases haltStep_next hm g with
  | quiet h =>
      rw [h.roster] at hafter
      exact absurd hafter hbefore
  | refilled h =>
      obtain ⟨hhalted, hfresh⟩ := h.roster hafter
      refine ⟨hhalted, h.wedged address, ?_⟩
      rw [h.logs.lastHalt?]
      exact hg.lastHalt?_eq_none hfresh.1
  | turned h =>
      rw [h.roster] at hafter
      exact absurd hafter hbefore

/-- **Host, device and bus agree on halts.**  At every point of a run of a device that was started on a
new bus:

* the host is told that an endpoint is halted if and only if the last halt in the log of its handle
  has not ended;
* after the device class wedged an endpoint, the bus records no end of that halt and the host is told
  that the endpoint is halted for as long as it is in the roster, until the device class frees it;
* an endpoint enters the roster neither halted nor wedged. -/
theorem halts_agree (udc : List UdcEndpoint) (depot : Depot) (profile : P) (settings : Settings)
    {ms : List (Move Bus P)} (hms : ∀ m ∈ ms, Running m) (address : Address) (handle : Handle) :
    let g := (new ({ udc } : Bus) depot profile settings).after (.start :: ms)
    (g.roster.handle? address = some handle → Address.number address ≠ 0 →
      g.Reports address ((g.bus.lastHalt? handle).getD false)) ∧
    (g.roster.handle? address = some handle →
      ∀ rest : List (Move Bus P), (∀ m ∈ rest, Running m ∧ m ≠ .unhalt address) →
        let wedged := g.next (.wedge address)
        (wedged.after rest).bus.performed.count (.clearHalt handle) =
          wedged.bus.performed.count (.clearHalt handle) ∧
        ((wedged.after rest).roster.handle? address = some handle → Address.number address ≠ 0 →
          (wedged.after rest).Reports address true)) ∧
    (∀ m : Move Bus P, Running m → (g.next m).roster.handle? address = some handle →
      g.roster.handle? address ≠ some handle →
      (g.next m).state.isHalted address = false ∧ (g.next m).wedged.contains address = false ∧
        (g.next m).bus.lastHalt? handle = none) := by
  intro g
  have hg : g.Tallied := (tallied_start udc depot profile settings).after hms
  refine ⟨fun hhandle hnumber => ?_, fun hhandle rest hrest => ?_, fun m hm => entered_unhalted hg hm⟩
  · rw [← hg.halted hhandle]
    exact reports_of_roster hhandle hnumber
  · intro wedged
    obtain ⟨hstuck, hcount⟩ := (stuck_wedge hg hhandle).after hrest
    refine ⟨?_, fun hstill hnumber => ?_⟩
    · rw [Bus.count_clearHalt, Bus.count_clearHalt]
      exact hcount
    · have hreports := reports_of_roster hstill hnumber
      rw [(hstuck.wedged hstill).2] at hreports
      exact hreports

end profile

/-- The device with two endpoints, configured. -/
def twoWayConfigured : Gadget Bus PlainDevice :=
  twoWayNew.after [.start, .event (.control (.select 1))]

/-- The host tries to end the halt of a wedged endpoint, and then that of another one. -/
def clearing : List (Move Bus PlainDevice) :=
  [.event (.control (.clearHalt 129)), .halt 2, .event (.control (.clearHalt 2))]

/-- The wedged endpoint stays halted, and the other one does not. -/
theorem twoWay_wedged :
    twoWayConfigured.roster.handle? 129 = some 1 ∧
      ((twoWayConfigured.next (.wedge 129)).after clearing).bus.halts =
        [(1, true), (2, true), (2, false)] ∧
      ((twoWayConfigured.next (.wedge 129)).after clearing).bus.performed.count (.clearHalt 1) =
        (twoWayConfigured.next (.wedge 129)).bus.performed.count (.clearHalt 1) ∧
      ((twoWayConfigured.next (.wedge 129)).after clearing).Reports 129 true := by
  have hms : ∀ m ∈ ([.event (.control (.select 1))] : List (Move Bus PlainDevice)), Running m := by
    simp [Running]
  have hrest : ∀ m ∈ clearing, Running m ∧ m ≠ .unhalt 129 := by
    simp [clearing, Running]
  have hbefore : twoWayConfigured.roster.handle? 129 = some 1 := by decide +kernel
  have hafter :
      ((twoWayConfigured.next (.wedge 129)).after clearing).roster.handle? 129 = some 1 := by
    decide +kernel
  have hhalts : ((twoWayConfigured.next (.wedge 129)).after clearing).bus.halts =
      [(1, true), (2, true), (2, false)] := by decide +kernel
  obtain ⟨-, hstuck, -⟩ :=
    halts_agree Bus.standardUdc {} PlainDevice.twoWay .standard hms 129 1
  obtain ⟨hcount, hreports⟩ := hstuck hbefore clearing hrest
  exact ⟨hbefore, hhalts, hcount, hreports hafter (by decide)⟩

end Gadget

end UsbPeripheral
