import UsbPeripheral.Proofs.Pipes
import UsbPeripheral.Proofs.Selection

/-! # The stores of a device agree

What a device knows about its configuration is spread over its state, the selected configuration, the
wedges, the roster, and the pipes of the bus.  They are **consistent** (`Consistent`) if they all tell
of the same configuration; on a sound bus this is **kept** (`Kept`) by whatever leaves the roster alone
(`Kept.of_frame`).

Taking the roster down leaves the device **bare** (`bare_stop`), which is consistent as long as the
device is not configured (`Bare.kept`), and selecting a configuration fills the roster again with the
endpoints that the bus has enabled (`Bare.selected_kept`). -/

namespace UsbPeripheral

namespace Gadget

variable {P : Type}

/-- The bus of a device. -/
def bus (g : Gadget Bus P) : Bus := g.around.channel

/-- The stores of a device agree. -/
structure Consistent (g : Gadget Bus P) : Prop where
  /-- The stage is that of a configured device if and only if the value is not 0. -/
  configured : g.state.isConfigured = true ↔ g.state.configuration ≠ 0
  /-- The value is not 0 if and only if a configuration is selected. -/
  selected : g.state.configuration ≠ 0 ↔ g.selected.isSome = true
  /-- The value is that of the selected configuration. -/
  value {c : Configuration} : g.selected = some c → g.state.configuration = c.value
  /-- The roster has the endpoints of the selected configuration. -/
  rostered {address : Address} : g.roster.contains address = true ↔
    ∃ c, g.selected = some c ∧ ∃ e ∈ c.endpoints, e.address = address
  /-- Every handle in the roster names an enabled pipe at its address. -/
  enabled {address : Address} {handle : Handle} :
    g.roster.handle? address = some handle → g.bus.Live handle address
  /-- Every enabled pipe is in the roster, with the handle of its place. -/
  known {place : Nat} {p : Pipe} : g.bus.pipes[place]? = some p → p.enabled = true →
    ∃ handle, g.roster.handle? p.address = some handle ∧ handle.toNat = place + 1
  /-- A wedged endpoint is halted. -/
  wedged {address : Address} :
    g.wedged.contains address = true → g.state.halted.contains address = true
  /-- A halted endpoint is in the roster. -/
  halted {address : Address} :
    g.state.halted.contains address = true → g.roster.contains address = true
  /-- An interface with an alternate setting is one of the selected configuration. -/
  alternates {interface : UInt8} : g.state.alternates.contains interface = true →
    ∃ c, g.selected = some c ∧ interface ∈ c.interfaces

/-- The stores agree, and the bus is sound. -/
structure Kept (g : Gadget Bus P) : Prop extends Consistent g where
  sound : g.bus.Sound

/-- On a sound bus it is enough to look at handles. -/
theorem known_of_live {b : Bus} {r : Roster} (hb : b.Sound)
    (h : ∀ {handle : Handle} {address : Address}, b.Live handle address →
      r.handle? address = some handle) {place : Nat} {p : Pipe}
    (hplace : b.pipes[place]? = some p) (hp : p.enabled = true) :
    ∃ handle, r.handle? p.address = some handle ∧ handle.toNat = place + 1 := by
  obtain ⟨handle, hlive, hnat⟩ := Bus.live_of_enabled hb hplace hp
  exact ⟨handle, h hlive, hnat⟩

/-- A live handle is in the roster. -/
theorem Consistent.handle_of_live {g : Gadget Bus P} (hg : g.Consistent) {handle : Handle}
    {address : Address} (h : g.bus.Live handle address) :
    g.roster.handle? address = some handle := by
  obtain ⟨p, hp, henabled, rfl⟩ := h
  have hpos := (Bus.pipe?_lt hp).1
  have hplace : g.bus.pipes[handle.toNat - 1]? = some p := by
    unfold Bus.pipe? at hp
    split at hp
    · cases hp
    · exact hp
  obtain ⟨other, hother, hnat⟩ := hg.known hplace henabled
  have hsame : other = handle := UInt32.toNat_inj.mp (by omega)
  rw [← hsame]
  exact hother

/-! ### Changes that keep the roster -/

/-- What keeps the selection, the roster and the enabled pipes keeps the stores consistent, if what it
halts, wedges and sets is theirs. -/
theorem Kept.of_frame {g g' : Gadget Bus P} (hg : g.Kept)
    (hbus : Bus.Quenches (fun _ => False) g.bus g'.bus)
    (hroster : ∀ address, g'.roster.handle? address = g.roster.handle? address)
    (hselected : g'.selected = g.selected) (hbase : g'.state.base = g.state.base)
    (hconfiguration : g'.state.configuration = g.state.configuration)
    (hwedged : ∀ address, g'.wedged.contains address = true →
      g'.state.halted.contains address = true)
    (hhalted : ∀ address, g'.state.halted.contains address = true →
      g.roster.contains address = true)
    (halternates : ∀ interface, g'.state.alternates.contains interface = true →
      ∃ c, g.selected = some c ∧ interface ∈ c.interfaces) : g'.Kept := by
  have hcontains : ∀ address, g'.roster.contains address = g.roster.contains address := by
    intro address
    rw [Roster.contains_eq_isSome, Roster.contains_eq_isSome, hroster]
  have hsound : g'.bus.Sound := hg.sound.of_quenches hbus
  refine
    { configured := ?configured, selected := ?selected, value := ?value, rostered := ?rostered,
      enabled := ?enabled, known := ?known, wedged := hwedged _, halted := ?halted,
      alternates := ?alternates, sound := hsound }
  case configured =>
    unfold DeviceState.isConfigured
    rw [hbase, hconfiguration]
    exact hg.configured
  case selected =>
    rw [hconfiguration, hselected]
    exact hg.selected
  case value =>
    intro c hc
    rw [hselected] at hc
    rw [hconfiguration]
    exact hg.value hc
  case rostered =>
    intro address
    rw [hcontains, hselected]
    exact hg.rostered
  case enabled =>
    intro address handle h
    rw [hroster] at h
    exact hbus.lasts (hg.enabled h) id
  case known =>
    refine known_of_live hsound ?_
    intro handle address h
    rw [hroster]
    exact hg.handle_of_live (hbus.fades h)
  case halted =>
    intro address h
    rw [hcontains]
    exact hhalted address h
  case alternates =>
    intro interface h
    rw [hselected]
    exact halternates interface h

/-- What happens on the bus without enabling or disabling, in the depot, the device class and the
journal, and what the state says of suspension and wakeup, concerns no configuration. -/
theorem Kept.elsewhere {g : Gadget Bus P} (hg : g.Kept) {around : Surroundings Bus} {profile : P}
    {journal : Journal} {suspended remoteWakeup : Bool}
    (hbus : Bus.Quenches (fun _ => False) g.bus around.channel) :
    Kept { g with
      around, profile, journal, state := { g.state with suspended, remoteWakeup } } :=
  hg.of_frame hbus (fun _ => rfl) rfl rfl rfl (fun _ => hg.wedged) (fun _ => hg.halted)
    (fun _ => hg.alternates)

/-! ### Taking the roster down -/

/-- A device without a roster, on a bus on which no endpoint is enabled. -/
structure Bare (g : Gadget Bus P) : Prop where
  sound : g.bus.Sound
  dead (handle : Handle) : Bus.Dead handle g.bus
  roster : g.roster = .empty
  selected : g.selected = none
  wedged : g.wedged = .empty

/-- A handle of the roster. -/
def Holds (g : Gadget Bus P) (handle : Handle) : Prop :=
  ∃ e ∈ g.roster.entries, e.2.handle = handle

/-- The bus is sound, and every live handle is in the roster. -/
structure Tended (g : Gadget Bus P) : Prop where
  sound : g.bus.Sound
  handle_of_live {handle : Handle} {address : Address} :
    g.bus.Live handle address → g.roster.handle? address = some handle

theorem Kept.tended {g : Gadget Bus P} (hg : g.Kept) : g.Tended := ⟨hg.sound, hg.handle_of_live⟩

theorem Tended.bare_stop {g g' : Gadget Bus P} {exits : List (Address × Exit)} (hg : g.Tended)
    (h : g.does stop = (.ok exits, g')) : g'.Bare := by
  have hdisable : ∀ e ∈ g.roster.entries, ∀ b, Bus.Quenches g.Holds b (Channel.disable e.2.handle b).2 :=
    fun e he b => Bus.quenches_disable b ⟨e, he, rfl⟩
  have hoff : ∀ e ∈ g.roster.entries, Bus.Dead e.2.handle g'.bus :=
    does_stop_off Bus.calm_quenches Bus.dead_of_disable Bus.Dead.of_quenches hdisable h
  obtain ⟨around, journal, hframe, hquenches⟩ := does_stop_within Bus.calm_quenches g hdisable
  rw [h] at hframe
  obtain rfl : g' = { g.forgotten with around, journal } := hframe
  refine ⟨hg.sound.of_quenches hquenches, ?_, rfl, rfl, rfl⟩
  -- what is live now was live before, so it was in the roster, and is off
  intro handle address hlive
  obtain ⟨slot, hslot, rfl⟩ :=
    Roster.mem_of_handle? (hg.handle_of_live (hquenches.fades hlive))
  exact hoff _ hslot address hlive

theorem bare_stop {g g' : Gadget Bus P} {exits : List (Address × Exit)} (hg : g.Kept)
    (h : g.does stop = (.ok exits, g')) : g'.Bare := hg.tended.bare_stop h

theorem Bare.elsewhere {g : Gadget Bus P} (hg : g.Bare) {state : DeviceState} {profile : P}
    {journal : Journal} : Bare { g with state, profile, journal } :=
  ⟨hg.sound, hg.dead, hg.roster, hg.selected, hg.wedged⟩

/-- A bare device that is not configured is consistent. -/
theorem Bare.kept {g : Gadget Bus P} (hg : g.Bare) (hbase : g.state.isConfigured = false)
    (hconfiguration : g.state.configuration = 0) (hhalted : g.state.halted = .empty)
    (halternates : g.state.alternates = .empty) : g.Kept := by
  refine
    { configured := ?configured, selected := ?selected, value := ?value, rostered := ?rostered,
      enabled := ?enabled, known := ?known, wedged := ?wedged, halted := ?halted,
      alternates := ?alternates, sound := hg.sound }
  case configured =>
    rw [hbase, hconfiguration]
    simp
  case selected =>
    rw [hconfiguration, hg.selected]
    simp
  case value =>
    intro c hc
    rw [hg.selected] at hc
    cases hc
  case rostered =>
    intro address
    rw [hg.roster, hg.selected]
    constructor
    · exact nofun
    · rintro ⟨c, hc, -⟩
      cases hc
  case enabled =>
    intro address handle h
    rw [hg.roster] at h
    cases h
  case known =>
    refine known_of_live hg.sound ?_
    intro handle address h
    exact absurd h (hg.dead handle address)
  case wedged =>
    intro address h
    rw [hg.wedged] at h
    cases h
  case halted =>
    intro address h
    rw [hhalted] at h
    cases h
  case alternates =>
    intro interface h
    rw [halternates] at h
    cases h

/-! ### Filling the roster -/

/-- Enabled endpoints are live, besides what was live before. -/
theorem enableAll_live {endpoints : List Endpoint} {g g' : Gadget Bus P}
    {enabled : List (Endpoint × Handle)} (hg : g.bus.Sound)
    (h : g.does (enableAll endpoints) = (.ok enabled, g')) :
    g'.bus.Sound ∧ enabled.map (·.1) = endpoints ∧ ∀ handle address,
      g'.bus.Live handle address ↔
        g.bus.Live handle address ∨ ∃ e, (e, handle) ∈ enabled ∧ e.address = address := by
  induction endpoints generalizing g enabled with
  | nil =>
      cases h
      refine ⟨hg, rfl, fun handle address => ⟨.inl, ?_⟩⟩
      rintro (h | ⟨e, h, -⟩)
      · exact h
      · cases h
  | cons endpoint rest ih =>
      obtain ⟨handle, channel, later, henable, hrest, rfl⟩ := does_enableAll_cons_eq_ok h
      have henabled : Bus.Enabled g.bus (g.withChannel channel).bus handle endpoint.address :=
        Bus.enable_spec hg henable
      obtain ⟨hsound, hmap, hlive⟩ := ih henabled.sound hrest
      refine ⟨hsound, by rw [List.map_cons, hmap], fun other address => ?_⟩
      rw [hlive, henabled.live]
      constructor
      · rintro ((h | ⟨rfl, rfl⟩) | ⟨e, he, hae⟩)
        · exact .inl h
        · exact .inr ⟨endpoint, List.mem_cons_self, rfl⟩
        · exact .inr ⟨e, List.mem_cons_of_mem _ he, hae⟩
      · rintro (h | ⟨e, he, rfl⟩)
        · exact .inl (.inl h)
        · rcases List.mem_cons.mp he with he | he
          · cases he
            exact .inl (.inr ⟨rfl, rfl⟩)
          · exact .inr ⟨e, he, rfl⟩

/-- A configuration is brought up once its endpoints are enabled: the rest cannot fail on a bus. -/
theorem does_bringUp_eq_ok {configuration : Configuration} {g g' : Gadget Bus P}
    {enabled : List (Endpoint × Handle)}
    (h : g.does (bringUp configuration) = (.ok enabled, g')) :
    ∃ g₁, g.does (enableAll configuration.endpoints) = (.ok enabled, g₁) ∧
      g' = g₁.withChannel
        ((g₁.bus.record (.vbusDraw configuration.maxPower)).record .configure) := by
  obtain ⟨enabled₁, g₁, henable, h⟩ := does_bind_eq_ok.mp h
  obtain ⟨⟨⟩, g₂, hvbus, h⟩ := does_bind_eq_ok.mp h
  obtain ⟨⟨⟩, g₃, hconfigure, h⟩ := does_bind_eq_ok.mp h
  cases h
  rw [does_call] at hvbus hconfigure
  obtain ⟨-, rfl⟩ := Prod.mk.inj hvbus
  obtain ⟨-, rfl⟩ := Prod.mk.inj hconfigure
  exact ⟨g₁, henable, rfl⟩

/-- A device bare of a roster that brings endpoints up has exactly these enabled. -/
theorem bringUp_live {configuration : Configuration} {g g' : Gadget Bus P}
    {enabled : List (Endpoint × Handle)} (hg : g.Bare)
    (h : g.does (bringUp configuration) = (.ok enabled, g')) :
    g'.bus.Sound ∧ enabled.map (·.1) = configuration.endpoints ∧ ∀ handle address,
      g'.bus.Live handle address ↔ ∃ e, (e, handle) ∈ enabled ∧ e.address = address := by
  obtain ⟨g₁, henable, rfl⟩ := does_bringUp_eq_ok h
  obtain ⟨hsound, hmap, hlive⟩ := enableAll_live hg.sound henable
  have hquenches : Bus.Quenches (fun _ => False) g₁.bus
      ((g₁.bus.record (.vbusDraw configuration.maxPower)).record .configure) :=
    Bus.quenches_of_pipes rfl
  refine ⟨hsound.of_quenches hquenches, hmap, fun handle address => ?_⟩
  constructor
  · intro h
    rcases (hlive handle address).mp (hquenches.fades h) with h | h
    · exact absurd h (hg.dead handle address)
    · exact h
  · exact fun h => hquenches.lasts ((hlive handle address).mpr (.inr h)) id

/-- A roster filled with all the endpoints that were brought up has every live handle. -/
theorem Bare.handle_of_enrolled {configuration : Configuration} {g g' : Gadget Bus P}
    {enabled : List (Endpoint × Handle)} {roster : Roster} (hg : g.Bare)
    (h : g.does (bringUp configuration) = (.ok enabled, g'))
    (hroster : Enrolled enabled .empty roster) {handle : Handle} {address : Address}
    (hl : g'.bus.Live handle address) : roster.handle? address = some handle := by
  obtain ⟨hsound, -, hlive⟩ := bringUp_live hg h
  -- the roster has some handle at this address, and only the newest pipe of an address is live
  obtain ⟨e, he, rfl⟩ := (hlive handle address).mp hl
  have hc := hroster.entered he
  rw [Roster.contains_eq_isSome] at hc
  obtain ⟨other, hother⟩ := Option.isSome_iff_exists.mp hc
  have hnewest := hsound.newest ((hlive other e.address).mpr (hroster.mem_of_handle? hother))
  rw [hsound.newest hl] at hnewest
  rw [Option.some.inj hnewest]
  exact hother

/-- A configuration whose endpoints are enabled and entered is consistent once it is selected. -/
theorem Bare.selected_kept {configuration : Configuration} {g g' : Gadget Bus P}
    {enabled : List (Endpoint × Handle)} {roster : Roster} {profile : P} {journal : Journal}
    (hg : g.Bare) (h : g.does (bringUp configuration) = (.ok enabled, g'))
    (hroster : Enrolled enabled g'.roster roster) (hvalue : configuration.value ≠ 0) :
    Kept { g' with
      profile, roster, journal, state := g'.state.select configuration.value,
      selected := some configuration } := by
  obtain ⟨hsound, hmap, hlive⟩ := bringUp_live hg h
  obtain ⟨channel, rfl⟩ := withChannel_of_bringUp h
  have hempty : (g.withChannel channel).roster = .empty := hg.roster
  rw [hempty] at hroster
  refine
    { configured := ?configured, selected := ?selected, value := ?value, rostered := ?rostered,
      enabled := ?enabled, known := ?known, wedged := ?wedged, halted := ?halted,
      alternates := ?alternates, sound := hsound }
  case configured =>
    simp [DeviceState.isConfigured, DeviceState.select, hvalue]
  case selected =>
    simp [DeviceState.select, hvalue]
  case value =>
    rintro c ⟨⟩
    rfl
  case rostered =>
    intro address
    have hcontains : roster.contains address = true ↔ ∃ e ∈ configuration.endpoints,
        e.address = address := by
      rw [hroster.contains_iff, ← hmap]
      simp
    constructor
    · intro hc
      obtain ⟨e, he, hae⟩ := hcontains.mp hc
      exact ⟨configuration, rfl, e, he, hae⟩
    · rintro ⟨c, hc, e, he, hae⟩
      cases hc
      exact hcontains.mpr ⟨e, he, hae⟩
  case enabled =>
    intro address handle hh
    exact (hlive handle address).mpr (hroster.mem_of_handle? hh)
  case known =>
    exact known_of_live hsound (hg.handle_of_enrolled h hroster)
  case wedged =>
    intro address hw
    have hw : g.wedged.contains address = true := hw
    rw [hg.wedged] at hw
    cases hw
  case halted =>
    exact fun hw => nomatch hw
  case alternates =>
    exact fun hw => nomatch hw

/-! ### Halts -/

/-- Halting an endpoint of the roster, or ending its halt, keeps the stores consistent if every wedged
endpoint is halted afterwards. -/
theorem Kept.setHalted {g : Gadget Bus P} (hg : g.Kept) {address : Address} {handle : Handle}
    {channel : Bus} {halted : Bool} {wedged : ByteSet}
    (hhandle : g.roster.handle? address = some handle)
    (hbus : Bus.Quenches (fun _ => False) g.bus channel)
    (hwedged : ∀ a, wedged.contains a = true →
      (g.state.setHalted address halted).halted.contains a = true) :
    Kept { g.withChannel channel with state := g.state.setHalted address halted, wedged } := by
  refine hg.of_frame hbus (fun _ => rfl) rfl rfl rfl hwedged ?_ (fun _ => hg.alternates)
  intro a ha
  cases halted with
  | true =>
      have ha : (g.state.halted.insert address ()).contains a = true := ha
      rw [ByteMap.contains_insert, Bool.or_eq_true, decide_eq_true_eq] at ha
      rcases ha with rfl | ha
      · rw [Roster.contains_eq_isSome, hhandle]
        rfl
      · exact hg.halted ha
  | false =>
      have ha : (g.state.halted.erase address).contains a = true := ha
      rw [ByteMap.contains_erase, Bool.and_eq_true] at ha
      exact hg.halted ha.2

/-- A halt does not end other halts. -/
theorem contains_setHalted {s : DeviceState} {address a : Address}
    (h : a = address ∨ s.halted.contains a = true) :
    (s.setHalted address true).halted.contains a = true := by
  show (s.halted.insert address ()).contains a = true
  rw [ByteMap.contains_insert, Bool.or_eq_true, decide_eq_true_eq]
  exact h

/-- The end of a halt is the end of that halt only. -/
theorem contains_setHalted_false {s : DeviceState} {address a : Address} (hne : a ≠ address)
    (h : s.halted.contains a = true) : (s.setHalted address false).halted.contains a = true := by
  show (s.halted.erase address).contains a = true
  rw [ByteMap.contains_erase, Bool.and_eq_true, decide_eq_false hne]
  exact ⟨rfl, h⟩

end Gadget

end UsbPeripheral
