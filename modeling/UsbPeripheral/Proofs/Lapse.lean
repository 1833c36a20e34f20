import UsbPeripheral.Profiles.Keyboard
import UsbPeripheral.Proofs.Suspension

/-! # Configurations that a device reports

Taking the roster down forgets which configuration is selected.  What the host sees of it is in the
state of the device, and that is only renewed if everything after it succeeds.  In between the device
is **stale**: it reports a configuration that it no longer has.  It also reports one too early: the
value is written into the state before the workers are started, and the configuration is remembered
only after that.

Every move has one of four **fates**.  It leaves the selection alone, it **lapses** it, which makes a
configured device stale, it **strands** the device with a configuration that it does not get, or it
**renews** the device, which ends that.  Whether a device is stale after a run follows from the fates of
its moves (`honest_after_iff`), whatever the channel and the device class. -/

namespace UsbPeripheral

/-- Whether a packet asks for the value of the selected configuration. -/
def Setup.AsksConfiguration (setup : Setup) : Prop :=
  setup.category = .standard ∧
    StandardRequest.ofCode? setup.request = some .getConfiguration ∧ setup.direction = .toHost

/-- The stage and the configuration value of a state agree. -/
def DeviceState.Agrees (s : DeviceState) : Prop := s.isConfigured = true ↔ s.configuration ≠ 0

theorem DeviceState.agrees_select (s : DeviceState) (value : UInt8) : (s.select value).Agrees := by
  unfold Agrees isConfigured select
  by_cases h : value = 0
  · simp [h]
  · simp [h]

theorem DeviceState.agrees_reset {base : Lifecycle} (h : base ≠ .configured) :
    (reset base).Agrees := by
  unfold Agrees isConfigured reset
  simp [h]

/-- What a move does to the selection. -/
inductive Fate where
  | untouched
  | lapsed
  | stranded
  | renewed
  deriving DecidableEq

namespace Gadget

variable {σ P : Type}

/-- The device is configured without a configuration. -/
def Stale (g : Gadget σ P) : Prop := g.selected = none ∧ g.state.isConfigured = true

/-! ### Fates -/

/-- The fate of a move that renews the device if it succeeds. -/
def fateOf {α : Type} (success failure : Fate) : Except DeviceError α → Fate
  | .ok _ => success
  | .error _ => failure

/-- What a fate means. -/
def Follows (g g' : Gadget σ P) : Fate → Prop
  | .untouched => g'.selected = g.selected ∧ g'.state.base = g.state.base ∧
      g'.state.configuration = g.state.configuration
  | .lapsed => g'.selected = none ∧ g'.state.base = g.state.base ∧
      g'.state.configuration = g.state.configuration
  | .stranded => Stale g' ∧ g'.state.Agrees
  | .renewed => ¬Stale g' ∧ g'.state.Agrees

/-- Only the selection and the state before matter. -/
theorem Follows.of_same {g₀ g g' : Gadget σ P} {f : Fate} (hselected : g₀.selected = g.selected)
    (hstate : g₀.state = g.state) (h : Follows g₀ g' f) : Follows g g' f := by
  unfold Follows at h ⊢
  rw [hselected, hstate] at h
  exact h

/-- What happens to the channel does not matter. -/
theorem Follows.withChannel {g g' : Gadget σ P} {f : Fate} (h : Follows g g' f) (channel : σ) :
    Follows g (g'.withChannel channel) f := by
  cases f <;> exact h

/-- A reset renews. -/
theorem follows_reset {g g' : Gadget σ P} {base : Lifecycle} (h : base ≠ .configured)
    (hstate : g'.state = .reset base) : Follows g g' .renewed := by
  have hagrees := DeviceState.agrees_reset h
  rw [← hstate] at hagrees
  refine ⟨?_, hagrees⟩
  rintro ⟨-, hconfigured⟩
  rw [hstate] at hconfigured
  exact h (eq_of_beq hconfigured)

theorem follows_halting {g : Gadget σ P} {address : Address}
    {operation : Handle → σ → Except DeviceError Unit × σ} {halted : Bool} {wedged : ByteSet}
    {outcome : Except DeviceError Bool × Gadget σ P}
    (h : Halting g address operation halted wedged outcome) :
    Follows g outcome.2 .untouched := by
  cases h <;> exact ⟨rfl, rfl, rfl⟩

section channel

variable [Channel σ]

/-- Stopping lapses the selection, whether it succeeds or fails. -/
theorem follows_stop (g : Gadget σ P) : Follows g (g.does stop).2 .lapsed := by
  obtain ⟨around, journal, h⟩ := does_stop_forgotten g
  rw [h]
  exact ⟨rfl, rfl, rfl⟩

theorem follows_served {g : Gadget σ P} {outcome : Except DeviceError (Reply P) × Gadget σ P}
    (h : Served g outcome) : Follows g outcome.2 .untouched := by
  cases h <;> exact ⟨rfl, rfl, rfl⟩

/-- The fate of a selection, by how far it gets: before it is written into the state a failure lapses
the one before, and after that it strands the device. -/
def selectionFate {α : Type} (g : Gadget σ P) (s : Selection) (result : Except DeviceError α) : Fate :=
  match (g.does s.prepare).1 with
  | .ok _ => fateOf .renewed .stranded result
  | .error _ => .lapsed

/-- What was noted before does not matter. -/
theorem selectionFate_noted {α : Type} (g : Gadget σ P) (journal : Journal) (s : Selection)
    (result : Except DeviceError α) :
    selectionFate { g with journal } s result = g.selectionFate s result := by
  have hsame : UpToSuspension g { g with journal } := ⟨g.state.suspended, journal, rfl⟩
  have hprepare : Agrees (fun _ => False) UpToSuspension g { g with journal } s.prepare :=
    hsame.prepare s
  unfold selectionFate
  rw [hprepare.result fun _ => id]

/-- What a selection does to the selection of a device. -/
theorem follows_selecting {g : Gadget σ P} {s : Selection}
    {outcome : Except DeviceError (Reply P) × Gadget σ P}
    (hvalue : ∀ value configuration, s = .pick value configuration → value ≠ 0)
    (h : Selecting g s outcome) : Follows g outcome.2 (g.selectionFate s outcome.1) := by
  have hstopped := follows_stop g
  unfold selectionFate
  cases h with
  | stuck hstop =>
      rw [prepare_of_stuck hstop]
      rw [hstop] at hstopped
      exact hstopped
  | @cleared exits g' journal hstop =>
      rw [prepare_clear hstop]
      refine ⟨?_, DeviceState.agrees_select g'.state 0⟩
      rintro ⟨-, hconfigured⟩
      cases hconfigured
  | @interrupted value configuration exits e g₁ g' hstop hup =>
      rw [prepare_pick hstop hup]
      obtain ⟨channel, rfl⟩ := withChannel_of_bringUp hup
      rw [hstop] at hstopped
      exact hstopped.withChannel channel
  | @selected value configuration exits enabled g₁ g₂ roster profile journal hstop hup _ =>
      rw [prepare_pick hstop hup]
      refine ⟨?_, DeviceState.agrees_select g₂.state value⟩
      rintro ⟨hselected, -⟩
      cases hselected
  | @unstarted value configuration exits enabled entered g₁ g₂ roster profile journal reason hstop hup
      _ _ =>
      rw [prepare_pick hstop hup]
      rw [hstop] at hstopped
      obtain ⟨channel, rfl⟩ := withChannel_of_bringUp hup
      have hagrees := DeviceState.agrees_select g₁.state value
      exact ⟨⟨hstopped.1, hagrees.mpr (hvalue value configuration rfl)⟩, hagrees⟩

/-- Carrying an answer out does not touch the selection. -/
theorem Follows.complete {g g' : Gadget σ P} {f : Fate} (h : Follows g g' f) (setup : Setup)
    (reply : Reply P) : Follows g (g'.does (Gadget.complete setup reply)).2 f := by
  obtain ⟨journal, hcomplete⟩ := does_complete g' setup reply
  rw [hcomplete]
  cases f <;> exact h

variable [DeviceProfile P]

theorem follows_renewal {g : Gadget σ P} {event : BusEvent} {base : Lifecycle}
    (h : event.renewal? = some base) :
    Follows g (g.does (handleEvent event)).2
      (fateOf .renewed .lapsed (g.does (handleEvent event)).1) := by
  have hhandling := handling g event
  rcases hdoes : g.does (handleEvent event) with ⟨result, g'⟩
  rw [hdoes] at hhandling
  cases hhandling with
  | unknown tag length journal => cases h
  | malformed tag length journal => cases h
  | suspended journal => cases h
  | resumed journal => cases h
  | stuck _ hstop =>
      have hlapsed := follows_stop ({ g with journal := g.journal.add [.event event] })
      rw [hstop] at hlapsed
      exact hlapsed.of_same rfl rfl
  | unchecked hstop _ =>
      have hlapsed := follows_stop ({ g with journal := g.journal.add [.event .connect] })
      rw [hstop] at hlapsed
      exact (hlapsed.withChannel _).of_same rfl rfl
  | renewed profile journal hbase _ _ => exact follows_reset (BusEvent.renewal?_ne hbase) rfl
  | unanswered _ => cases h
  | answered _ _ _ => cases h

/-- What answering a packet does to the selection. -/
theorem follows_answer (g : Gadget σ P) (setup : Setup) :
    Follows g (g.does (answer setup)).2
      (match selection? g.profile setup with
        | some s => g.selectionFate s (g.does (answer setup)).1
        | none => .untouched) := by
  obtain ⟨journal, h⟩ := answered g setup
  cases hselection : selection? g.profile setup with
  | none =>
      rw [hselection] at h
      exact (follows_served h).of_same rfl rfl
  | some s =>
      rw [hselection] at h
      have hvalue : ∀ value configuration, s = .pick value configuration → value ≠ 0 := by
        rintro value configuration rfl
        rcases selection?_cases hselection with ⟨hclear, -⟩ | ⟨found, hpick, hne, -⟩
        · cases hclear
        · rwa [(Selection.pick.inj hpick).1]
      have hfollows := follows_selecting hvalue h
      rw [selectionFate_noted] at hfollows
      exact hfollows.of_same rfl rfl

/-! ### Honest devices -/

/-- A device that has no configuration reports none. -/
def Honest (g : Gadget σ P) : Prop :=
  g.selected = none → g.state.isConfigured = false ∧
    ∀ setup : Setup, setup.AsksConfiguration → (g.does (answer setup)).1 = .ok (.send [0])

theorem does_answer_asksConfiguration (g : Gadget σ P) {setup : Setup}
    (h : setup.AsksConfiguration) :
    (g.does (answer setup)).1 = .ok (.send [g.state.configuration]) := by
  obtain ⟨hcategory, hrequest, hdirection⟩ := h
  rw [does_answer_standard g hcategory]
  unfold standard
  rw [hrequest]
  dsimp only
  rw [does_getConfiguration, if_pos hdirection]
  rfl

theorem honest_iff_not_stale {g : Gadget σ P} (h : g.state.Agrees) : Honest g ↔ ¬Stale g := by
  constructor
  · rintro hhonest ⟨hselected, hconfigured⟩
    rw [(hhonest hselected).1] at hconfigured
    cases hconfigured
  · intro hstale hselected
    have hconfigured : ¬g.state.isConfigured = true := fun hc => hstale ⟨hselected, hc⟩
    refine ⟨eq_false_of_ne_true hconfigured, fun setup hsetup => ?_⟩
    have hzero : g.state.configuration = 0 := Decidable.not_not.mp fun hne => hconfigured (h.mpr hne)
    rw [does_answer_asksConfiguration g hsetup, hzero]

/-! ### The fate of a move -/

/-- What an event does to the selection. -/
def eventFate (g : Gadget σ P) (event : BusEvent) : Fate :=
  match event with
  | .control setup =>
    match selection? g.profile setup with
    | some s => g.selectionFate s (g.answering setup).1
    | none => .untouched
  | event =>
    match event.renewal? with
    | some _ => fateOf .renewed .lapsed (g.does (handleEvent event)).1
    | none => .untouched

/-- What a move does to the selection. -/
def fate (g : Gadget σ P) : Move σ P → Fate
  | .start => fateOf .renewed .untouched (g.does start).1
  | .event event => g.eventFate event
  | .step =>
    match Channel.fetchEvent g.around.channel with
    | (.ok record, channel) => (g.withChannel channel).eventFate record.decode
    | (.error _, _) => .untouched
  | .stop => .lapsed
  | _ => .untouched

theorem follows_control (g : Gadget σ P) (setup : Setup) :
    Follows g (g.does (handleEvent (.control setup))).2 (g.eventFate (.control setup)) := by
  have hanswer : Follows g (g.answering setup).2 (g.eventFate (.control setup)) := by
    have hnoted := follows_answer (g.noted [.event (.control setup)]) setup
    simp only [noted, selectionFate_noted] at hnoted
    exact hnoted.of_same rfl rfl
  rw [does_handleEvent_control]
  rcases hanswering : g.answering setup with ⟨e | reply, g₁⟩
  · rw [hanswering] at hanswer
    exact hanswer
  · rw [hanswering] at hanswer
    exact hanswer.complete setup reply

theorem follows_event (g : Gadget σ P) (event : BusEvent) :
    Follows g (g.does (handleEvent event)).2 (g.eventFate event) := by
  cases event with
  | connect => exact follows_renewal rfl
  | control setup => exact follows_control g setup
  | suspend => exact ⟨rfl, rfl, rfl⟩
  | resume => exact ⟨rfl, rfl, rfl⟩
  | reset => exact follows_renewal rfl
  | disconnect => exact follows_renewal rfl
  | unknown tag length => exact ⟨rfl, rfl, rfl⟩
  | malformed tag length => exact ⟨rfl, rfl, rfl⟩

/-- **What a move does to the selection.** -/
theorem follows (g : Gadget σ P) (m : Move σ P) : Follows g (g.next m) (g.fate m) := by
  cases m with
  | start =>
      rw [next_start]
      unfold fate
      dsimp only
      obtain ⟨channel, journal, h | ⟨e, h⟩⟩ := does_start g
      · rw [h]
        exact follows_reset (show Lifecycle.powered ≠ .configured from nofun) rfl
      · rw [h]
        exact ⟨rfl, rfl, rfl⟩
  | event event => exact follows_event g event
  | step =>
      unfold fate
      rw [next_step, does_step]
      rcases Channel.fetchEvent g.around.channel with ⟨e | record, channel⟩
      · exact ⟨rfl, rfl, rfl⟩
      · exact (follows_event (g.withChannel channel) record.decode).of_same rfl rfl
  | stop =>
      rw [next_stop]
      exact follows_stop g
  | halt address =>
      rw [next_halt]
      exact follows_halting (halting_halt g address)
  | wedge address =>
      rw [next_wedge]
      exact follows_halting (halting_wedge g address)
  | unhalt address =>
      rw [next_unhalt]
      exact follows_halting (halting_unhalt g address)
  | work address =>
      obtain ⟨around, roster, journal, h, -⟩ := runWorker_within Calm.any 1 address g
      rw [next_work, h]
      exact ⟨rfl, rfl, rfl⟩
  | outside f => exact ⟨rfl, rfl, rfl⟩
  | stock f => exact ⟨rfl, rfl, rfl⟩
  | adjust f => exact ⟨rfl, rfl, rfl⟩
  | threads refusals => exact ⟨rfl, rfl, rfl⟩

/-! ### Runs -/

theorem agrees_next {g : Gadget σ P} (h : g.state.Agrees) (m : Move σ P) :
    (g.next m).state.Agrees := by
  have hsame : (g.next m).state.base = g.state.base →
      (g.next m).state.configuration = g.state.configuration → (g.next m).state.Agrees := by
    intro hbase hconfiguration
    unfold DeviceState.Agrees DeviceState.isConfigured
    rw [hbase, hconfiguration]
    exact h
  have hfollows := follows g m
  cases hfate : g.fate m with
  | untouched =>
      rw [hfate] at hfollows
      exact hsame hfollows.2.1 hfollows.2.2
  | lapsed =>
      rw [hfate] at hfollows
      exact hsame hfollows.2.1 hfollows.2.2
  | stranded =>
      rw [hfate] at hfollows
      exact hfollows.2
  | renewed =>
      rw [hfate] at hfollows
      exact hfollows.2

theorem agrees_after {g : Gadget σ P} (h : g.state.Agrees) (ms : List (Move σ P)) :
    (g.after ms).state.Agrees := by
  induction ms generalizing g with
  | nil => exact h
  | cons m ms ih => exact ih (agrees_next h m)

/-- A move takes a configured device's selection away, or strands the device. -/
def Loses (g : Gadget σ P) (m : Move σ P) : Prop :=
  g.fate m = .lapsed ∧ g.state.isConfigured = true ∨ g.fate m = .stranded

theorem stale_next (g : Gadget σ P) (m : Move σ P) :
    Stale (g.next m) ↔ g.fate m = .untouched ∧ Stale g ∨ g.Loses m := by
  unfold Loses
  have hfollows := follows g m
  cases hfate : g.fate m with
  | untouched =>
      rw [hfate] at hfollows
      obtain ⟨hselected, hbase, -⟩ := hfollows
      unfold Stale DeviceState.isConfigured
      rw [hselected, hbase]
      simp
  | lapsed =>
      rw [hfate] at hfollows
      obtain ⟨hselected, hbase, -⟩ := hfollows
      unfold Stale DeviceState.isConfigured
      rw [hselected, hbase]
      simp
  | stranded =>
      rw [hfate] at hfollows
      simp [hfollows.1]
  | renewed =>
      rw [hfate] at hfollows
      simp [hfollows.1]

/-- No move of a run renews the device. -/
def Unrenewed (g : Gadget σ P) : List (Move σ P) → Prop
  | [] => True
  | m :: ms => g.fate m ≠ .renewed ∧ Unrenewed (g.next m) ms

/-- Some move of a run loses the configuration that the device reports, and no move after it renews the
device. -/
def Lapses (g : Gadget σ P) (ms : List (Move σ P)) : Prop :=
  ∃ before m rest, ms = before ++ m :: rest ∧ (g.after before).Loses m ∧
    ((g.after before).next m).Unrenewed rest

theorem lapses_cons (g : Gadget σ P) (m : Move σ P) (ms : List (Move σ P)) :
    g.Lapses (m :: ms) ↔ g.Loses m ∧ (g.next m).Unrenewed ms ∨ (g.next m).Lapses ms := by
  constructor
  · rintro ⟨before, n, rest, hms, hloses, hrest⟩
    cases before with
    | nil =>
        obtain ⟨rfl, rfl⟩ := List.cons.inj hms
        exact .inl ⟨hloses, hrest⟩
    | cons n' before =>
        obtain ⟨rfl, rfl⟩ := List.cons.inj hms
        exact .inr ⟨before, n, rest, rfl, hloses, hrest⟩
  · rintro (⟨hloses, hrest⟩ | ⟨before, n, rest, rfl, hloses, hrest⟩)
    · exact ⟨[], m, ms, rfl, hloses, hrest⟩
    · exact ⟨m :: before, n, rest, rfl, hloses, hrest⟩

/-- A device is stale after a run if it was before and nothing renewed it, or if the run lapses. -/
theorem stale_after (g : Gadget σ P) (ms : List (Move σ P)) :
    Stale (g.after ms) ↔ Stale g ∧ g.Unrenewed ms ∨ g.Lapses ms := by
  induction ms generalizing g with
  | nil =>
      constructor
      · exact fun h => .inl ⟨h, trivial⟩
      · rintro (⟨h, -⟩ | ⟨before, m, rest, h, -⟩)
        · exact h
        · cases before <;> cases h
  | cons m ms ih =>
      -- a loss of `m` itself makes the next device stale, whatever this one was
      show Stale ((g.next m).after ms) ↔ Stale g ∧ (g.fate m ≠ .renewed ∧ _) ∨ _
      rw [ih, lapses_cons, stale_next]
      constructor
      · rintro (⟨⟨hfate, hstale⟩ | hloses, hrest⟩ | h)
        · exact .inl ⟨hstale, by simp [hfate], hrest⟩
        · exact .inr (.inl ⟨hloses, hrest⟩)
        · exact .inr (.inr h)
      · rintro (⟨hstale, hfate, hrest⟩ | ⟨hloses, hrest⟩ | h)
        · refine .inl ⟨?_, hrest⟩
          cases hm : g.fate m with
          | untouched => exact .inl ⟨rfl, hstale⟩
          | lapsed => exact .inr (.inl ⟨hm, hstale.2⟩)
          | stranded => exact .inr (.inr hm)
          | renewed => exact absurd hm hfate
        · exact .inl ⟨.inr hloses, hrest⟩
        · exact .inr h

/-- **When a device is honest.**  After any run of a new device, failing calls included, it reports no
configuration that it does not have, unless a configured device lapsed, or a device was stranded by a
worker that got no thread, and nothing renewed it since. -/
theorem honest_after_iff (channel : σ) (depot : Depot) (profile : P) (settings : Settings)
    (ms : List (Move σ P)) :
    Honest ((Gadget.new channel depot profile settings).after ms) ↔
      ¬(Gadget.new channel depot profile settings).Lapses ms := by
  have hnew : (Gadget.new channel depot profile settings).state.Agrees :=
    DeviceState.agrees_reset (show Lifecycle.unattached ≠ .configured from nofun)
  have hfresh : ¬Stale (Gadget.new channel depot profile settings) := by
    rintro ⟨-, h⟩
    cases h
  rw [honest_iff_not_stale (agrees_after hnew ms), stale_after]
  constructor
  · exact fun h hlapses => h (.inr hlapses)
  · rintro h (⟨hstale, -⟩ | hlapses)
    · exact hfresh hstale
    · exact h hlapses

end channel

/-- A keyboard whose worker gets no thread has no configuration, and reports one. -/
example :
    let g := (Gadget.new Bus.idle Keyboard.depot Keyboard.new .standard).after
      [.start, .event .connect, .threads (ByteMap.empty.insert Keyboard.reportAddress "no thread"),
        .event (.control (.select 1))]
    g.selected = none ∧ g.state.isConfigured = true := by decide +kernel

/-- A device that is stopped while it is configured still reports its configuration. -/
theorem stopped_not_honest :
    ¬Honest ((Gadget.new Bus.idle {} PlainDevice.twoWay .standard).after
      [.start, .event .connect, .event (.control (.select 1)), .stop]) := by
  generalize hg : (Gadget.new Bus.idle {} PlainDevice.twoWay .standard).after
    [.start, .event .connect, .event (.control (.select 1)), .stop] = g
  have hselected : g.selected = none := by
    subst hg
    decide +kernel
  have hconfigured : g.state.isConfigured = true := by
    subst hg
    decide +kernel
  intro h
  rw [(h hselected).1] at hconfigured
  cases hconfigured

end Gadget

end UsbPeripheral
