import UsbPeripheral.Profiles.Declared
import UsbPeripheral.Proofs.Consistency
import UsbPeripheral.Proofs.Moves

/-! # Devices in service

A device **in service** is one that was started on a new bus and sees events, halts, the steps of its
workers and whatever its host does.  Every successful move of such a device keeps its stores consistent
(`Kept.next`), and so does every run without a failure (`consistent_after`).

The proof follows the roster through its life: only taking it down and selecting a configuration touch
it, and everything else is a change aside of the configuration or the halt of an endpoint that is in
the roster. -/

namespace UsbPeripheral

namespace Gadget

variable {P : Type}

/-! ### Operations that leave the pipes alone -/

theorem quenches_of_perform {b b' : Bus} {p : Performed} {result : Except DeviceError Unit}
    (h : Bus.perform p b = (result, b')) : Bus.Quenches (fun _ => False) b b' := by
  obtain ⟨-, rfl⟩ := Prod.mk.inj h
  exact Bus.quenches_of_pipes rfl

theorem quenches_fetchEvent (b : Bus) : Bus.Quenches (fun _ => False) b b.fetchEvent.2 := by
  unfold Bus.fetchEvent
  split
  · exact Bus.quenches_of_pipes rfl
  · exact .refl b

/-- Endpoint 0 has no pipe. -/
theorem pipes_operate (s : Stage) (b : Bus) : (s.operate b).2.pipes = b.pipes := by
  cases s with
  | write data => rfl
  | read room =>
      show (b.ep0Read room).2.pipes = b.pipes
      unfold Bus.ep0Read
      split
      · split <;> rfl
      · rfl
  | stall => rfl

theorem quenches_operate (s : Stage) (b : Bus) :
    Bus.Quenches (fun _ => False) b (s.operate b).2 := Bus.quenches_of_pipes (pipes_operate s b)

/-! ### Halts on behalf of the device class -/

/-- The device class can halt, wedge and free endpoints. -/
theorem Kept.halting {g : Gadget Bus P} (hg : g.Kept) {address : Address}
    {operation : Handle → Bus → Except DeviceError Unit × Bus} {halted : Bool} {wedged : ByteSet}
    (hoperation : ∀ handle b, Bus.Quenches (fun _ => False) b (operation handle b).2)
    (hwedged : ∀ a, wedged.contains a = true →
      (g.state.setHalted address halted).halted.contains a = true)
    {outcome : Except DeviceError Bool × Gadget Bus P}
    (h : Halting g address operation halted wedged outcome) : outcome.2.Kept := by
  cases h with
  | absent _ => exact hg
  | @done handle channel hhandle hcall =>
      have hbus := hoperation handle g.around.channel
      rw [hcall] at hbus
      exact hg.setHalted hhandle hbus hwedged
  | @failed handle e channel hcall =>
      have hbus := hoperation handle g.around.channel
      rw [hcall] at hbus
      exact hg.elsewhere hbus

/-! ### Requests -/

theorem Kept.noted {g : Gadget Bus P} (hg : g.Kept) (journal : Journal) :
    Kept { g with journal } :=
  hg.elsewhere (.refl _)

theorem Kept.served {g : Gadget Bus P} (hg : g.Kept)
    {outcome : Except DeviceError (Reply P) × Gadget Bus P} (h : Served g outcome) :
    outcome.2.Kept := by
  have hsame : ∀ {channel : Bus}, Bus.Quenches (fun _ => False) g.bus channel →
      (g.withChannel channel).Kept := fun hbus => hg.elsewhere hbus
  cases h with
  | kept reply profile journal => exact hg.elsewhere (.refl _)
  | waking wakeup => exact hg.elsewhere (.refl _)
  | @alternated interface alternate profile hinterface =>
      refine hg.of_frame (.refl _) (fun _ => rfl) rfl rfl rfl (fun _ => hg.wedged)
        (fun _ => hg.halted) ?_
      intro i hi
      have hi : (g.state.alternates.insert interface alternate).contains i = true := hi
      rw [ByteMap.contains_insert, Bool.or_eq_true, decide_eq_true_eq] at hi
      rcases hi with rfl | hi
      · unfold hasInterface at hinterface
        rw [Bool.and_eq_true, Option.any_eq_true] at hinterface
        obtain ⟨-, c, hc, hcontains⟩ := hinterface
        exact ⟨c, hc, List.contains_iff_mem.mp hcontains⟩
      · exact hg.alternates hi
  | halted hhandle hcall =>
      exact hg.setHalted hhandle (quenches_of_perform hcall)
        (fun a ha => contains_setHalted (.inr (hg.wedged ha)))
  | @resumed address handle channel hhandle hfree hcall =>
      refine hg.setHalted hhandle (quenches_of_perform hcall) (fun a ha => ?_)
      refine contains_setHalted_false ?_ (hg.wedged ha)
      rintro rfl
      exact absurd (hfree.symm.trans ha) Bool.false_ne_true
  | unhalted hcall => exact hsame (quenches_of_perform hcall)
  | unresumed hcall => exact hsame (quenches_of_perform hcall)

section device

variable [DeviceProfile P]

/-- The device class finds its configurations by their values. -/
def FindsByValue (P : Type) [DeviceProfile P] : Prop :=
  ∀ (p : P) (value : UInt8), DeviceProfile.configuration? p value =
    (DeviceProfile.configurations p).find? (·.value == value)

/-- What is selected by a value other than 0 has that value. -/
theorem value_of_pick (hP : FindsByValue P) {p : P} {setup : Setup} {value : UInt8}
    {configuration : Configuration}
    (h : selection? p setup = some (.pick value configuration)) :
    configuration.value = value ∧ value ≠ 0 := by
  unfold selection? at h
  split at h
  · dsimp only at h
    split at h
    · cases h
    · rename_i hvalue
      obtain ⟨c, hc, hpick⟩ := Option.map_eq_some_iff.mp h
      cases hpick
      rw [hP] at hc
      have hfound := List.find?_some hc
      exact ⟨eq_of_beq hfound, hvalue⟩
  · cases h

theorem Kept.answered (hP : FindsByValue P) {g g' : Gadget Bus P} (hg : g.Kept) {setup : Setup}
    {reply : Reply P} (h : g.does (answer setup) = (.ok reply, g')) : g'.Kept := by
  obtain ⟨journal, hanswered⟩ := Gadget.answered g setup
  rw [h] at hanswered
  split at hanswered
  · rename_i s hselection
    cases hanswered with
    | cleared journal' hstop =>
        have hbare := bare_stop (hg.noted journal) hstop
        exact hbare.elsewhere.kept rfl rfl rfl rfl
    | selected profile journal' hstop hup hroster =>
        obtain ⟨rfl, hvalue⟩ := value_of_pick hP hselection
        exact (bare_stop (hg.noted journal) hstop).selected_kept hup hroster hvalue
  · have hserved := (hg.noted journal).served hanswered
    exact hserved

/-! ### Events and moves -/

theorem Kept.handled (hP : FindsByValue P) {g g' : Gadget Bus P} (hg : g.Kept) {event : BusEvent}
    (h : g.does (handleEvent event) = (.ok (), g')) : g'.Kept := by
  have hhandling := handling g event
  rw [h] at hhandling
  have hnoted := hg.noted (g.journal.add [.event event])
  generalize hresult : (Except.ok () : Except DeviceError Unit) = result at hhandling
  cases hhandling with
  | unknown tag length journal => exact hg.noted journal
  | malformed tag length journal => exact hg.noted journal
  | suspended journal => exact hg.elsewhere (.refl _)
  | resumed journal => exact hg.elsewhere (.refl _)
  | stuck _ _ => cases hresult
  | unchecked _ _ => cases hresult
  | @renewed _ base exits g₁ channel profile journal hbase hstop hchannel =>
      have hbare := bare_stop hnoted hstop
      have hconfigured : (DeviceState.reset base).isConfigured = false :=
        beq_eq_false_iff_ne.mpr (BusEvent.renewal?_ne hbase)
      obtain rfl : channel = g₁.around.channel := Bus.eq_of_looked hchannel
      exact hbare.elsewhere.kept hconfigured rfl rfl rfl
  | unanswered _ => cases hresult
  | @answered setup reply g₁ profile journal hanswer =>
      have hanswered := hnoted.answered hP hanswer
      exact hanswered.elsewhere (quenches_operate _ _)

/-- A move of a device in service: the device is neither started nor stopped, and its bus is changed
from outside by its host only. -/
def InService : Move Bus P → Prop
  | .start | .stop => False
  | .outside f => ∃ a : HostAct, f = a.apply
  | _ => True

/-- Fetching an event touches no pipe, and what is fetched is handled. -/
theorem Kept.stepped (hP : FindsByValue P) {g g' : Gadget Bus P} (hg : g.Kept) {event : BusEvent}
    (h : g.does Gadget.step = (.ok event, g')) : g'.Kept := by
  have hfetch := quenches_fetchEvent g.bus
  rw [does_step] at h
  rcases hfetched : Channel.fetchEvent g.around.channel with ⟨e | record, channel⟩
  · rw [hfetched] at h
    cases h
  · rw [hfetched] at h
    rw [show g.bus.fetchEvent = _ from hfetched] at hfetch
    have hg₁ : (g.withChannel channel).Kept := hg.elsewhere hfetch
    obtain ⟨hresult, rfl⟩ := Prod.mk.inj h
    rcases hhandled : (g.withChannel channel).does (handleEvent record.decode) with ⟨e | ⟨⟩, g₂⟩
    · rw [hhandled] at hresult
      cases hresult
    · exact hg₁.handled hP hhandled

/-- **Every successful move of a device in service keeps its stores consistent.** -/
theorem Kept.next (hP : FindsByValue P) {g : Gadget Bus P} {m : Move Bus P} (hg : g.Kept)
    (hm : InService m) (hok : (g.does m.dispatch).1 = .ok ()) : (g.next m).Kept := by
  have hdoes : g.does m.dispatch = (.ok (), g.next m) := Prod.ext hok rfl
  have hoperation : ∀ p b, Bus.Quenches (fun _ => False) b (Bus.perform p b).2 :=
    fun _ _ => Bus.quenches_of_pipes rfl
  cases m with
  | start => exact absurd hm id
  | event event => exact hg.handled hP hdoes
  | step =>
      obtain ⟨event, hstep⟩ := ok_of_dropped hdoes
      exact hg.stepped hP hstep
  | stop => exact absurd hm id
  | halt address =>
      rw [next_halt]
      refine hg.halting (fun _ => hoperation _) ?_ (halting_halt g address)
      exact fun a ha => contains_setHalted (.inr (hg.wedged ha))
  | wedge address =>
      rw [next_wedge]
      refine hg.halting (fun _ => hoperation _) ?_ (halting_wedge g address)
      intro a ha
      have ha : (g.wedged.insert address ()).contains a = true := ha
      rw [ByteMap.contains_insert, Bool.or_eq_true, decide_eq_true_eq] at ha
      exact contains_setHalted (ha.imp_right hg.wedged)
  | unhalt address =>
      rw [next_unhalt]
      refine hg.halting (fun _ => hoperation _) ?_ (halting_unhalt g address)
      intro a ha
      rw [ByteMap.contains_erase, Bool.and_eq_true, Bool.not_eq_true', decide_eq_false_iff_not]
        at ha
      exact contains_setHalted_false ha.1 (hg.wedged ha.2)
  | work address =>
      obtain ⟨around, roster, journal, hwork, hquenches, hroster⟩ :=
        runWorker_within Bus.calm_quenches 1 address g
      rw [next_work, hwork]
      exact hg.of_frame hquenches hroster rfl rfl rfl (fun _ => hg.wedged) (fun _ => hg.halted)
        (fun _ => hg.alternates)
  | outside f =>
      obtain ⟨a, rfl⟩ := hm
      exact hg.elsewhere (a.quenches g.bus)
  | stock f =>
      exact hg.elsewhere (.refl _)
  | adjust f =>
      exact hg.elsewhere (.refl _)
  | threads refusals =>
      exact hg.of_frame (.refl _) (fun _ => rfl) rfl rfl rfl (fun _ => hg.wedged) (fun _ => hg.halted)
        (fun _ => hg.alternates)

/-- A new device on a new bus is consistent once it is started. -/
theorem kept_start (udc : List UdcEndpoint) (depot : Depot) (profile : P) (settings : Settings) :
    ((Gadget.new ({ udc } : Bus) depot profile settings).next .start).Kept := by
  have hpipes : ((Gadget.new ({ udc } : Bus) depot profile settings).next .start).bus.pipes = [] :=
    rfl
  exact Bare.kept
    ⟨Bus.sound_of_nil hpipes, Bus.dead_of_nil hpipes, rfl, rfl, rfl⟩ rfl rfl rfl rfl

/-- **The stores of a device in service are consistent.**  This holds after every run without a failure
that begins with the start of a new device on a new bus. -/
theorem consistent_after (hP : FindsByValue P) (udc : List UdcEndpoint) (depot : Depot)
    (profile : P) (settings : Settings) {ms : List (Move Bus P)} (hservice : ∀ m ∈ ms, InService m)
    (hsmooth : (Gadget.new ({ udc } : Bus) depot profile settings).Smooth (.start :: ms)) :
    ((Gadget.new ({ udc } : Bus) depot profile settings).after (.start :: ms)).Consistent := by
  have hstart := kept_start udc depot profile settings
  have hkept := after_keeps (fun g m hg hm hok => Kept.next hP hg hm hok) hstart hservice hsmooth.2
  exact hkept.toConsistent

end device

/-- A device with two endpoints. -/
def twoWayNew : Gadget Bus PlainDevice :=
  Gadget.new ({ udc := Bus.standardUdc } : Bus) {} .twoWay .standard

/-- A run in which the device is configured and halted, and in which its host sends data. -/
def twoWayRun : List (Move Bus PlainDevice) :=
  [.event .connect, .event (.control (.select 1)), .wedge 129, .halt 2,
    .outside (HostAct.apply (.send 2 [7])), .work 2]

theorem twoWayRun_smooth : twoWayNew.Smooth (.start :: twoWayRun) := by decide +kernel

/-- The device is configured after this run, and consistent. -/
theorem twoWay_consistent :
    (twoWayNew.after (.start :: twoWayRun)).state.configuration = 1 ∧
      (twoWayNew.after (.start :: twoWayRun)).Consistent := by
  have hservice : ∀ m ∈ twoWayRun, InService m := by
    simp only [twoWayRun, List.mem_cons, List.not_mem_nil, or_false, forall_eq_or_imp, forall_eq]
    exact ⟨trivial, trivial, trivial, trivial, ⟨_, rfl⟩, trivial⟩
  have hconfiguration : (twoWayNew.after (.start :: twoWayRun)).state.configuration = 1 := by
    decide +kernel
  have hconsistent := consistent_after (fun _ _ => rfl) Bus.standardUdc {} PlainDevice.twoWay
    .standard hservice twoWayRun_smooth
  exact ⟨hconfiguration, hconsistent⟩

end Gadget

end UsbPeripheral
