import UsbPeripheral.Proofs.Moves
import UsbPeripheral.Proofs.Refusal

/-! # What a host can read of a device

The **outlook** of a device is what its host can read of it by standard requests and can change by
standard requests: the value of the configuration, the configuration itself with its interfaces, their
alternate settings, and the remote wakeup.

What a host asks to be changed is a **wish**.  A wish that is granted changes the outlook as it says,
a connect, a reset and a disconnect leave a fresh one, and no other event changes anything
(`outlook_handled`). -/

namespace UsbPeripheral

/-- What a host asks to be changed. -/
inductive Wish where
  | select (value : UInt8)
  | alternate (interface alternate : UInt8)
  | wakeup (allowed : Bool)
  deriving DecidableEq

/-- What a packet asks to be changed. -/
def Setup.wish? (setup : Setup) : Option Wish :=
  if setup.category = .standard then
    match StandardRequest.ofCode? setup.request with
    | some .setConfiguration => some (.select (Bytes.low setup.value))
    | some .setInterface => some (.alternate (Bytes.low setup.index) (Bytes.low setup.value))
    | some .setFeature => if setup.feature? = some .remoteWakeup then some (.wakeup true) else none
    | some .clearFeature => if setup.feature? = some .remoteWakeup then some (.wakeup false) else none
    | _ => none
  else none

/-- What an event asks to be changed. -/
def BusEvent.wish? : BusEvent → Option Wish
  | .control setup => setup.wish?
  | _ => none

/-- What a host can read of a device. -/
structure Outlook where
  /-- The value of the configuration, 0 for none. -/
  configuration : UInt8 := 0
  /-- The configuration whose interfaces are there. -/
  selected : Option Configuration := none
  /-- The alternate settings, 0 where none was selected. -/
  alternate : UInt8 → UInt8 := fun _ => 0
  wakeup : Bool := false

namespace Outlook

/-- The outlook of a device that its host has asked for nothing. -/
def fresh : Outlook := {}

variable {P : Type} [DeviceProfile P]

/-- The outlook after a wish was granted by a device of the class `p`. -/
def obey (p : P) (o : Outlook) : Wish → Outlook
  | .select value =>
    { o with
      configuration := value
      selected := if value = 0 then none else DeviceProfile.configuration? p value
      alternate := fun _ => 0 }
  | .alternate interface alternate =>
    { o with alternate := fun i => if i = interface then alternate else o.alternate i }
  | .wakeup allowed => { o with wakeup := allowed }

/-- The outlook after an event, in whose course endpoint 0 was stalled or not. -/
def meet (p : P) (event : BusEvent) (stalled : Bool) (o : Outlook) : Outlook :=
  if event.renewal?.isSome then fresh
  else if stalled then o
  else event.wish?.elim o (o.obey p)

end Outlook

theorem DeviceState.alternate_setAlternate (s : DeviceState) (interface alternate i : UInt8) :
    (s.setAlternate interface alternate).alternate i =
      if i = interface then alternate else s.alternate i := by
  unfold DeviceState.alternate setAlternate
  rw [ByteMap.get?_insert]
  split <;> rfl

namespace Gadget

variable {σ P : Type}

/-- What the host can read of a device. -/
def outlook (g : Gadget σ P) : Outlook where
  configuration := g.state.configuration
  selected := if g.state.isConfigured then g.selected else none
  alternate := g.state.alternate
  wakeup := g.state.remoteWakeup

theorem hasInterface_eq_any (g : Gadget σ P) (interface : UInt8) :
    g.hasInterface interface = g.outlook.selected.any (·.interfaces.contains interface) := by
  unfold hasInterface outlook
  cases g.state.isConfigured with
  | true => rfl
  | false => rfl

theorem outlook_reset {g : Gadget σ P} {base : Lifecycle} (h : base ≠ .configured)
    (hstate : g.state = .reset base) : g.outlook = .fresh := by
  unfold outlook
  rw [hstate]
  have hconfigured : (DeviceState.reset base).isConfigured = false := by
    simp [DeviceState.isConfigured, DeviceState.reset, h]
  rw [hconfigured]
  rfl

/-! ### Wishes that are granted -/

section profile

variable [DeviceProfile P]

/-- A request that is not refused grants a wish, or changes nothing if it is `none`. -/
def Grants (g : Gadget σ P) (wish : Option Wish) (outcome : Except DeviceError (Reply P) × Gadget σ P) :
    Prop :=
  ∀ reply, outcome.1 = .ok reply → reply ≠ .stall →
    outcome.2.outlook = wish.elim g.outlook (g.outlook.obey g.profile)

theorem Grants.of_same {g : Gadget σ P} {outcome : Except DeviceError (Reply P) × Gadget σ P}
    (h : outcome.2.outlook = g.outlook) : Grants g none outcome := fun _ _ _ => h

theorem Grants.of_stall {g g' : Gadget σ P} {wish : Option Wish} :
    Grants g wish (.ok .stall, g') := by
  intro reply h hne
  exact absurd (Except.ok.inj h).symm hne

theorem grants_getDescriptor (g : Gadget σ P) (setup : Setup) :
    Grants g none (g.does (getDescriptor setup)) := by
  obtain ⟨journal, h⟩ := does_getDescriptor g setup
  rw [h]
  exact .of_same rfl

theorem grants_setInterface (g : Gadget σ P) (setup : Setup) :
    Grants g (some (.alternate (Bytes.low setup.index) (Bytes.low setup.value)))
      (g.does (setInterface setup)) := by
  rw [does_setInterface]
  split
  · dsimp only
    split
    · intro reply _ _
      unfold outlook
      simp only [Option.elim, Outlook.obey]
      congr 1
      exact funext (DeviceState.alternate_setAlternate g.state _ _)
    · exact .of_stall
  · exact .of_stall

variable [Channel σ]

omit [DeviceProfile P] in
/-- Halts are not in the outlook. -/
theorem outlook_hostHalt (g : Gadget σ P) (address : Address) (set : Bool) :
    (g.does (hostHalt address set)).2.outlook = g.outlook := by
  unfold hostHalt
  split
  · rfl
  · rw [does_get_bind]
    cases g.roster.handle? address with
    | none => rfl
    | some handle =>
        dsimp only
        split
        · rw [does_bind, does_call]
          rcases Channel.setHalt handle g.around.channel with ⟨e | ⟨⟩, channel⟩ <;> rfl
        · split
          · rfl
          · rw [does_bind, does_call]
            rcases Channel.clearHalt handle g.around.channel with ⟨e | ⟨⟩, channel⟩ <;> rfl

theorem grants_feature (g : Gadget σ P) (setup : Setup) (set : Bool) :
    Grants g (if setup.feature? = some .remoteWakeup then some (.wakeup set) else none)
      (g.does (feature setup set)) := by
  rw [does_feature]
  by_cases hdirection : setup.direction = .toDevice
  · rw [if_pos hdirection]
    cases setup.feature? with
    | none => exact .of_stall
    | some f =>
        cases f with
        | remoteWakeup => exact fun _ _ _ => rfl
        | endpointHalt => exact .of_same (outlook_hostHalt g _ set)
  · rw [if_neg hdirection]
    exact .of_stall

omit [Channel σ] in
/-- A state that selects a value has the outlook of that value, if the selected configuration is what
the value stands for. -/
theorem outlook_select {g g' : Gadget σ P} {p : P} {value : UInt8}
    (hstate : g'.state = g.state.select value)
    (hselected : g'.selected =
      if value = 0 then none else DeviceProfile.configuration? p value) :
    g'.outlook = g.outlook.obey p (.select value) := by
  unfold outlook
  rw [hstate, hselected]
  by_cases hvalue : value = 0
  · rw [if_pos hvalue, ite_self]
    simp only [Outlook.obey, if_pos hvalue]
    rfl
  · have hconfigured : (g.state.select value).isConfigured = true := by
      simp [DeviceState.isConfigured, DeviceState.select, hvalue]
    rw [hconfigured, if_pos rfl]
    rfl

theorem grants_setConfiguration {g : Gadget σ P} {setup : Setup}
    (hcarries : setup.Carries .setConfiguration setup.direction) :
    Grants g (some (.select (Bytes.low setup.value))) (g.does (setConfiguration setup)) := by
  cases hselection : selection? g.profile setup with
  | none =>
      obtain ⟨journal, h⟩ := refused_setConfiguration hcarries hselection
      rw [h]
      exact .of_stall
  | some s =>
      obtain ⟨around, journal, hstopped⟩ := does_stop_forgotten g
      have hselecting := selecting_setConfiguration hselection
      have hvalue := selection?_cases hselection
      generalize g.does (setConfiguration setup) = outcome at hselecting ⊢
      intro reply hreply _
      cases hselecting with
      | stuck _ => cases hreply
      | interrupted _ _ => cases hreply
      | unstarted _ _ _ _ _ _ _ => cases hreply
      | cleared journal' hstop =>
          rw [hstop] at hstopped
          obtain rfl := hstopped
          rcases hvalue with ⟨-, hzero⟩ | ⟨configuration, hpick, -⟩
          · exact outlook_select (congrArg g.state.select hzero.symm) (if_pos hzero).symm
          · cases hpick
      | @selected value configuration exits enabled g₁ g₂ roster profile journal' hstop hup _ =>
          obtain ⟨channel, rfl⟩ := withChannel_of_bringUp hup
          rw [hstop] at hstopped
          obtain rfl : g₁ = { g.forgotten with around, journal } := hstopped
          rcases hvalue with ⟨hclear, -⟩ | ⟨found, hpick, hne, hfound⟩
          · cases hclear
          · obtain ⟨rfl, rfl⟩ := Selection.pick.inj hpick
            refine outlook_select rfl ?_
            rw [if_neg hne, hfound]

/-- A standard request that is not refused grants what it asks for. -/
theorem grants_standard {g : Gadget σ P} {setup : Setup} (hstandard : setup.category = .standard) :
    Grants g setup.wish? (g.does (standard setup)) := by
  unfold standard Setup.wish?
  rw [if_pos hstandard]
  cases hrequest : StandardRequest.ofCode? setup.request with
  | none => exact .of_stall
  | some request =>
      cases request with
      | getStatus => exact .of_same (by rw [does_getStatus])
      | clearFeature => exact grants_feature g setup false
      | setFeature => exact grants_feature g setup true
      | getDescriptor => exact grants_getDescriptor g setup
      | getConfiguration => exact .of_same (by rw [does_getConfiguration])
      | setConfiguration => exact grants_setConfiguration ⟨hstandard, hrequest, rfl⟩
      | getInterface => exact .of_same (by rw [does_getInterface])
      | setInterface => exact grants_setInterface g setup
      | setAddress => exact .of_stall
      | setDescriptor => exact .of_stall
      | synchFrame => exact .of_stall

/-! ### Events -/

/-- Handlers of the device class reach nothing but the device class and the journal. -/
theorem does_answer_routed (g : Gadget σ P) {setup : Setup} (h : setup.category ≠ .standard) :
    ∃ reply profile journal, g.does (answer setup) = (.ok reply, { g with profile, journal }) := by
  unfold answer
  split
  · rename_i hstandard
    exact absurd hstandard h
  · rw [does_get_bind]
    split
    · exact ⟨_, _, _, rfl⟩
    · exact ⟨_, _, _, rfl⟩

theorem outlook_answering_routed (g : Gadget σ P) {setup : Setup} (h : setup.category ≠ .standard) :
    (g.answering setup).2.outlook = g.outlook := by
  obtain ⟨reply, profile, journal, hanswer⟩ :=
    does_answer_routed (g.noted [.event (.control setup)]) h
  unfold answering
  rw [hanswer]
  rfl

/-- A refusal changes no outlook. -/
theorem outlook_answering_refused {g g' : Gadget σ P} {setup : Setup}
    (hstandard : setup.category = .standard) (h : g.answering setup = (.ok .stall, g')) :
    g'.outlook = g.outlook := by
  have hsettled := settled_answering (g := g) hstandard
  rw [h] at hsettled
  cases hsettled with
  | refused _ _ _ => rfl

omit [DeviceProfile P] in
/-- Carrying an answer out changes no outlook. -/
theorem outlook_complete (g : Gadget σ P) (setup : Setup) (reply : Reply P) :
    (g.does (complete setup reply)).2.outlook = g.outlook := by
  obtain ⟨journal, h⟩ := does_complete g setup reply
  rw [h]
  rfl

/-- What a packet makes of the outlook. -/
theorem outlook_control {g g' : Gadget (Traced σ) P} {setup : Setup} {calls : List Call}
    (h : g.does (handleEvent (.control setup)) = (.ok (), g'))
    (hcalls : g'.calls = g.calls ++ calls) :
    g'.outlook = g.outlook.meet g.profile (.control setup) (calls.any Call.isStall) := by
  have hmeet : g.outlook.meet g.profile (.control setup) (calls.any Call.isStall) =
      if calls.any Call.isStall then g.outlook
      else setup.wish?.elim g.outlook (g.outlook.obey g.profile) := rfl
  have hhandled := h
  rw [does_handleEvent_control] at h
  rcases hanswer : g.answering setup with ⟨e | reply, g₁⟩
  · rw [hanswer] at h
    cases h
  · rw [hanswer] at h
    have houtlook : g'.outlook = g₁.outlook := by
      have h : g₁.does (complete setup reply) = (.ok (), g') := h
      rw [← outlook_complete g₁ setup reply, h]
    rw [hmeet, houtlook]
    by_cases hstandard : setup.category = .standard
    · have hstalled := any_isStall_iff hstandard hhandled hcalls
      rw [hanswer] at hstalled
      by_cases hreply : reply = .stall
      · subst hreply
        rw [if_pos (hstalled.mpr rfl)]
        exact outlook_answering_refused hstandard hanswer
      · rw [if_neg fun hstall => hreply (Except.ok.inj (hstalled.mp hstall))]
        have hgrants := grants_standard (g := g.heard setup) hstandard
        rw [← answering_standard g hstandard, hanswer] at hgrants
        exact hgrants reply rfl hreply
    · have hsame := outlook_answering_routed g hstandard
      rw [hanswer] at hsame
      have hwish : setup.wish? = none := if_neg hstandard
      rw [hwish]
      exact hsame.trans (ite_self _).symm

/-- **What an event makes of the outlook.** -/
theorem outlook_handled {g g' : Gadget (Traced σ) P} {event : BusEvent} {calls : List Call}
    (h : g.does (handleEvent event) = (.ok (), g')) (hcalls : g'.calls = g.calls ++ calls) :
    g'.outlook = g.outlook.meet g.profile event (calls.any Call.isStall) := by
  have hhandling := handling g event
  have hhandled := h
  rw [h] at hhandling
  generalize hresult : (Except.ok () : Except DeviceError Unit) = result at hhandling
  cases hhandling with
  | unknown tag length journal => exact (ite_self _).symm
  | malformed tag length journal => exact (ite_self _).symm
  | suspended journal => exact (ite_self _).symm
  | resumed journal => exact (ite_self _).symm
  | stuck _ _ => cases hresult
  | unchecked _ _ => cases hresult
  | @renewed _ base exits g₁ channel profile journal hbase hstop hchannel =>
      unfold Outlook.meet
      rw [if_pos (by rw [hbase]; rfl)]
      exact outlook_reset (BusEvent.renewal?_ne hbase) rfl
  | unanswered _ => cases hresult
  | answered profile journal hanswer => exact outlook_control hhandled hcalls

end profile

end Gadget

end UsbPeripheral
