import UsbPeripheral.Profiles.Declared
import UsbPeripheral.Proofs.Outlook
import UsbPeripheral.Proofs.Steady

/-! # What a host reads is what it wrote

The **history** of a device is the list of the events that it handled, the newest first.  What a host
must read of a device can be told from the history alone:

* the value of the last SET_CONFIGURATION since the device was last connected, reset or disconnected
  (`configurationIn`), which stands for a configuration (`configurationOf`);
* the alternate setting of the last SET_INTERFACE since then (`alternateIn`);
* whether the last SET_FEATURE or CLEAR_FEATURE of the remote wakeup, since the device was last
  connected, reset or disconnected, was a SET_FEATURE (`wakeupIn`).

Only requests that were not stalled count.  After every run without a failure a device tells what its
history tells (`read_your_writes`), whatever the channel and the device class. -/

namespace UsbPeripheral

/-- An event that was handled. -/
structure Exchange (P : Type) where
  /-- The device class at the event. -/
  profile : P
  event : BusEvent
  /-- Whether endpoint 0 was stalled in the course of the event. -/
  stalled : Bool

namespace Exchange

variable {P : Type}

/-- What was asked for and not refused. -/
def granted? (x : Exchange P) : Option Wish := if x.stalled then none else x.event.wish?

/-- Whether the device was connected, reset or disconnected. -/
def renews (x : Exchange P) : Bool := x.event.renewal?.isSome

/-- The value that was selected, with the device class that says what it stands for. -/
def selection? (x : Exchange P) : Option (P × UInt8) :=
  match x.granted? with
  | some (.select value) => some (x.profile, value)
  | _ => none

/-- The alternate setting that an interface was given. -/
def alternate? (x : Exchange P) (interface : UInt8) : Option UInt8 :=
  match x.granted? with
  | some (.alternate i alternate) => if interface = i then some alternate else none
  | _ => none

/-- Whether the remote wakeup was allowed or forbidden. -/
def wakeup? (x : Exchange P) : Option Bool :=
  match x.granted? with
  | some (.wakeup allowed) => some allowed
  | _ => none

end Exchange

/-! ### Reading a history -/

section reading

variable {P : Type} (h : List (Exchange P))

/-- What happened since the device was last connected, reset or disconnected. -/
def sinceRenewal : List (Exchange P) := h.takeWhile fun x => !x.renews

/-- What happened since then and since a configuration was last selected. -/
def sinceSelection : List (Exchange P) :=
  (sinceRenewal h).takeWhile fun x => x.selection?.isNone

/-- The value selected last. -/
def selectionIn : Option (P × UInt8) := (sinceRenewal h).findSome? (·.selection?)

/-- The value selected last, 0 if there is none. -/
def configurationIn : UInt8 := (selectionIn h).elim 0 (·.2)

/-- The alternate setting selected last for an interface, 0 if there is none. -/
def alternateIn (interface : UInt8) : UInt8 :=
  ((sinceSelection h).findSome? (·.alternate? interface)).getD 0

/-- Whether the remote wakeup was allowed or forbidden last. -/
def wakeupIn : Bool := ((sinceRenewal h).findSome? (·.wakeup?)).getD false

theorem sinceRenewal_cons (x : Exchange P) :
    sinceRenewal (x :: h) = if x.renews then [] else x :: sinceRenewal h := by
  unfold sinceRenewal
  rw [List.takeWhile_cons]
  cases x.renews <;> rfl

theorem sinceSelection_cons (x : Exchange P) :
    sinceSelection (x :: h) =
      if x.renews || x.selection?.isSome then [] else x :: sinceSelection h := by
  unfold sinceSelection
  rw [sinceRenewal_cons]
  cases x.renews with
  | true => rfl
  | false =>
      show List.takeWhile _ (x :: sinceRenewal h) = _
      rw [List.takeWhile_cons]
      cases x.selection? <;> rfl

section unrenewed

variable {h} {x : Exchange P} (hx : x.renews = false)
include hx

theorem findSome?_sinceRenewal {α : Type} (f : Exchange P → Option α) :
    (sinceRenewal (x :: h)).findSome? f = (f x).or ((sinceRenewal h).findSome? f) := by
  rw [sinceRenewal_cons, hx, if_neg Bool.false_ne_true, List.findSome?_cons]
  cases f x <;> rfl

theorem selectionIn_cons : selectionIn (x :: h) = x.selection?.or (selectionIn h) :=
  findSome?_sinceRenewal hx _

theorem wakeupIn_cons : wakeupIn (x :: h) = x.wakeup?.getD (wakeupIn h) := by
  unfold wakeupIn
  rw [findSome?_sinceRenewal hx]
  cases x.wakeup? <;> rfl

theorem alternateIn_cons (interface : UInt8) :
    alternateIn (x :: h) interface =
      if x.selection?.isSome then 0 else (x.alternate? interface).getD (alternateIn h interface) := by
  unfold alternateIn
  rw [sinceSelection_cons, hx, Bool.false_or]
  split
  · rfl
  · rw [List.findSome?_cons]
    cases x.alternate? interface <;> rfl

end unrenewed

variable [DeviceProfile P]

/-- The configuration that the value selected last stands for. -/
def configurationOf : Option Configuration :=
  (selectionIn h).bind fun s => if s.2 = 0 then none else DeviceProfile.configuration? s.1 s.2

/-- Whether the configuration selected last has an interface. -/
def interfaceIn (interface : UInt8) : Bool :=
  (configurationOf h).any (·.interfaces.contains interface)

/-- The outlook that a history tells. -/
def outlookIn : Outlook where
  configuration := configurationIn h
  selected := configurationOf h
  alternate := alternateIn h
  wakeup := wakeupIn h

/-- A device that starts over has the outlook of a new one. -/
theorem outlookIn_renewed {x : Exchange P} (hx : x.renews = true) :
    outlookIn (x :: h) = .fresh := by
  have halternate : alternateIn (x :: h) = fun _ => 0 := by
    funext interface
    unfold alternateIn
    rw [sinceSelection_cons, hx]
    rfl
  unfold outlookIn configurationOf configurationIn wakeupIn selectionIn
  rw [halternate, sinceRenewal_cons, hx]
  rfl

/-- A wish that is granted comes before all that was granted earlier. -/
theorem outlookIn_unrenewed {x : Exchange P} (hx : x.renews = false) :
    outlookIn (x :: h) = x.granted?.elim (outlookIn h) ((outlookIn h).obey x.profile) := by
  have halternate : alternateIn (x :: h) = fun interface =>
      if x.selection?.isSome then 0
      else (x.alternate? interface).getD (alternateIn h interface) :=
    funext (alternateIn_cons hx)
  unfold outlookIn configurationOf configurationIn
  rw [halternate, selectionIn_cons hx, wakeupIn_cons hx]
  unfold Exchange.selection? Exchange.alternate? Exchange.wakeup?
  cases x.granted? with
  | none => rfl
  | some wish =>
      cases wish with
      | select value => rfl
      | alternate interface alternate =>
          simp only [Option.elim, Outlook.obey]
          congr 1
          funext i
          by_cases hi : i = interface
          · simp [hi]
          · simp [hi]
      | wakeup allowed => rfl

/-- One more event makes of what a history tells what it makes of an outlook. -/
theorem outlookIn_cons (x : Exchange P) :
    outlookIn (x :: h) = (outlookIn h).meet x.profile x.event x.stalled := by
  cases hx : x.renews with
  | true =>
      rw [outlookIn_renewed h hx]
      exact (if_pos hx).symm
  | false =>
      have hmeet : (outlookIn h).meet x.profile x.event x.stalled =
          if x.stalled then outlookIn h
          else x.event.wish?.elim (outlookIn h) ((outlookIn h).obey x.profile) :=
        if_neg (ne_true_of_eq_false hx)
      rw [outlookIn_unrenewed h hx, hmeet]
      unfold Exchange.granted?
      cases x.stalled <;> rfl

end reading

namespace Gadget

variable {σ P : Type} [Channel σ] [DeviceProfile P]

/-! ### Runs with a history -/

/-- A move of a device that is neither started nor stopped. -/
def Ongoing : Move σ P → Prop
  | .start | .stop => False
  | _ => True

/-- The event that the device handles in a move. -/
def event? (g : Gadget σ P) : Move σ P → Option BusEvent
  | .event event => some event
  | .step => (Channel.fetchEvent g.around.channel).1.toOption.map (·.decode)
  | _ => none

/-- The event of a move, with what belongs to it. -/
def exchange? (g : Gadget (Traced σ) P) (m : Move (Traced σ) P) : Option (Exchange P) :=
  (g.event? m).map fun event =>
    { profile := g.profile
      event
      stalled := ((g.next m).calls.drop g.calls.length).any Call.isStall }

/-- The events that a device handles in a run, the newest first. -/
def history (g : Gadget (Traced σ) P) : List (Move (Traced σ) P) → List (Exchange P)
  | [] => []
  | m :: ms => (g.next m).history ms ++ (g.exchange? m).toList

omit [DeviceProfile P] in
theorem steady_appends : Steady (Traced.Appends fun _ => True : Traced σ → Traced σ → Prop) where
  refl := .refl
  trans := .trans
  read _ _ _ _ := .single rfl trivial
  write _ _ _ := .single rfl trivial
  wake _ _ := .single rfl trivial
  enable _ _ := .single rfl trivial
  disable _ _ := .single rfl trivial
  vbusDraw _ _ := .single rfl trivial
  configure _ := .single rfl trivial
  setHalt _ _ := .single rfl trivial
  clearHalt _ _ := .single rfl trivial
  bind _ _ _ _ := .single rfl trivial
  run _ := .single rfl trivial
  ep0Read _ _ := .single rfl trivial
  ep0Write _ _ := .single rfl trivial
  ep0Stall _ := .single rfl trivial
  endpoints _ := .single rfl trivial
  setWedge _ _ := .single rfl trivial

/-- What an event makes of the outlook can be told from the calls that are made from then on. -/
theorem outlook_handled_drop {g g' : Gadget (Traced σ) P} {event : BusEvent}
    (h : g.does (handleEvent event) = (.ok (), g')) :
    g'.outlook =
      g.outlook.meet g.profile event ((g'.calls.drop g.calls.length).any Call.isStall) := by
  obtain ⟨calls, hcalls, -⟩ := steady_appends.handled g event
  rw [h] at hcalls
  have hcalls : g'.calls = g.calls ++ calls := hcalls
  rw [outlook_handled h hcalls, hcalls, List.drop_left]

/-- An event that can be fetched is handled, and fetching it is no stall. -/
theorem exchange_step {g : Gadget (Traced σ) P} (hok : (g.does Move.step.dispatch).1 = .ok ()) :
    ∃ record channel calls, Channel.fetchEvent g.around.channel = (.ok record, channel) ∧
      (g.withChannel channel).does (handleEvent record.decode) = (.ok (), g.next .step) ∧
      (g.next .step).calls = channel.calls ++ calls ∧
      g.exchange? .step = some ⟨g.profile, record.decode, calls.any Call.isStall⟩ := by
  have hdoes : g.does Move.step.dispatch = (.ok (), g.next .step) := Prod.ext hok rfl
  obtain ⟨event, hstep⟩ := ok_of_dropped hdoes
  rw [does_step] at hstep
  unfold exchange? event?
  have hcalls : (Channel.fetchEvent g.around.channel).2.calls =
      g.calls ++ [.fetchEvent (Channel.fetchEvent g.around.channel).1] := rfl
  rcases hfetch : Channel.fetchEvent g.around.channel with ⟨e | record, channel⟩
  · rw [hfetch] at hstep
    cases hstep
  · rw [hfetch] at hstep hcalls
    obtain ⟨hresult, hnext⟩ := Prod.mk.inj hstep
    have hhandled : (g.withChannel channel).does (handleEvent record.decode) =
        (.ok (), g.next .step) := by
      rcases hhandle : (g.withChannel channel).does (handleEvent record.decode) with ⟨e | ⟨⟩, g'⟩
      · rw [hhandle] at hresult
        cases hresult
      · rw [hhandle] at hnext
        rw [← hnext]
    obtain ⟨calls, hmore, -⟩ := steady_appends.handled (g.withChannel channel) record.decode
    rw [hhandled] at hmore
    have hmore : (g.next .step).calls = channel.calls ++ calls := hmore
    have hall : (g.next .step).calls = g.calls ++ (.fetchEvent (.ok record) :: calls) := by
      rw [hmore, hcalls, List.append_assoc]
      rfl
    refine ⟨record, channel, calls, rfl, hhandled, hmore, ?_⟩
    rw [hall]
    simp only [Except.toOption, Option.map_some, List.drop_left]
    rfl

theorem outlook_step {g : Gadget (Traced σ) P} (hok : (g.does Move.step.dispatch).1 = .ok ()) :
    (g.next .step).outlook = (g.exchange? .step).elim g.outlook
      fun x => g.outlook.meet x.profile x.event x.stalled := by
  obtain ⟨record, channel, calls, -, hhandled, hcalls, hexchange⟩ := exchange_step hok
  have houtlook := outlook_handled hhandled hcalls
  rw [hexchange]
  exact houtlook

/-- The outlook after a move that does not fail is that after its event, if it has one. -/
theorem outlook_next {g : Gadget (Traced σ) P} {m : Move (Traced σ) P} (hm : Ongoing m)
    (hok : (g.does m.dispatch).1 = .ok ()) :
    (g.next m).outlook = (g.exchange? m).elim g.outlook
      fun x => g.outlook.meet x.profile x.event x.stalled := by
  have hhalting : ∀ {address operation halted wedged}
      {outcome : Except DeviceError Bool × Gadget (Traced σ) P},
      Halting g address operation halted wedged outcome → outcome.2.outlook = g.outlook := by
    intro address operation halted wedged outcome h
    cases h <;> rfl
  cases m with
  | start => exact absurd hm id
  | event event => exact outlook_handled_drop (Prod.ext hok rfl)
  | step => exact outlook_step hok
  | stop => exact absurd hm id
  | halt address =>
      rw [next_halt]
      exact hhalting (halting_halt g address)
  | wedge address =>
      rw [next_wedge]
      exact hhalting (halting_wedge g address)
  | unhalt address =>
      rw [next_unhalt]
      exact hhalting (halting_unhalt g address)
  | work address =>
      obtain ⟨around, roster, journal, hwork, -⟩ := runWorker_within Calm.any 1 address g
      rw [next_work, hwork]
      rfl
  | outside f => rfl
  | stock f => rfl
  | adjust f => rfl
  | threads refusals => rfl

/-- If the outlook is what a history tells, it is so after every run without a failure. -/
theorem outlook_after {g : Gadget (Traced σ) P} {h : List (Exchange P)}
    {ms : List (Move (Traced σ) P)} (hg : g.outlook = outlookIn h) (hms : ∀ m ∈ ms, Ongoing m)
    (hsmooth : g.Smooth ms) : (g.after ms).outlook = outlookIn (g.history ms ++ h) := by
  induction ms generalizing g h with
  | nil => exact hg
  | cons m ms ih =>
      have hnext : (g.next m).outlook = outlookIn ((g.exchange? m).toList ++ h) := by
        rw [outlook_next (hms m List.mem_cons_self) hsmooth.1, hg]
        cases g.exchange? m with
        | none => rfl
        | some x => exact (outlookIn_cons h x).symm
      have hrest := ih hnext (fun n hn => hms n (List.mem_cons_of_mem _ hn)) hsmooth.2
      rw [history, List.append_assoc]
      exact hrest

/-- A device that was started has the outlook of a device without a history. -/
theorem outlook_start {channel : Traced σ} {depot : Depot} {profile : P} {settings : Settings}
    (hok : ((new channel depot profile settings).does Move.start.dispatch).1 = .ok ()) :
    ((new channel depot profile settings).next .start).outlook =
      outlookIn ([] : List (Exchange P)) := by
  obtain ⟨channel', journal, hstarted | ⟨e, hfailed⟩⟩ := does_start (new channel depot profile settings)
  · have hnext : (new channel depot profile settings).next .start =
        { (new channel depot profile settings).withChannel channel' with
          state := .reset .powered, journal } := congrArg Prod.snd hstarted
    rw [hnext]
    exact outlook_reset (by decide) rfl
  · rw [show Move.start.dispatch = start from rfl, hfailed] at hok
    cases hok

/-! ### Answers -/

/-- A packet is answered with data, cut to the length that it asks for. -/
def Sends (g : Gadget (Traced σ) P) (setup : Setup) (data : Bytes) : Prop :=
  ∃ result, (g.does (handleEvent (.control setup))).2.calls =
    g.calls ++ [.ep0Write (data.take setup.length.toNat) result]

/-- A packet is refused. -/
def Refuses (g : Gadget (Traced σ) P) (setup : Setup) : Prop :=
  ∃ result, (g.does (handleEvent (.control setup))).2.calls = g.calls ++ [.ep0Stall result]

theorem sends_of_answering {g g' : Gadget (Traced σ) P} {setup : Setup} {data : Bytes}
    (hdirection : setup.direction = .toHost) (h : g.answering setup = (.ok (.send data), g'))
    (hcalls : g'.calls = g.calls) : g.Sends setup data := by
  obtain ⟨journal, hcomplete⟩ := does_complete g' setup (.send data)
  rw [stage_send hdirection] at hcomplete
  unfold Sends
  rw [does_handleEvent_control, h]
  dsimp only
  rw [hcomplete, ← hcalls]
  exact ⟨_, rfl⟩

theorem refuses_of_answering {g g' : Gadget (Traced σ) P} {setup : Setup}
    (h : g.answering setup = (.ok .stall, g')) (hcalls : g'.calls = g.calls) :
    g.Refuses setup := by
  obtain ⟨journal, hcomplete⟩ := does_complete_stall g' setup
  unfold Refuses
  rw [does_handleEvent_control, h]
  dsimp only
  rw [hcomplete, ← hcalls]
  exact ⟨_, rfl⟩

/-- A packet that asks for something that is there or not is answered or refused. -/
theorem sends_or_refuses {g g' : Gadget (Traced σ) P} {setup : Setup} {data : Bytes} {there : Bool}
    (hdirection : setup.direction = .toHost)
    (h : g.answering setup = (.ok (if there = true then .send data else .stall), g'))
    (hcalls : g'.calls = g.calls) :
    (there = true → g.Sends setup data) ∧ (there = false → g.Refuses setup) := by
  cases there with
  | true => exact ⟨fun _ => sends_of_answering hdirection h hcalls, nofun⟩
  | false => exact ⟨nofun, fun _ => refuses_of_answering h hcalls⟩

/-- What a host that asks for something gets is what a history tells. -/
structure ReadsBack (g : Gadget (Traced σ) P) (h : List (Exchange P)) (setup : Setup) : Prop where
  configuration : setup.Carries .getConfiguration .toHost → g.Sends setup [configurationIn h]
  /-- The alternate setting is told of the interfaces of the selected configuration only. -/
  alternate : setup.Carries .getInterface .toHost →
    (interfaceIn h (Bytes.low setup.index) = true →
      g.Sends setup [alternateIn h (Bytes.low setup.index)]) ∧
    (interfaceIn h (Bytes.low setup.index) = false → g.Refuses setup)
  /-- An interface of the selected configuration has a status, which is 0. -/
  status : setup.Carries .getStatus .toHost → setup.recipient = .interface →
    (interfaceIn h (Bytes.low setup.index) = true → g.Sends setup (Bytes.ofWord16 0)) ∧
    (interfaceIn h (Bytes.low setup.index) = false → g.Refuses setup)
  /-- The second bit of the status of the device is the remote wakeup. -/
  wakeup : setup.Carries .getStatus .toHost → setup.recipient = .device →
    ∃ word, g.Sends setup (Bytes.ofWord16 word) ∧ word.toNat.testBit 1 = wakeupIn h

/-- A device whose outlook is what a history tells answers so. -/
theorem readsBack_of_outlook {g : Gadget (Traced σ) P} {h : List (Exchange P)}
    (houtlook : g.outlook = outlookIn h) (setup : Setup) : g.ReadsBack h setup := by
  have hinterface : ∀ i, g.hasInterface i = interfaceIn h i := by
    intro i
    rw [hasInterface_eq_any, houtlook]
    rfl
  have hconfiguration : g.state.configuration = configurationIn h :=
    congrArg Outlook.configuration houtlook
  have halternate : ∀ i, g.state.alternate i = alternateIn h i :=
    fun i => congrFun (congrArg Outlook.alternate houtlook) i
  have hwakeup : g.state.remoteWakeup = wakeupIn h := congrArg Outlook.wakeup houtlook
  refine ⟨?configuration, ?alternate, ?status, ?wakeup⟩
  case configuration =>
    intro hcarries
    have hanswer := answering_getConfiguration g hcarries
    rw [hconfiguration] at hanswer
    exact sends_of_answering hcarries.2.2 hanswer rfl
  case alternate =>
    intro hcarries
    have hanswer := answering_getInterface g hcarries
    rw [hinterface, halternate] at hanswer
    exact sends_or_refuses hcarries.2.2 hanswer rfl
  case status =>
    intro hcarries hrecipient
    have hanswer := answering_getStatus g hcarries
    unfold statusWord at hanswer
    rw [hrecipient] at hanswer
    rw [hinterface, apply_ite (Option.map _), apply_ite (Option.getD · _)] at hanswer
    exact sends_or_refuses hcarries.2.2 hanswer rfl
  case wakeup =>
    intro hcarries hrecipient
    have hanswer := answering_getStatus g hcarries
    unfold statusWord at hanswer
    rw [hrecipient] at hanswer
    rw [Option.map_some, Option.getD_some] at hanswer
    have hsends := sends_of_answering hcarries.2.2 hanswer rfl
    refine ⟨_, hsends, ?_⟩
    rw [← hwakeup]
    cases DeviceProfile.selfPowered g.profile <;> cases g.state.remoteWakeup <;> rfl

/-- **A host reads what it wrote.** -/
theorem read_your_writes (channel : Traced σ) (depot : Depot) (profile : P) (settings : Settings)
    {ms : List (Move (Traced σ) P)} (hms : ∀ m ∈ ms, Ongoing m)
    (hsmooth : (new channel depot profile settings).Smooth (.start :: ms)) (setup : Setup) :
    ((new channel depot profile settings).after (.start :: ms)).ReadsBack
      ((new channel depot profile settings).history (.start :: ms)) setup := by
  have houtlook := outlook_after (outlook_start hsmooth.1) hms hsmooth.2
  exact readsBack_of_outlook houtlook setup

/-- A device with one interface that has two settings. -/
def twoSettings : DeclaredDevice where
  catalog := .empty
  configurations := [{ value := 1, maxPower := 100, interfaces := [0], endpoints := [.bulk 129 64] }]
  endpoints := .empty
  requests := []
  fallback := none
  maxAlternate := 1

/-- The device on an idle bus. -/
def settingNew : Gadget (Traced Bus) DeclaredDevice := new { inner := Bus.idle } {} twoSettings .standard

/-- A host that selects a configuration and a setting, allows the remote wakeup, and asks in vain for
another configuration. -/
def settingRun : List (Move (Traced Bus) DeclaredDevice) :=
  [.start, .event .connect, .event (.control (.select 1)),
    .event (.control
      ⟨RequestType.toDevice.apply .interface, StandardRequest.setInterface.code, 1, 0, 0⟩),
    .event (.control
      ⟨.toDevice, StandardRequest.setFeature.code, Feature.remoteWakeup.code, 0, 0⟩),
    .event (.control (.select 9))]

/-- The packet that asks for the setting of the first interface. -/
def settingAsked : Setup :=
  ⟨RequestType.toHost.apply .interface, StandardRequest.getInterface.code, 0, 0, 1⟩

/-- The host reads the setting that it selected. -/
theorem settingRun_reads :
    interfaceIn (settingNew.history settingRun) 0 = true ∧
      alternateIn (settingNew.history settingRun) 0 = 1 ∧
      (settingNew.after settingRun).Sends settingAsked [1] := by
  have hms : ∀ m ∈ settingRun.tail, Ongoing m := by
    simp [settingRun, Ongoing]
  have hsmooth : settingNew.Smooth settingRun := by decide +kernel
  have hinterface : interfaceIn (settingNew.history settingRun) 0 = true := by decide +kernel
  have halternate : alternateIn (settingNew.history settingRun) 0 = 1 := by decide +kernel
  have hreads : (settingNew.after settingRun).ReadsBack (settingNew.history settingRun) settingAsked :=
    read_your_writes { inner := Bus.idle } {} twoSettings .standard hms hsmooth settingAsked
  have hlow : Bytes.low settingAsked.index = 0 := rfl
  obtain ⟨hanswer, -⟩ := hreads.alternate ⟨rfl, rfl, rfl⟩
  rw [hlow, halternate] at hanswer
  exact ⟨hinterface, halternate, hanswer hinterface⟩

end Gadget

end UsbPeripheral
