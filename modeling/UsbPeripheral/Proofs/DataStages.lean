import UsbPeripheral.Proofs.Consistency
import UsbPeripheral.Proofs.Steady
import UsbPeripheral.Proofs.Transfers

/-! # Every request takes its own data

A host queues SETUP packets together with the data that they bring.  Events are fetched in the order in
which they were queued (`events_conserved`), and fetching a packet puts its data stage in the place of
that of the packet before it, whatever was left of that.

Answering a packet does not touch the data stage (`apart_dataStage`).  If a device takes data at all, it
therefore takes what came with the packet, cut to the announced length (`takes_own_data`). -/

namespace UsbPeripheral

/-- The part of its data stage that an event offers to a device that handles it as a packet. -/
def ScriptedEvent.offered (event : ScriptedEvent) (setup : Setup) : Bytes :=
  (event.dataStage.getD []).take setup.length.toNat

/-! ### What leaves the data stage and the events alone -/

namespace Bus

theorem aside_disable (handle : Handle) (b : Bus) :
    (b.disable handle).2.events = b.events ∧ (b.disable handle).2.dataStage = b.dataStage := by
  unfold disable
  split
  · exact ⟨rfl, rfl⟩
  · have haside := aside_modifyPipe b handle fun p => { p with enabled := false }
    exact ⟨haside.events, haside.dataStage⟩

theorem aside_enable (endpoint : Endpoint) (b : Bus) :
    (b.enable endpoint).2.events = b.events ∧ (b.enable endpoint).2.dataStage = b.dataStage := by
  unfold enable
  dsimp only
  split
  · exact ⟨rfl, rfl⟩
  · split
    · exact ⟨rfl, rfl⟩
    · exact ⟨rfl, rfl⟩

/-- A read takes what the data stage offers. -/
theorem ep0Read_eq (room : Nat) (b : Bus) :
    (b.ep0Read room).1 = .ok ((b.dataStage.getD []).take room) ∧
      (b.ep0Read room).2.events = b.events := by
  unfold ep0Read
  cases b.dataStage with
  | none => exact ⟨by simp, rfl⟩
  | some data =>
      dsimp only
      split
      · rename_i hroom
        exact ⟨by simp [hroom], rfl⟩
      · exact ⟨rfl, rfl⟩

end Bus

namespace Gadget

/-- Answering a packet does not touch the data stage. -/
theorem apart_dataStage : Apart fun b b' : Bus => b'.dataStage = b.dataStage where
  refl _ := rfl
  trans h₁ h₂ := h₂.trans h₁
  read resumed handle room b := (Bus.calm_aside.read resumed handle room b).dataStage
  write handle data b := (Bus.calm_aside.write handle data b).dataStage
  wake handle b := (Bus.calm_aside.wake handle b).dataStage
  enable endpoint b := (b.aside_enable endpoint).2
  disable handle b := (b.aside_disable handle).2
  vbusDraw _ _ := rfl
  configure _ := rfl
  setHalt _ _ := rfl
  clearHalt _ _ := rfl

theorem steady_events : Steady fun b b' : Bus => b'.events = b.events where
  refl _ := rfl
  trans h₁ h₂ := h₂.trans h₁
  read resumed handle room b := (Bus.calm_aside.read resumed handle room b).events
  write handle data b := (Bus.calm_aside.write handle data b).events
  wake handle b := (Bus.calm_aside.wake handle b).events
  enable endpoint b := (b.aside_enable endpoint).1
  disable handle b := (b.aside_disable handle).1
  vbusDraw _ _ := rfl
  configure _ := rfl
  setHalt _ _ := rfl
  clearHalt _ _ := rfl
  bind _ _ _ _ := rfl
  run _ := rfl
  ep0Read room b := (b.ep0Read_eq room).2
  ep0Write _ _ := rfl
  ep0Stall _ := rfl
  endpoints _ := rfl
  setWedge _ _ := rfl

variable {P : Type} [DeviceProfile P]

/-! ### The script of a run -/

/-- A move of a device whose bus is changed from outside by its host only. -/
def Hosted : Move Bus P → Prop
  | .outside f => ∃ a : HostAct, f = a.apply
  | _ => True

/-- The events that a device fetches in a move. -/
def fetching (g : Gadget Bus P) : Move Bus P → List ScriptedEvent
  | .step => g.bus.events.take 1
  | _ => []

/-- The events that are queued in a move. -/
def queuing (g : Gadget Bus P) : Move Bus P → List ScriptedEvent
  | .outside f => (f g.bus).events.drop g.bus.events.length
  | _ => []

/-- The events that a device fetches in a run, in order. -/
def fetchedIn (g : Gadget Bus P) : List (Move Bus P) → List ScriptedEvent
  | [] => []
  | m :: ms => g.fetching m ++ (g.next m).fetchedIn ms

/-- The events that are queued in a run, in order. -/
def queuedIn (g : Gadget Bus P) : List (Move Bus P) → List ScriptedEvent
  | [] => []
  | m :: ms => g.queuing m ++ (g.next m).queuedIn ms

/-- The device with an event fetched, and some events left. -/
def fetched (g : Gadget Bus P) (event : ScriptedEvent) (rest : List ScriptedEvent) : Gadget Bus P :=
  g.withChannel { g.bus with events := rest, dataStage := event.dataStage }

/-- The first event in the queue is fetched and handled. -/
theorem does_step_cons {g : Gadget Bus P} {event : ScriptedEvent} {rest : List ScriptedEvent}
    (h : g.bus.events = event :: rest) :
    g.does Gadget.step =
      (((g.fetched event rest).does (handleEvent event.record.decode)).1.map
          fun _ => event.record.decode,
        ((g.fetched event rest).does (handleEvent event.record.decode)).2) := by
  have hfetch : Channel.fetchEvent g.around.channel =
      (.ok event.record, { g.bus with events := rest, dataStage := event.dataStage }) := by
    show g.bus.fetchEvent = _
    unfold Bus.fetchEvent
    rw [h]
  rw [does_step, hfetch]
  rfl

/-- Without an event in the queue there is nothing to be handled. -/
theorem does_step_nil {g : Gadget Bus P} (h : g.bus.events = []) :
    g.does Gadget.step = (.error (.channel .eventFetch .enodata), g) := by
  have hfetch : Channel.fetchEvent g.around.channel =
      (.error (.channel .eventFetch .enodata), g.bus) := by
    show g.bus.fetchEvent = _
    unfold Bus.fetchEvent
    rw [h]
  rw [does_step, hfetch]
  rfl

/-- A step that succeeds has fetched an event and handled it. -/
theorem handled_of_step {g g' : Gadget Bus P} {event : BusEvent}
    (h : g.does Gadget.step = (.ok event, g')) :
    ∃ first rest, g.bus.events = first :: rest ∧ first.record.decode = event ∧
      (g.fetched first rest).does (handleEvent event) = (.ok (), g') := by
  cases hevents : g.bus.events with
  | nil =>
      rw [does_step_nil hevents] at h
      cases h
  | cons first rest =>
      rw [does_step_cons hevents] at h
      refine ⟨first, rest, rfl, ?_⟩
      rcases hhandled : (g.fetched first rest).does (handleEvent first.record.decode) with
        ⟨e | ⟨⟩, g₁⟩
      · rw [hhandled] at h
        cases h
      · rw [hhandled] at h
        cases h
        exact ⟨rfl, hhandled⟩

/-- A step takes the first event off the queue. -/
theorem events_step (g : Gadget Bus P) : (g.next .step).bus.events = g.bus.events.drop 1 := by
  rw [next_step]
  cases hevents : g.bus.events with
  | nil =>
      rw [does_step_nil hevents]
      exact hevents
  | cons event rest =>
      rw [does_step_cons hevents]
      exact steady_events.handled (g.fetched event rest) event.record.decode

/-- One move takes events off at the front and adds events at the end. -/
theorem events_next (g : Gadget Bus P) {m : Move Bus P} (hm : Hosted m) :
    g.bus.events ++ g.queuing m = g.fetching m ++ (g.next m).bus.events := by
  have hsteady : m ≠ .step → (∀ f, m ≠ .outside f) →
      g.bus.events ++ [] = [] ++ (g.next m).bus.events := by
    intro hstep houtside
    rw [List.append_nil]
    exact (steady_events.moved g hstep houtside).symm
  cases m with
  | step =>
      rw [events_step]
      exact (List.append_nil _).trans (List.take_append_drop 1 _).symm
  | outside f =>
      obtain ⟨a, rfl⟩ := hm
      obtain ⟨hevents, -⟩ := a.events g.bus
      show g.bus.events ++ (a.apply g.bus).events.drop g.bus.events.length = (a.apply g.bus).events
      rw [hevents, List.drop_left]
  | start => exact hsteady nofun nofun
  | event event => exact hsteady nofun nofun
  | stop => exact hsteady nofun nofun
  | halt address => exact hsteady nofun nofun
  | wedge address => exact hsteady nofun nofun
  | unhalt address => exact hsteady nofun nofun
  | work address => exact hsteady nofun nofun
  | stock f => exact hsteady nofun nofun
  | adjust f => exact hsteady nofun nofun
  | threads refusals => exact hsteady nofun nofun

/-- **Events are fetched in the order in which they are queued.** -/
theorem events_conserved {g : Gadget Bus P} {ms : List (Move Bus P)} (hms : ∀ m ∈ ms, Hosted m) :
    g.bus.events ++ g.queuedIn ms = g.fetchedIn ms ++ (g.after ms).bus.events := by
  induction ms generalizing g with
  | nil => exact List.append_nil _
  | cons m ms ih =>
      have hnext := g.events_next (hms m List.mem_cons_self)
      have hrest := ih (g := g.next m) fun n hn => hms n (List.mem_cons_of_mem _ hn)
      calc g.bus.events ++ (g.queuing m ++ (g.next m).queuedIn ms)
          = g.fetching m ++ ((g.next m).bus.events ++ (g.next m).queuedIn ms) := by
            rw [← List.append_assoc, hnext, List.append_assoc]
        _ = (g.fetching m ++ (g.next m).fetchedIn ms) ++ ((g.next m).after ms).bus.events := by
            rw [hrest, List.append_assoc]

/-! ### Taking data -/

omit [DeviceProfile P] in
/-- What is handed over is what the data stage offers. -/
theorem does_complete_receive (g : Gadget Bus P) {setup : Setup}
    (handler : Setup → Bytes → P → P × List Note) (hdirection : setup.direction = .toDevice) :
    let data := (g.bus.dataStage.getD []).take setup.length.toNat
    let handled := handler setup data g.profile
    g.does (complete setup (.receive handler)) =
      (.ok (), { g.withChannel (g.bus.ep0Read setup.length.toNat).2 with
        profile := handled.1
        journal := (g.journal.add [.received data.length]).add handled.2 }) := by
  intro data handled
  obtain ⟨hread, -⟩ := g.bus.ep0Read_eq setup.length.toNat
  unfold complete
  rw [hdirection]
  dsimp only
  rw [does_bind, does_call]
  rw [show (Channel.ep0Read setup.length.toNat g.around.channel).1 = .ok data from hread]
  rfl

/-- The next event is a packet, and if the device takes data for it, that is the data which came with
it. -/
structure TakesOwn (g : Gadget Bus P) (event : ScriptedEvent) (rest : List ScriptedEvent)
    (setup : Setup) : Prop where
  /-- The handler of the data gets what came with the packet. -/
  received {handler : Setup → Bytes → P → P × List Note} {g₁ : Gadget Bus P} :
    (g.fetched event rest).answering setup = (.ok (.receive handler), g₁) →
    setup.direction = .toDevice →
    (g.does Gadget.step).1 = .ok (.control setup) ∧
    (g.does Gadget.step).2.profile = (handler setup (event.offered setup) g₁.profile).1 ∧
    (g.does Gadget.step).2.journal = (g₁.journal.add [.received (event.offered setup).length]).add
      (handler setup (event.offered setup) g₁.profile).2
  /-- Nothing is handed over otherwise. -/
  otherwise {result : Except DeviceError (Reply P)} {g₁ : Gadget Bus P} :
    (g.fetched event rest).answering setup = (result, g₁) →
    (∀ handler, result = .ok (.receive handler) → setup.direction ≠ .toDevice) →
    (g.does Gadget.step).2.profile = g₁.profile

omit [DeviceProfile P] in
theorem handOver_of_none {setup : Setup} {reply : Reply P} {result : Except DeviceError Bytes} {p : P}
    (h : ∀ handler, reply = .receive handler → setup.direction ≠ .toDevice) :
    handOver setup reply result p = p := by
  unfold handOver
  split
  · rename_i handler data hdirection
    exact absurd hdirection (h handler rfl)
  · rfl

/-- What is taken for the next packet in the queue is what came with it. -/
theorem takesOwn_of_events {g : Gadget Bus P} {event : ScriptedEvent} {rest : List ScriptedEvent}
    {setup : Setup} (hevents : g.bus.events = event :: rest)
    (hsetup : event.record.decode = .control setup) : g.TakesOwn event rest setup := by
  have hstep := does_step_cons hevents
  rw [hsetup, does_handleEvent_control] at hstep
  constructor
  case received =>
    intro handler g₁ hanswer hdirection
    have hstage : g₁.bus.dataStage = event.dataStage := by
      have hkept := apart_dataStage.answer ((g.fetched event rest).noted [.event (.control setup)]) setup
      rw [show Gadget.does _ (answer setup) = _ from hanswer] at hkept
      exact hkept
    have hcomplete := does_complete_receive g₁ handler hdirection
    rw [hstage] at hcomplete
    rw [hanswer] at hstep
    dsimp only at hstep
    rw [hcomplete] at hstep
    rw [hstep]
    exact ⟨rfl, rfl, rfl⟩
  case otherwise =>
    intro result g₁ hanswer hnone
    rw [hanswer] at hstep
    rw [hstep]
    cases result with
    | error e => rfl
    | ok reply =>
        obtain ⟨journal, hcomplete⟩ := does_complete g₁ setup reply
        dsimp only
        rw [hcomplete]
        exact handOver_of_none fun handler hreply => hnone handler (congrArg Except.ok hreply)

/-- **Every request takes its own data.**  A run fetches the first events of the script, which is what
was queued before and in the run, and wherever it has come to, the data taken for the packet that is
next is what came with it. -/
theorem takes_own_data (g : Gadget Bus P) {ms : List (Move Bus P)} (hms : ∀ m ∈ ms, Hosted m) :
    let script := g.bus.events ++ g.queuedIn ms
    g.fetchedIn ms <+: script ∧
      ∀ (event : ScriptedEvent) (rest : List ScriptedEvent) (setup : Setup),
        script = g.fetchedIn ms ++ event :: rest → event.record.decode = .control setup →
        (g.after ms).TakesOwn event rest setup := by
  intro script
  have hscript : script = g.fetchedIn ms ++ (g.after ms).bus.events := events_conserved hms
  refine ⟨⟨_, hscript.symm⟩, fun event rest setup hnext => ?_⟩
  exact takesOwn_of_events (List.append_cancel_left (hscript.symm.trans hnext))

/-- A request that nobody serves, with a data stage that nobody takes. -/
def unserved : ScriptedEvent :=
  .ofSetup ⟨RequestType.toDevice.apply .vendor, 5, 0, 0, 3⟩ (some [1, 2, 3])

/-- A request whose data is taken. -/
def put : Setup := ⟨RequestType.toDevice.apply .vendor, 1, 0, 0, 2⟩

/-- A device to which its host sends both requests, with more data than the second one announces. -/
def takerScripted : Gadget Bus DeclaredDevice :=
  new { Bus.idle with events := [unserved, .ofSetup put (some [7, 8, 9])] } {} taker .standard

/-- The data of the first request is left, and is not taken for that of the second. -/
theorem taker_takes_own :
    (takerScripted.after [.start, .step]).bus.dataStage = some [1, 2, 3] ∧
      ((takerScripted.after [.start, .step]).does Gadget.step).2.profile.asked =
        [.handled 1, .data 1 [7, 8]] := by
  have hms : ∀ m ∈ ([.start, .step] : List (Move Bus DeclaredDevice)), Hosted m := by
    simp [Hosted]
  have hleft : (takerScripted.after [.start, .step]).bus.dataStage = some [1, 2, 3] := by
    decide +kernel
  obtain ⟨-, htakes⟩ := takes_own_data takerScripted hms
  have htaken := htakes (.ofSetup put (some [7, 8, 9])) [] put (by decide +kernel) rfl
  obtain ⟨-, hprofile, -⟩ := htaken.received rfl rfl
  rw [hprofile]
  exact ⟨hleft, by decide +kernel⟩

end Gadget

end UsbPeripheral
