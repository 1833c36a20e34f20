import UsbPeripheral.Proofs.Pipes

/-! # Data from a host reaches its sink

A host sends transfers to an endpoint, the worker of the endpoint reads them into its one buffer and
passes each to its sink, and somebody wakes the endpoint again and again.  All this happens in any
order (`Intake.Act`).  Between being read and being passed on a transfer is **in hand** of the worker;
a worker that takes a whole **turn** leaves none there.

What a sink gets is what was sent (`Intake.Faithful`): what was handed to it, what is in hand and what
still is queued make up what the host sent, in its order and each transfer cut to the worker's limit.
Every single step keeps this, whatever came before it, and no wake ends the worker
(`Intake.delivers_in_order`). -/

namespace UsbPeripheral

/-! ### Reading from an enabled endpoint -/

namespace Bus

/-- What a step of a read makes of the transfers queued at an enabled endpoint, and what it answers. -/
inductive ReadAt (room : Nat) (queue : List Bytes) : List Bytes → ReadReply → Prop where
  | taken {data : Bytes} {rest : List Bytes} : queue = data :: rest →
      ReadAt room queue rest (.finished (.ok ⟨data.take room, (data.take room).length⟩))
  | interrupted : ReadAt room queue queue (.finished (.error (.failed .eintr)))
  | waits : ReadAt room queue queue .waiting

variable {b : Bus} {handle : Handle} {p : Pipe}

theorem tryRead_enabled (hp : b.pipe? handle = some p) (henabled : p.enabled = true) (room : Nat) :
    ∃ q, (b.tryRead handle room).2.pipe? handle = some q ∧ q.enabled = true ∧
      ReadAt room p.fromHost q.fromHost (b.tryRead handle room).1 := by
  unfold tryRead
  rw [hp]
  dsimp only
  rw [if_neg (by simp [henabled])]
  cases hqueue : p.fromHost with
  | cons data rest => exact ⟨_, pipe?_modified hp _, henabled, .taken rfl⟩
  | nil =>
      dsimp only
      split
      · refine ⟨_, pipe?_modified hp _, henabled, ?_⟩
        show ReadAt room [] p.fromHost _
        rw [hqueue]
        exact .interrupted
      · refine ⟨_, pipe?_modified hp _, henabled, ?_⟩
        show ReadAt room [] p.fromHost _
        rw [hqueue]
        exact .waits

theorem read_enabled (hp : b.pipe? handle = some p) (henabled : p.enabled = true)
    (resumed : Bool) (room : Nat) :
    ∃ q, (b.read resumed handle room).2.pipe? handle = some q ∧ q.enabled = true ∧
      ReadAt room p.fromHost q.fromHost (b.read resumed handle room).1 := by
  cases resumed with
  | false => exact tryRead_enabled hp henabled room
  | true =>
      have hcounted := pipe?_modified hp fun p => { p with readers := p.readers - 1 }
      exact tryRead_enabled hcounted henabled room

/-- What leaves the pipes in their places leaves every address its newest handle. -/
theorem Quenches.newest? {off : Handle → Prop} {b b' : Bus} (h : Quenches off b b')
    (address : Address) : b'.newest? address = b.newest? address := by
  unfold Bus.newest?
  rw [newestFrom_congr h.places]

end Bus

/-! ### A step of the worker -/

namespace Worker

/-- The worker of an endpoint towards the device, while nobody cancels it. -/
def receiving (handle : Handle) (receiver : Receiver) (sink : Sink) (stage : Receiver.Stage)
    (buffer : Bytes) : Worker :=
  { handle, duty := .receiving receiver sink stage buffer }

/-- What the worker passes to its sink in its next step. -/
def inHand (w : Worker) : List Bytes :=
  match w.duty with
  | .receiving receiver _ (.delivering count) buffer =>
    if count ≤ receiver.limit then [Bytes.fitted count buffer] else []
  | _ => []

end Worker

/-- How far a receiver can get that nobody cancels and whose endpoint is not disabled. -/
def Receiver.Undisturbed (receiver : Receiver) (sink : Sink) : Receiver.Stage → Prop
  | .idle => True
  | .reading _ => True
  | .delivering count => count ≤ receiver.limit
  | .failed error => error = .failed .eintr
  | .ended exit => exit = .panicked ∧ (sink = .broken ∨ Worker.maxBufferSize < receiver.limit)

/-- A depot after data was handed to a sink. -/
def Depot.deliverAll (sink : Sink) (data : List Bytes) (d : Depot) : Depot :=
  data.foldl (fun d data => (d.deliver sink data).2.2) d

/-- The transfer that was read last is the front of the buffer, whatever was there before. -/
theorem Bytes.fitted_overlay (data buffer : Bytes) :
    Bytes.fitted data.length (Bytes.overlay data buffer) = data := by
  have hzeros : data.length - (Bytes.overlay data buffer).length = 0 := by
    simp [Bytes.overlay]
  rw [Bytes.fitted, hzeros]
  simp [Bytes.overlay, Bytes.zeros]

variable {handle : Handle} {receiver : Receiver} {sink : Sink}

/-- What a step of an undisturbed worker brings about. -/
structure Worker.Advanced (handle : Handle) (receiver : Receiver) (sink : Sink) (p : Pipe)
    (w : Worker) (depot : Depot) (t : Worker.Stepped Bus) : Prop where
  worker : ∃ stage buffer, receiver.Undisturbed sink stage ∧
    t.worker = .receiving handle receiver sink stage buffer
  pipe : ∃ q, t.around.channel.pipe? handle = some q ∧ q.enabled = true ∧
    t.worker.inHand ++ q.fromHost.map (·.take receiver.limit) =
      p.fromHost.map (·.take receiver.limit)
  depot : t.around.depot = depot.deliverAll sink w.inHand
  /-- What was in hand is passed on before anything else is read. -/
  emptied : w.inHand ≠ [] → t.worker.inHand = []

/-- Only a consumer that breaks down stops working. -/
theorem Depot.deliver_fails {data : Bytes} {d : Depot} (h : (d.deliver sink data).1 = false) :
    sink = .broken := by
  cases sink with
  | broken => rfl
  | quiet outlet => cases h
  | announced outlet device goods =>
      exfalso
      unfold Depot.deliver at h
      dsimp only at h
      split at h <;> cases h

section step

variable {buffer : Bytes} {around : Surroundings Bus} {p : Pipe} (suspended : Bool)
  (hp : around.channel.pipe? handle = some p) (henabled : p.enabled = true)
include hp henabled

/-- What is in hand goes to the sink. -/
theorem Worker.delivering_advanced {count : Nat} (hcount : count ≤ receiver.limit) :
    let w := Worker.receiving handle receiver sink (.delivering count) buffer
    w.Advanced handle receiver sink p around.depot (w.step suspended around) := by
  intro w
  have hinHand : w.inHand = [Bytes.fitted count buffer] := if_pos hcount
  rcases hdeliver : around.depot.deliver sink (Bytes.fitted count buffer) with
    ⟨working, notes, depot⟩
  have hstep : w.step suspended around =
      { worker := .receiving handle receiver sink
          (if working then .idle else .ended .panicked) buffer
        around := { around with depot }
        notes } := by
    simp [w, Worker.receiving, Worker.step, Receiver.step, Worker.receiverLink, hcount, hdeliver]
  rw [hstep]
  have hempty : (Worker.receiving handle receiver sink
      (if working then .idle else .ended .panicked) buffer).inHand = [] := by
    cases working <;> rfl
  refine ⟨⟨_, buffer, ?_, rfl⟩, ⟨p, hp, henabled, ?_⟩, ?_, fun _ => hempty⟩
  · cases working with
    | true => exact trivial
    | false => exact ⟨rfl, .inl (Depot.deliver_fails (congrArg Prod.fst hdeliver))⟩
  · rw [hempty, List.nil_append]
  · rw [hinHand]
    exact (congrArg (·.2.2) hdeliver).symm

/-- The first transfer of the queue is taken into the hand, or the read is interrupted or waits. -/
theorem Worker.reading_advanced (resumed : Bool) :
    let w := Worker.receiving handle receiver sink (.reading resumed) buffer
    w.Advanced handle receiver sink p around.depot (w.step suspended around) := by
  intro w
  have hnothing : w.inHand ≠ [] → ∀ data : List Bytes, data = [] := fun h => absurd rfl h
  obtain ⟨q, hq, hqenabled, hread⟩ := Bus.read_enabled hp henabled resumed receiver.limit
  rcases hr : around.channel.read resumed handle receiver.limit with ⟨reply, b⟩
  rw [hr] at hq hread
  have hr : Channel.read resumed handle receiver.limit around.channel = (reply, b) := hr
  generalize hqueue : p.fromHost = queue at hread
  generalize hrest : q.fromHost = rest at hread
  cases hread with
  | @taken data _ hcons =>
      have hfits : receiver.Undisturbed sink (.delivering (data.take receiver.limit).length) :=
        List.length_take_le _ _
      have hstep : w.step suspended around =
          { worker := .receiving handle receiver sink
              (.delivering (data.take receiver.limit).length)
              (Bytes.overlay (data.take receiver.limit) buffer)
            around := { around with channel := b }
            notes := [.read receiver.address (data.take receiver.limit).length] } := by
        simp only [w, Worker.receiving, Worker.step, Receiver.step, Worker.receiverLink, hr]
      rw [hstep]
      refine ⟨⟨_, _, hfits, rfl⟩, ⟨q, hq, hqenabled, ?_⟩, rfl, fun h => hnothing h _⟩
      have hinHand : (Worker.receiving handle receiver sink
          (.delivering (data.take receiver.limit).length)
          (Bytes.overlay (data.take receiver.limit) buffer)).inHand =
          [data.take receiver.limit] := by
        refine (if_pos hfits).trans ?_
        rw [Bytes.fitted_overlay]
      rw [hinHand, hqueue, hrest, hcons]
      rfl
  | interrupted =>
      have hfailed : receiver.Undisturbed sink (.failed (.failed .eintr)) := rfl
      have hstep : w.step suspended around =
          { worker := .receiving handle receiver sink (.failed (.failed .eintr)) buffer
            around := { around with channel := b } } := by
        simp only [w, Worker.receiving, Worker.step, Receiver.step, Worker.receiverLink, hr]
      rw [hstep]
      refine ⟨⟨_, _, hfailed, rfl⟩, ⟨q, hq, hqenabled, ?_⟩, rfl, fun h => hnothing h _⟩
      rw [hqueue, hrest]
      rfl
  | waits =>
      have hwaits : receiver.Undisturbed sink (.reading true) := trivial
      have hstep : w.step suspended around =
          { worker := .receiving handle receiver sink (.reading true) buffer
            around := { around with channel := b }
            blocked := resumed } := by
        simp only [w, Worker.receiving, Worker.step, Receiver.step, Worker.receiverLink, hr]
      rw [hstep]
      refine ⟨⟨_, _, hwaits, rfl⟩, ⟨q, hq, hqenabled, ?_⟩, rfl, fun h => hnothing h _⟩
      rw [hqueue, hrest]
      rfl

/-- A step passes on what is in hand, and takes into the hand what it takes off the queue. -/
theorem Worker.step_advanced {stage : Receiver.Stage} (hstage : receiver.Undisturbed sink stage) :
    let w := Worker.receiving handle receiver sink stage buffer
    w.Advanced handle receiver sink p around.depot (w.step suspended around) := by
  cases stage with
  | idle =>
      exact ⟨⟨.reading false, buffer, trivial, rfl⟩, ⟨p, hp, henabled, rfl⟩, rfl, fun _ => rfl⟩
  | reading resumed => exact Worker.reading_advanced suspended hp henabled resumed
  | delivering count => exact Worker.delivering_advanced suspended hp henabled hstage
  | failed error =>
      obtain rfl : error = .failed .eintr := hstage
      exact ⟨⟨.idle, buffer, trivial, rfl⟩, ⟨p, hp, henabled, rfl⟩, rfl, fun _ => rfl⟩
  | ended exit =>
      exact ⟨⟨.ended exit, buffer, hstage, rfl⟩, ⟨p, hp, henabled, rfl⟩, rfl, fun _ => rfl⟩

end step

/-! ### Acts -/

/-- The way of the transfers through one endpoint. -/
structure Intake where
  around : Surroundings Bus
  worker : Worker
  /-- Transfers that the host sent, oldest first. -/
  sent : List Bytes := []
  /-- What was passed to the sink, oldest first. -/
  handed : List Bytes := []

namespace Intake

/-- Something that happens at the endpoint. -/
inductive Act where
  /-- The host sends a transfer. -/
  | send (data : Bytes)
  /-- Somebody interrupts the worker. -/
  | wake
  /-- The worker makes one atomic step. -/
  | work (suspended : Bool)
  /-- The worker makes a step and passes on what it read. -/
  | turn (suspended : Bool)

/-- Whether the worker has nothing in hand after an act before which it had nothing. -/
def Act.whole : Act → Bool
  | work _ => false
  | _ => true

/-- The transfer that an act sends. -/
def Act.sends : Act → Option Bytes
  | send data => some data
  | _ => none

/-- Transfers that the worker did not read yet. -/
def queued (i : Intake) : List Bytes :=
  ((i.around.channel.pipe? i.worker.handle).map (·.fromHost)).getD []

/-- A step of the worker. -/
def work (suspended : Bool) (i : Intake) : Intake :=
  let t := i.worker.step suspended i.around
  { i with worker := t.worker, around := t.around, handed := i.handed ++ i.worker.inHand }

/-- A transfer is sent if the endpoint takes it. -/
def send (address : Address) (data : Bytes) (i : Intake) : Intake :=
  let (accepted, channel) := i.around.channel.hostSend address data
  { i with
    around := { i.around with channel }
    sent := if accepted then i.sent ++ [data] else i.sent }

def wake (i : Intake) : Intake :=
  { i with around := { i.around with channel := i.around.channel.wake i.worker.handle } }

/-- What an act does at the endpoint of an address. -/
def step (address : Address) (i : Intake) : Act → Intake
  | .send data => i.send address data
  | .wake => i.wake
  | .work suspended => i.work suspended
  | .turn suspended =>
    let i := i.work suspended
    if i.worker.inHand = [] then i else i.work suspended

def run (address : Address) (i : Intake) (acts : List Act) : Intake := acts.foldl (step address) i

/-! ### What is kept -/

/-- The endpoint is enabled, its worker is at work, and nothing that was sent is lost, handed over
twice or out of order. -/
structure Faithful (handle : Handle) (receiver : Receiver) (sink : Sink) (depot : Depot)
    (i : Intake) : Prop where
  newest : i.around.channel.newest? receiver.address = some handle
  enabled : ∃ p, i.around.channel.pipe? handle = some p ∧ p.enabled = true
  worker : ∃ stage buffer, receiver.Undisturbed sink stage ∧
    i.worker = .receiving handle receiver sink stage buffer
  accounted : i.handed ++ i.worker.inHand ++ i.queued.map (·.take receiver.limit) =
    i.sent.map (·.take receiver.limit)
  /-- The sink got what was handed to it. -/
  sunk : i.around.depot = depot.deliverAll sink i.handed

variable {handle : Handle} {receiver : Receiver} {sink : Sink} {depot : Depot} {i : Intake}

theorem Faithful.queued (h : i.Faithful handle receiver sink depot) {p : Pipe}
    (hp : i.around.channel.pipe? handle = some p) : i.queued = p.fromHost := by
  obtain ⟨stage, buffer, -, hworker⟩ := h.worker
  simp [Intake.queued, hworker, Worker.receiving, hp]

theorem Faithful.work (h : i.Faithful handle receiver sink depot) (suspended : Bool) :
    (i.work suspended).Faithful handle receiver sink depot ∧
      (i.worker.inHand ≠ [] → (i.work suspended).worker.inHand = []) := by
  obtain ⟨p, hp, henabled⟩ := h.enabled
  obtain ⟨stage, buffer, hstage, hworker⟩ := h.worker
  have hadvanced : i.worker.Advanced handle receiver sink p i.around.depot
      (i.worker.step suspended i.around) := by
    rw [hworker]
    exact Worker.step_advanced suspended hp henabled hstage
  have hquenches : Bus.Quenches (fun _ => False) i.around.channel
      (i.worker.step suspended i.around).around.channel :=
    Bus.calm_quenches.worker_step suspended i.worker i.around
  obtain ⟨q, hq, hqenabled, hmoved⟩ := hadvanced.pipe
  obtain ⟨stage', buffer', hstage', hworker'⟩ := hadvanced.worker
  refine ⟨⟨?_, ⟨q, hq, hqenabled⟩, ⟨stage', buffer', hstage', hworker'⟩, ?_, ?_⟩,
    hadvanced.emptied⟩
  · exact (hquenches.newest? _).trans h.newest
  · have hqueued : (i.work suspended).queued = q.fromHost := by
      simp [Intake.queued, Intake.work, hworker', Worker.receiving, hq]
    show i.handed ++ i.worker.inHand ++ (i.worker.step suspended i.around).worker.inHand ++ _ = _
    rw [hqueued, List.append_assoc, hmoved, ← h.queued hp]
    exact h.accounted
  · show _ = depot.deliverAll sink (i.handed ++ i.worker.inHand)
    rw [Depot.deliverAll, List.foldl_append]
    have hsunk := h.sunk
    unfold Depot.deliverAll at hsunk
    rw [← hsunk]
    exact hadvanced.depot

/-- A host sends to the enabled endpoint, behind the transfers that are queued. -/
theorem hostSend_eq {b : Bus} {address : Address} {p : Pipe}
    (hnewest : b.newest? address = some handle) (hp : b.pipe? handle = some p)
    (henabled : p.enabled = true) (data : Bytes) :
    b.hostSend address data =
      (true, b.modifyPipe handle fun p => { p with fromHost := p.fromHost ++ [data] }) := by
  simp [Bus.hostSend, hnewest, hp, henabled]

/-- A change of the pipe that keeps it enabled, and what has to be so of the transfers. -/
theorem Faithful.of_modified (h : i.Faithful handle receiver sink depot) {f : Pipe → Pipe}
    {sent : List Bytes} (haddress : ∀ p, (f p).address = p.address)
    (henabled : ∀ p, (f p).enabled = p.enabled)
    (haccounted : ∀ p, i.queued = p.fromHost →
      i.handed ++ i.worker.inHand ++ (f p).fromHost.map (·.take receiver.limit) =
        sent.map (·.take receiver.limit)) :
    { i with
      around := { i.around with channel := i.around.channel.modifyPipe handle f }
      sent }.Faithful handle receiver sink depot := by
  obtain ⟨p, hp, hpenabled⟩ := h.enabled
  obtain ⟨stage, buffer, hstage, hworker⟩ := h.worker
  have hquenches : Bus.Quenches (fun _ => False) i.around.channel
      (i.around.channel.modifyPipe handle f) :=
    Bus.quenches_of_kept _ handle haddress henabled
  have hq := Bus.pipe?_modified hp f
  refine ⟨(hquenches.newest? _).trans h.newest, ⟨f p, hq, (henabled p).trans hpenabled⟩,
    ⟨stage, buffer, hstage, hworker⟩, ?_, h.sunk⟩
  have hqueued := haccounted p (h.queued hp)
  simpa [Intake.queued, hworker, Worker.receiving, hq] using hqueued

/-- A transfer that is sent is queued last. -/
theorem Faithful.send (h : i.Faithful handle receiver sink depot) (data : Bytes) :
    (i.send receiver.address data).Faithful handle receiver sink depot ∧
      (i.send receiver.address data).sent = i.sent ++ [data] := by
  obtain ⟨p, hp, henabled⟩ := h.enabled
  have hsend := hostSend_eq h.newest hp henabled data
  unfold Intake.send
  rw [hsend]
  refine ⟨h.of_modified (fun _ => rfl) (fun _ => rfl) fun q hq => ?_, rfl⟩
  have haccounted := h.accounted
  rw [hq] at haccounted
  simp only [if_true, List.map_append, ← haccounted, List.append_assoc]

/-- A wake does not touch the transfers. -/
theorem Faithful.wake (h : i.Faithful handle receiver sink depot) :
    i.wake.Faithful handle receiver sink depot := by
  obtain ⟨stage, buffer, -, hworker⟩ := h.worker
  have hwoken := h.of_modified (f := fun p => { p with woken := true }) (fun _ => rfl)
    (fun _ => rfl) fun q hq => by
      rw [← hq]
      exact h.accounted
  unfold Intake.wake
  rw [hworker]
  rw [hworker] at hwoken
  exact hwoken

/-- Whatever happens, what was sent is accounted for; and an act after which a worker may have a
transfer in hand is one of its atomic steps. -/
theorem Faithful.step (h : i.Faithful handle receiver sink depot) (a : Act) :
    (i.step receiver.address a).Faithful handle receiver sink depot ∧
      (i.step receiver.address a).sent = i.sent ++ a.sends.toList ∧
      (a.whole = true → i.worker.inHand = [] →
        (i.step receiver.address a).worker.inHand = []) := by
  cases a with
  | send data => exact ⟨(h.send data).1, (h.send data).2, fun _ => id⟩
  | wake => exact ⟨h.wake, (List.append_nil _).symm, fun _ => id⟩
  | work suspended =>
      exact ⟨(h.work suspended).1, (List.append_nil _).symm, fun hwhole => by cases hwhole⟩
  | turn suspended =>
      have hwork := (h.work suspended).1
      simp only [Intake.step]
      split
      · rename_i hempty
        exact ⟨hwork, (List.append_nil _).symm, fun _ _ => hempty⟩
      · rename_i hempty
        have hagain := hwork.work suspended
        exact ⟨hagain.1, (List.append_nil _).symm, fun _ _ => hagain.2 hempty⟩

theorem Faithful.run (h : i.Faithful handle receiver sink depot) (acts : List Act) :
    (i.run receiver.address acts).Faithful handle receiver sink depot ∧
      (i.run receiver.address acts).sent = i.sent ++ acts.filterMap Act.sends ∧
      ((∀ a ∈ acts, a.whole = true) → i.worker.inHand = [] →
        (i.run receiver.address acts).worker.inHand = []) := by
  induction acts generalizing i with
  | nil => exact ⟨h, (List.append_nil _).symm, fun _ => id⟩
  | cons a acts ih =>
      obtain ⟨hstep, hsent, hwhole⟩ := h.step a
      obtain ⟨hrun, hsent', hwhole'⟩ := ih hstep
      refine ⟨hrun, ?_, ?_⟩
      · show (Intake.run receiver.address (i.step receiver.address a) acts).sent = _
        rw [hsent', hsent, List.append_assoc]
        cases hsends : a.sends <;> simp [hsends]
      · intro hacts hempty
        have hacts := List.forall_mem_cons.mp hacts
        exact hwhole' hacts.2 (hwhole hacts.1 hempty)

/-- An endpoint that was just enabled, with a new worker. -/
def opened (settings : Settings) (endpoint : Endpoint) (sink : Sink) (depot : Depot)
    (handle : Handle) (channel : Bus) : Intake where
  around := { channel, depot }
  worker := .start settings endpoint handle (.sink sink)

theorem inHand_opened (settings : Settings) (endpoint : Endpoint) (handle : Handle)
    (channel : Bus) : (opened settings endpoint sink depot handle channel).worker.inHand = [] := by
  unfold opened Worker.start Worker.inHand
  dsimp only
  by_cases hlimit : Worker.transferLimit settings endpoint ≤ Worker.maxBufferSize
  · rw [if_pos hlimit]
  · rw [if_neg hlimit]

theorem faithful_opened {settings : Settings} {endpoint : Endpoint} {b b' : Bus}
    (h : b.enable endpoint = (.ok handle, b')) :
    (opened settings endpoint sink depot handle b').Faithful handle
      ⟨endpoint.address, Worker.transferLimit settings endpoint⟩ sink depot := by
  obtain ⟨hnewest, failures, hp⟩ := Bus.newest?_of_enable h
  refine ⟨hnewest, ⟨_, hp, rfl⟩, ⟨_, [], ?_, rfl⟩, ?_, rfl⟩
  · split
    · exact trivial
    · rename_i hlimit
      exact ⟨rfl, .inr (Nat.lt_of_not_le hlimit)⟩
  · have hqueued : (opened settings endpoint sink depot handle b').queued = [] := by
      show ((b'.pipe? handle).map (·.fromHost)).getD [] = []
      rw [hp]
      rfl
    rw [inHand_opened, hqueued]
    rfl

/-- An undisturbed worker ends only by breaking down. -/
theorem Faithful.exit (h : i.Faithful handle receiver sink depot) {exit : Exit}
    (hexit : i.worker.exit? = some exit) :
    exit = .panicked ∧ (sink = .broken ∨ Worker.maxBufferSize < receiver.limit) := by
  obtain ⟨stage, buffer, hstage, hworker⟩ := h.worker
  rw [hworker] at hexit
  cases stage with
  | ended other =>
      obtain rfl := Option.some.inj hexit
      exact hstage
  | _ => cases hexit

/-- **Data from a host reaches the sink once, in order, and cut to the worker's limit.** After any
acts at an endpoint that was enabled, what was handed to its sink, what its worker has in hand and what
still is queued are the transfers that were sent, each cut; nothing is in hand if the worker always
took whole turns.  No wake ends the worker: it ends only when its sink breaks down, or when there can
be no buffer of its limit. -/
theorem delivers_in_order {b b' : Bus} {endpoint : Endpoint} {handle : Handle}
    (henable : b.enable endpoint = (.ok handle, b')) (settings : Settings) (sink : Sink)
    (depot : Depot) (acts : List Act) :
    let limit := Worker.transferLimit settings endpoint
    let i := (opened settings endpoint sink depot handle b').run endpoint.address acts
    i.sent = acts.filterMap Act.sends ∧
      i.handed ++ i.worker.inHand ++ i.queued.map (·.take limit) = i.sent.map (·.take limit) ∧
      ((∀ a ∈ acts, a.whole = true) →
        i.handed ++ i.queued.map (·.take limit) = i.sent.map (·.take limit)) ∧
      i.around.depot = depot.deliverAll sink i.handed ∧
      ∀ exit, i.worker.exit? = some exit →
        exit = .panicked ∧ (sink = .broken ∨ Worker.maxBufferSize < limit) := by
  intro limit i
  have hopened : (opened settings endpoint sink depot handle b').Faithful handle
      ⟨endpoint.address, limit⟩ sink depot := faithful_opened henable
  obtain ⟨hfaithful, hsent, hwhole⟩ := hopened.run acts
  have haccounted : i.handed ++ i.worker.inHand ++ i.queued.map (·.take limit) =
      i.sent.map (·.take limit) := hfaithful.accounted
  refine ⟨hsent, haccounted, ?_, hfaithful.sunk, fun _ hexit => hfaithful.exit hexit⟩
  intro hacts
  have hempty : i.worker.inHand = [] := hwhole hacts (inHand_opened settings endpoint handle b')
  rw [hempty, List.append_nil] at haccounted
  exact haccounted

/-- An endpoint of small packets, a long transfer before a short one, and a wake while the worker
waits. -/
def crossed : List Act :=
  [.turn false, .turn false, .turn false, .wake, .turn true, .turn true, .send [1, 2, 3, 4, 5, 6],
    .turn false, .send [7], .wake, .turn false, .turn false, .turn false]

theorem crossed_delivered :
    let endpoint : Endpoint := .bulk 2 4
    let enabled := Bus.enable endpoint Bus.idle
    let i := (opened { maxTransfer := 3 } endpoint (.quiet 0) {} 1 enabled.2).run 2 crossed
    (enabled = (.ok 1, enabled.2) ∧ ∀ a ∈ crossed, a.whole = true) ∧
      i.handed ++ i.queued.map (·.take 4) = [[1, 2, 3, 4, 5, 6], [7]].map (·.take 4) ∧
      i.handed = [[1, 2, 3, 4], [7]] := by
  intro endpoint enabled i
  have henable : enabled = (.ok 1, enabled.2) := rfl
  have hwhole : ∀ a ∈ crossed, a.whole = true := by decide
  obtain ⟨hsent, -, haccounted, -⟩ :=
    delivers_in_order henable { maxTransfer := 3 } (.quiet 0) {} crossed
  refine ⟨⟨henable, hwhole⟩, ?_, by decide⟩
  have haccounted := haccounted hwhole
  rw [hsent] at haccounted
  exact haccounted

end Intake

end UsbPeripheral
