import UsbPeripheral.Proofs.Consistency
import UsbPeripheral.Proofs.Threads

/-! # Every roster can be taken down

A worker that waits in a read keeps its endpoint from being disabled, and workers are only waited for
after the first attempt.  The second attempt succeeds nevertheless: a cancelled worker that is woken
leaves its read and does not begin another (`Worker.Leaving`), so that nobody waits any more.

This needs a roster that is **orderly** (`Gadget.Orderly`): every endpoint of it is enabled, does not
refuse of its own accord, and has no reader but its worker.  A worker is one of the threads of the bus
(`Worker.position`), so every step of it keeps the roster orderly (`Gadget.Orderly.runWorker`), and
taking an orderly roster down succeeds and disables exactly its endpoints
(`Gadget.Orderly.stopped`). -/

namespace UsbPeripheral

/-! ### Endpoints that do not refuse -/

namespace Bus

/-- The endpoint of a handle does not refuse of its own accord to be disabled. -/
def Yields (b : Bus) (handle : Handle) : Prop :=
  ∀ ⦃p : Pipe⦄, b.pipe? handle = some p → p.refusesDisable = false

/-- No endpoint begins to refuse. -/
def Milder (b b' : Bus) : Prop := ∀ ⦃handle : Handle⦄, b.Yields handle → b'.Yields handle

variable {b b' : Bus}

theorem Milder.refl (b : Bus) : Milder b b := fun _ h => h

theorem Milder.trans {b₁ b₂ b₃ : Bus} (h₁ : Milder b₁ b₂) (h₂ : Milder b₂ b₃) : Milder b₁ b₃ :=
  fun _ h => h₂ (h₁ h)

theorem milder_of_pipes (h : b'.pipes = b.pipes) : Milder b b' := by
  intro handle hyields p hp
  unfold pipe? at hp
  rw [h] at hp
  exact hyields hp

theorem milder_modifyPipe (b : Bus) (handle : Handle) {f : Pipe → Pipe}
    (hf : ∀ p, (f p).refusesDisable = p.refusesDisable) : Milder b (b.modifyPipe handle f) := by
  intro other hyields p hp
  rw [pipe?_modifyPipe] at hp
  split at hp
  · obtain ⟨q, hq, rfl⟩ := Option.map_eq_some_iff.mp hp
    rw [hf]
    exact hyields hq
  · exact hyields hp

theorem calm_milder : Calm Milder :=
  calm_of_transfer .refl .trans fun b handle _ hf => milder_modifyPipe b handle fun p => (hf p).refuses

theorem milder_disable (b : Bus) (handle : Handle) : Milder b (b.disable handle).2 := by
  rcases b.disable_cases handle with ⟨error, heq⟩ | ⟨p, -, -, -, heq⟩
  · rw [heq]
    exact .refl b
  · rw [heq]
    refine Milder.trans ?_ (milder_of_pipes rfl)
    exact milder_modifyPipe b handle fun _ => rfl

/-- A new endpoint does not refuse. -/
theorem milder_enable (b : Bus) (endpoint : Endpoint) : Milder b (b.enable endpoint).2 := by
  rcases b.enable_cases endpoint with ⟨error, heq⟩ | ⟨failures, b', heq, -, hbound, hpipes⟩
  · rw [heq]
    exact .refl b
  · rw [heq]
    intro other hyields p hp
    rw [pipe?_concat hpipes hbound] at hp
    split at hp
    · obtain rfl := Option.some.inj hp
      rfl
    · exact hyields hp

/-! ### Endpoints that can be disabled -/

/-- An enabled endpoint that can be disabled. -/
structure Vacant (b : Bus) (handle : Handle) (address : Address) : Prop where
  live : b.Live handle address
  yields : b.Yields handle
  readers : b.readers handle = 0

variable {handle other : Handle} {address : Address}

/-- An endpoint that does not refuse can be disabled if and only if nobody waits at it. -/
theorem disableError?_of_live (hlive : b.Live handle address) (hyields : b.Yields handle) :
    b.disableError? handle = if 0 < b.readers handle then some .ebusy else none := by
  obtain ⟨p, hp, henabled, -⟩ := hlive
  have hmild := hyields hp
  unfold disableError?
  rw [hp, readers_of_pipe hp]
  simp [henabled, hmild]

theorem Vacant.disable (h : b.Vacant handle address) : (b.disable handle).1 = .ok () := by
  have hnone := disableError?_of_live h.live h.yields
  rw [h.readers, if_neg (Nat.lt_irrefl 0)] at hnone
  unfold Bus.disable
  rw [hnone]

/-- A reader keeps its endpoint from being disabled. -/
theorem disable_busy (hlive : b.Live handle address) (hyields : b.Yields handle)
    (hreaders : 0 < b.readers handle) :
    b.disable handle = (.error (.channel .epDisable .ebusy), b) := by
  have herror := disableError?_of_live hlive hyields
  rw [if_pos hreaders] at herror
  unfold Bus.disable
  rw [herror]

/-- What happens elsewhere does not concern an endpoint. -/
structure Spares (handle : Handle) (b b' : Bus) : Prop where
  lasts {address : Address} : b.Live handle address → b'.Live handle address
  yields : b.Yields handle → b'.Yields handle
  readers : b'.readers handle = b.readers handle

theorem Spares.refl (handle : Handle) (b : Bus) : Spares handle b b := ⟨id, id, rfl⟩

theorem Spares.trans {b₁ b₂ b₃ : Bus} (h₁ : Spares handle b₁ b₂) (h₂ : Spares handle b₂ b₃) :
    Spares handle b₁ b₃ where
  lasts h := h₂.lasts (h₁.lasts h)
  yields h := h₂.yields (h₁.yields h)
  readers := h₂.readers.trans h₁.readers

theorem Vacant.spared (h : b.Vacant handle address) (hspares : Spares handle b b') :
    b'.Vacant handle address :=
  ⟨hspares.lasts h.live, hspares.yields h.yields, hspares.readers.trans h.readers⟩

theorem spares_disable (b : Bus) (hne : handle ≠ other) : Spares handle b (b.disable other).2 where
  lasts hlive := by
    have hquenches : Quenches (fun h => h = other) b (b.disable other).2 := quenches_disable b rfl
    exact hquenches.lasts hlive hne
  yields h := milder_disable b other h
  readers := b.balanced_disable other handle

theorem spares_of_table (hquenches : Quenches (fun _ => False) b b') (hmilder : Milder b b')
    (htable : SameTable b b') (handle : Handle) : Spares handle b b' where
  lasts hlive := hquenches.lasts hlive id
  yields h := hmilder h
  readers := by simp [readers, htable handle]

end Bus

/-- An act of a host that lets endpoints be disabled. -/
def HostAct.isMild : HostAct → Bool
  | refuseDisable _ => false
  | _ => true

theorem HostAct.milder {a : HostAct} (ha : a.isMild = true) (b : Bus) :
    Bus.Milder b (a.apply b) := by
  have hmakes := a.makes b
  generalize a.apply b = b' at hmakes ⊢
  cases hmakes with
  | changed _ hf _ => exact Bus.milder_modifyPipe b _ fun p => (hf p).refuses
  | refusing => cases ha
  | beside owedFailures udc => exact Bus.milder_of_pipes rfl

/-! ### Workers are threads -/

namespace Worker

/-- Where the worker stands between two of its steps. -/
def position (w : Worker) : Position :=
  match w.duty with
  | .receiving receiver _ (.reading true) _ => .waiting w.handle receiver.limit
  | _ => .free

variable {w : Worker} {around : Surroundings Bus} (suspended : Bool)

/-- A worker waits at its own endpoint only. -/
theorem weight_position {handle : Handle} (hne : handle ≠ w.handle) :
    w.position.weight handle = 0 := by
  unfold position
  split
  · simp [hne]
  · rfl

/-- The worker is counted if it waits. -/
def Counted (w : Worker) (b : Bus) : Prop := w.position.weight w.handle ≤ b.readers w.handle

theorem handle_step : (w.step suspended around).worker.handle = w.handle := by
  unfold step
  cases w.duty <;> rfl

/-- A step of a worker is one of a thread. -/
theorem balanced_step (h : w.Counted around.channel) :
    Balanced w.position around.channel (w.step suspended around).worker.position
      (w.step suspended around).around.channel := by
  obtain ⟨handle, cancelled, duty⟩ := w
  have hkept : Balanced .free around.channel .free around.channel :=
    (Bus.SameTable.refl _).balanced
  cases duty with
  | sending sender feed stage =>
      have hsame : Bus.SameTable around.channel
          (Worker.step suspended ⟨handle, cancelled, .sending sender feed stage⟩
            around).around.channel :=
        Sender.step_world (R := fun s s' : Surroundings Bus => Bus.SameTable s.channel s'.channel)
          (fun s => .refl s.channel) sender (senderLink handle feed) cancelled suspended
          (fun s => .refl s.channel) (fun data s => s.channel.sameTable_write handle data) stage
          around
      exact hsame.balanced
  | receiving receiver sink stage buffer =>
      cases stage with
      | idle =>
          cases cancelled with
          | false => exact hkept
          | true => exact hkept
      | reading resumed =>
          have hwaits : resumed = true → 0 < around.channel.readers handle := by
            rintro rfl
            have h : (Position.waiting handle receiver.limit).weight handle ≤ _ := h
            simpa [Nat.pos_iff_ne_zero, Nat.one_le_iff_ne_zero] using h
          have hread := Bus.balanced_read resumed handle receiver.limit hwaits
          have hold : (Worker.mk handle cancelled
              (.receiving receiver sink (.reading resumed) buffer)).position =
              if resumed then .waiting handle receiver.limit else .free := by
            cases resumed <;> rfl
          rw [hold]
          rcases hreply : around.channel.read resumed handle receiver.limit with ⟨reply, b⟩
          rw [hreply] at hread
          have hlink : Channel.read resumed handle receiver.limit around.channel = (reply, b) :=
            hreply
          simp only [Worker.step, Receiver.step, receiverLink, hlink]
          cases reply with
          | waiting => exact hread
          | finished result => cases result <;> exact hread
      | delivering count =>
          simp only [Worker.step, Receiver.step]
          split
          · split <;> exact hkept
          · exact hkept
      | failed error =>
          simp only [Worker.step, Receiver.step]
          split
          · exact hkept
          · split <;> exact hkept
      | ended exit => exact hkept

theorem Counted.step (h : w.Counted around.channel) :
    (w.step suspended around).worker.Counted (w.step suspended around).around.channel := by
  have hbalanced := balanced_step suspended h w.handle
  unfold Counted at h ⊢
  rw [handle_step]
  omega

theorem handle_run (fuel : Nat) : (w.run suspended fuel around).worker.handle = w.handle := by
  induction fuel generalizing w around with
  | zero => rfl
  | succ fuel ih =>
      unfold run
      dsimp only
      split
      · exact handle_step suspended
      · exact ih.trans (handle_step suspended)

theorem balanced_run (fuel : Nat) (h : w.Counted around.channel) :
    Balanced w.position around.channel (w.run suspended fuel around).worker.position
      (w.run suspended fuel around).around.channel := by
  induction fuel generalizing w around with
  | zero =>
      intro handle
      rfl
  | succ fuel ih =>
      have hstep := balanced_step suspended h
      unfold run
      dsimp only
      split
      · exact hstep
      · exact hstep.trans (ih (h.step suspended))

/-- A worker does not concern any endpoint but its own. -/
theorem spares_run (fuel : Nat) (h : w.Counted around.channel) {handle : Handle}
    (hne : handle ≠ w.handle) :
    Bus.Spares handle around.channel (w.run suspended fuel around).around.channel where
  lasts hlive := by
    have hquenches : Bus.Quenches (fun _ => False) around.channel
        (w.run suspended fuel around).around.channel :=
      Bus.calm_quenches.worker_run suspended fuel w around
    exact hquenches.lasts hlive id
  yields hyields := Bus.calm_milder.worker_run suspended fuel w around hyields
  readers := by
    have hbalanced := balanced_run suspended fuel h handle
    have hafter : (w.run suspended fuel around).worker.position.weight handle = 0 := by
      apply weight_position
      rwa [handle_run]
    rw [weight_position hne, hafter] at hbalanced
    exact hbalanced

/-! ### Leaving a read -/

/-- A cancelled worker that begins no other read. -/
def Leaving (w : Worker) : Prop :=
  w.cancelled = true ∧
    match w.duty with
    | .receiving _ _ (.reading _) _ => False
    | _ => True

theorem Leaving.position (h : w.Leaving) : w.position = .free := by
  obtain ⟨handle, cancelled, duty⟩ := w
  cases duty with
  | sending sender feed stage => rfl
  | receiving receiver sink stage buffer =>
      cases stage with
      | reading resumed => exact absurd h.2 id
      | _ => rfl

theorem Leaving.step (h : w.Leaving) : (w.step suspended around).worker.Leaving := by
  obtain ⟨handle, cancelled, duty⟩ := w
  obtain ⟨rfl, hduty⟩ : cancelled = true ∧ _ := h
  cases duty with
  | sending sender feed stage => exact ⟨rfl, trivial⟩
  | receiving receiver sink stage buffer =>
      cases stage with
      | idle => exact ⟨rfl, trivial⟩
      | reading resumed => exact absurd hduty id
      | delivering count =>
          unfold Worker.step Receiver.step
          dsimp only
          split
          · refine ⟨rfl, ?_⟩
            split
            · rename_i heq
              split at heq <;> cases heq
            · trivial
          · exact ⟨rfl, trivial⟩
      | failed error => exact ⟨rfl, trivial⟩
      | ended exit => exact ⟨rfl, trivial⟩

theorem Leaving.run (h : w.Leaving) (fuel : Nat) :
    (w.run suspended fuel around).worker.Leaving := by
  induction fuel generalizing w around with
  | zero => exact h
  | succ fuel ih =>
      unfold Worker.run
      dsimp only
      split
      · exact h.step suspended
      · exact ih (h.step suspended)

/-- A worker that waits is inside a read. -/
theorem duty_of_waits (h : w.position.waitsAt w.handle = true) :
    ∃ receiver sink buffer, w.duty = .receiving receiver sink (.reading true) buffer := by
  unfold position at h
  split at h
  · exact ⟨_, _, _, ‹_›⟩
  · cases h

/-- A read that waits at an endpoint ends when the endpoint is woken. -/
theorem Leaving.of_woken {p : Pipe} (hcancelled : w.cancelled = true)
    (hwaits : w.position.waitsAt w.handle = true) (hp : around.channel.pipe? w.handle = some p)
    (hwoken : p.woken = true) : (w.step suspended around).worker.Leaving := by
  obtain ⟨receiver, sink, buffer, hduty⟩ := duty_of_waits hwaits
  have hfinished := Bus.read_woken (fun q hq => Option.some.inj (hp.symm.trans hq) ▸ hwoken) true
    receiver.limit
  obtain ⟨handle, cancelled, duty⟩ := w
  obtain rfl : duty = _ := hduty
  obtain ⟨result, b, hreply⟩ := hfinished
  have hlink : Channel.read true handle receiver.limit around.channel = (.finished result, b) :=
    hreply
  unfold Worker.step Receiver.step receiverLink
  dsimp only
  rw [hlink]
  cases result with
  | error e => exact ⟨hcancelled, trivial⟩
  | ok received => exact ⟨hcancelled, trivial⟩

theorem exit?_of_waits (h : w.position.waitsAt w.handle = true) : w.exit? = none := by
  obtain ⟨receiver, sink, buffer, hduty⟩ := duty_of_waits h
  unfold exit?
  rw [hduty]

/-- The surroundings once the endpoint of the worker is woken. -/
def woken (w : Worker) (around : Surroundings Bus) : Surroundings Bus :=
  { around with channel := around.channel.wake w.handle }

theorem readers_woken (handle : Handle) :
    (w.woken around).channel.readers handle = around.channel.readers handle := by
  have hsame := around.channel.sameTable_wake w.handle handle
  simp [woken, Bus.readers, hsame]

theorem Counted.woken (h : w.Counted around.channel) : w.Counted (w.woken around).channel := by
  unfold Counted at h ⊢
  rw [readers_woken]
  exact h

theorem join_running (h : w.exit? = none) :
    (w.join suspended around).2.2 = (w.run suspended joinSteps (w.woken around)).around := by
  unfold join
  rw [h]
  rfl

/-- Waiting for a worker does not concern any other endpoint. -/
theorem spares_join (h : w.Counted around.channel) {handle : Handle} (hne : handle ≠ w.handle) :
    Bus.Spares handle around.channel (w.join suspended around).2.2.channel := by
  cases hexit : w.exit? with
  | some exit =>
      unfold join
      rw [hexit]
      exact .refl handle around.channel
  | none =>
      have hwoken : Bus.Spares handle around.channel (w.woken around).channel :=
        Bus.spares_of_table (Bus.calm_quenches.wake w.handle around.channel)
          (Bus.calm_milder.wake w.handle around.channel)
          (around.channel.sameTable_wake w.handle) handle
      rw [join_running suspended hexit]
      exact hwoken.trans (spares_run suspended joinSteps h.woken hne)

/-- A cancelled worker that waited leaves its endpoint without a reader. -/
theorem vacant_join (hcancelled : w.cancelled = true)
    (hwaits : w.position.waitsAt w.handle = true) {address : Address}
    (hlive : around.channel.Live w.handle address) (hyields : around.channel.Yields w.handle)
    (hreaders : around.channel.readers w.handle = 1) :
    (w.join suspended around).2.2.channel.Vacant w.handle address := by
  have hquenches : Bus.Quenches (fun _ => False) around.channel
      (w.join suspended around).2.2.channel := Bus.calm_quenches.worker_join suspended w around
  refine ⟨hquenches.lasts hlive id, Bus.calm_milder.worker_join suspended w around hyields, ?_⟩
  have hweight : w.position.weight w.handle = 1 := if_pos hwaits
  have hcounted : w.Counted around.channel := by
    unfold Counted
    omega
  have hleaving : (w.run suspended joinSteps (w.woken around)).worker.Leaving := by
    obtain ⟨p, hp, -⟩ := hlive
    have hwoken : (w.woken around).channel.pipe? w.handle = some { p with woken := true } :=
      Bus.pipe?_modified hp _
    have hstep := Leaving.of_woken suspended hcancelled hwaits hwoken rfl
    show (w.run suspended (7 + 1) (w.woken around)).worker.Leaving
    unfold run
    dsimp only
    split
    · exact hstep
    · exact hstep.run suspended 7
  have hbalanced := balanced_run suspended joinSteps hcounted.woken w.handle
  rw [hleaving.position, hweight, readers_woken, hreaders] at hbalanced
  rw [join_running suspended (exit?_of_waits hwaits)]
  simpa using hbalanced

end Worker

/-! ### Slots -/

namespace Slot

/-- Where the worker of the slot stands, if there is one. -/
def position (slot : Slot) : Position := (slot.worker.map Worker.position).getD .free

/-- Whether the worker of the slot waits. -/
def waits (slot : Slot) : Bool := slot.position.waitsAt slot.handle

/-- The endpoint of an address is enabled, does not refuse, and has no reader but the worker of the
slot. -/
structure Posted (slot : Slot) (b : Bus) (address : Address) : Prop where
  live : b.Live slot.handle address
  yields : b.Yields slot.handle
  readers : b.readers slot.handle = slot.position.weight slot.handle
  own {w : Worker} : slot.worker = some w → w.handle = slot.handle

variable {slot : Slot} {b b' : Bus} {address : Address}

theorem position_cancelled (slot : Slot) : slot.cancelled.position = slot.position := by
  unfold position cancelled
  cases slot.worker <;> rfl

theorem Posted.cancelled (h : slot.Posted b address) : slot.cancelled.Posted b address where
  live := h.live
  yields := h.yields
  readers := by
    rw [position_cancelled]
    exact h.readers
  own {w} hw := by
    obtain ⟨w, hworker, rfl⟩ := Option.map_eq_some_iff.mp hw
    have hown := h.own hworker
    exact hown

theorem Posted.spared (h : slot.Posted b address) (hspares : Bus.Spares slot.handle b b') :
    slot.Posted b' address :=
  ⟨hspares.lasts h.live, hspares.yields h.yields, hspares.readers.trans h.readers, h.own⟩

/-- Whether a worker waits can be seen from the readers of its endpoint. -/
theorem Posted.waits_iff (h : slot.Posted b address) :
    slot.waits = true ↔ b.readers slot.handle = 1 := by
  rw [h.readers]
  unfold Position.weight
  by_cases hwaits : slot.position.waitsAt slot.handle = true
  · simp [waits, hwaits]
  · simp [waits, hwaits]

theorem Posted.waits_eq {slot' : Slot} {address' : Address} (h : slot.Posted b address)
    (h' : slot'.Posted b address') (hhandle : slot'.handle = slot.handle) :
    slot'.waits = slot.waits := by
  rw [Bool.eq_iff_iff, h.waits_iff, h'.waits_iff, hhandle]

/-- Only a waiting worker keeps its endpoint from being disabled. -/
theorem Posted.vacant (h : slot.Posted b address) (hwaits : slot.waits = false) :
    b.Vacant slot.handle address := by
  refine ⟨h.live, h.yields, h.readers.trans ?_⟩
  unfold Position.weight
  rw [if_neg]
  simpa [waits] using hwaits

theorem Posted.disable_busy (h : slot.Posted b address) (hwaits : slot.waits = true) :
    b.disable slot.handle = (.error (.channel .epDisable .ebusy), b) := by
  refine Bus.disable_busy h.live h.yields ?_
  rw [h.readers]
  unfold Position.weight
  rw [if_pos]
  · exact Nat.one_pos
  · exact hwaits

/-- Endpoints of different addresses have different handles. -/
theorem Posted.ne {slot' : Slot} {address' : Address} (h : slot.Posted b address)
    (h' : slot'.Posted b address') (hne : address ≠ address') : slot.handle ≠ slot'.handle := by
  intro hhandle
  obtain ⟨p, hp, -, rfl⟩ := h.live
  obtain ⟨q, hq, -, rfl⟩ := h'.live
  rw [hhandle, hq] at hp
  obtain rfl := Option.some.inj hp
  exact hne rfl

end Slot

/-! ### Taking slots down -/

namespace Gadget

variable {P : Type} {slots : List (Address × Slot)} {g : Gadget Bus P}

/-- The slots have different handles. -/
def Distinct (slots : List (Address × Slot)) : Prop :=
  slots.Pairwise fun e e' => e.2.handle ≠ e'.2.handle

/-- The first endpoint is busy. -/
theorem disableAll_busy {address : Address} {slot : Slot} (h : slot.Posted g.bus address)
    (hwaits : slot.waits = true) (rest : List (Address × Slot)) :
    ∃ journal, teardown.disableAll ((address, slot) :: rest) g =
      let r := teardown.disableAll rest { g with journal }
      ((address, slot.handle) :: r.1, r.2) := by
  have hbusy : Channel.disable slot.handle
      (g.noted [.disabling address slot.handle]).around.channel = _ := h.disable_busy hwaits
  rw [disableAll_cons, does_call, hbusy]
  exact ⟨_, rfl⟩

/-- The first endpoint is disabled. -/
theorem disableAll_vacant {address : Address} {slot : Slot}
    (h : g.bus.Vacant slot.handle address) (rest : List (Address × Slot)) :
    ∃ journal, teardown.disableAll ((address, slot) :: rest) g =
      teardown.disableAll rest
        { g.withChannel (g.bus.disable slot.handle).2 with journal } := by
  have hdisabled : (Channel.disable slot.handle
      (g.noted [.disabling address slot.handle]).around.channel).1 = .ok () := h.disable
  rw [disableAll_cons, does_call, hdisabled]
  exact ⟨_, rfl⟩

/-- The endpoints that are busy are those whose workers wait, and what is not disabled stays as it
is. -/
theorem disableAll_posted (hslots : ∀ e ∈ slots, e.2.Posted g.bus e.1)
    (hdistinct : Distinct slots) :
    (teardown.disableAll slots g).1 =
        (slots.filter (·.2.waits)).map (fun e => (e.1, e.2.handle)) ∧
      ∀ (address : Address) (slot : Slot), slot.Posted g.bus address →
        (∀ e ∈ slots, e.2.handle = slot.handle → e.2.waits = true) →
        slot.Posted (teardown.disableAll slots g).2.bus address := by
  induction slots generalizing g with
  | nil => exact ⟨rfl, fun address slot h _ => h⟩
  | cons e rest ih =>
      obtain ⟨address, slot⟩ := e
      obtain ⟨hhead, hrest⟩ := List.forall_mem_cons.mp hslots
      obtain ⟨hne, hdistinct⟩ := List.pairwise_cons.mp hdistinct
      cases hwaits : slot.waits with
      | true =>
          have hfilter : ((address, slot) :: rest).filter (·.2.waits) =
              (address, slot) :: rest.filter (·.2.waits) := List.filter_cons_of_pos hwaits
          obtain ⟨journal, hall⟩ := disableAll_busy hhead hwaits rest
          obtain ⟨hbusy, hkept⟩ := ih (g := { g with journal }) hrest hdistinct
          rw [hall, hfilter]
          refine ⟨congrArg _ hbusy, fun a s hs hsame => hkept a s hs fun e he => ?_⟩
          exact hsame e (List.mem_cons_of_mem _ he)
      | false =>
          have hfilter : ((address, slot) :: rest).filter (·.2.waits) =
              rest.filter (·.2.waits) := List.filter_cons_of_neg (by simp [hwaits])
          obtain ⟨journal, hall⟩ := disableAll_vacant (hhead.vacant hwaits) rest
          have hspares : ∀ handle, handle ≠ slot.handle →
              Bus.Spares handle g.bus (g.bus.disable slot.handle).2 :=
            fun _ hne => g.bus.spares_disable hne
          have hposted : ∀ e ∈ rest, e.2.Posted (g.bus.disable slot.handle).2 e.1 :=
            fun e he => (hrest e he).spared (hspares _ (hne e he).symm)
          obtain ⟨hbusy, hkept⟩ := ih
            (g := { g.withChannel (g.bus.disable slot.handle).2 with journal }) hposted hdistinct
          rw [hall, hfilter]
          refine ⟨hbusy, fun a s hs hsame => hkept a s (hs.spared (hspares _ ?_)) fun e he => ?_⟩
          · intro hhandle
            have hwaiting := hsame _ List.mem_cons_self hhandle.symm
            rw [hwaits] at hwaiting
            cases hwaiting
          · exact hsame e (List.mem_cons_of_mem _ he)

/-- A slot whose worker, if there is one, was cancelled, and is counted where it waits. -/
structure Dismissed (b : Bus) (e : Address × Slot) : Prop where
  cancelled {w : Worker} : e.2.worker = some w → w.handle = e.2.handle ∧ w.cancelled = true
  posted : e.2.waits = true → e.2.Posted b e.1

theorem Dismissed.counted {b : Bus} {e : Address × Slot} (h : Dismissed b e) {w : Worker}
    (hw : e.2.worker = some w) : w.Counted b := by
  have hown := (h.cancelled hw).1
  have hposition : e.2.position = w.position := by simp [Slot.position, hw]
  unfold Worker.Counted
  cases hwaits : e.2.waits with
  | true =>
      have hreaders := (h.posted hwaits).readers
      rw [hposition, ← hown] at hreaders
      exact Nat.le_of_eq hreaders.symm
  | false =>
      unfold Slot.waits at hwaits
      unfold Position.weight
      rw [hown, ← hposition, hwaits]
      exact Nat.zero_le _

theorem Dismissed.spared {b b' : Bus} {e : Address × Slot} (h : Dismissed b e)
    (hspares : Bus.Spares e.2.handle b b') : Dismissed b' e :=
  ⟨h.cancelled, fun hwaits => (h.posted hwaits).spared hspares⟩

section join

variable {address : Address} {slot : Slot} {w : Worker} (h : Dismissed g.bus (address, slot))
  (hworker : slot.worker = some w)
include h hworker

/-- Waiting for a worker spares the other endpoints. -/
theorem Dismissed.spares_join {handle : Handle} (hne : handle ≠ slot.handle) :
    Bus.Spares handle g.bus (w.join g.state.suspended g.around).2.2.channel := by
  have hown : w.handle = slot.handle := (h.cancelled hworker).1
  rw [← hown] at hne
  exact w.spares_join g.state.suspended (h.counted hworker) hne

/-- Waiting for a worker that waits in a read makes its endpoint vacant. -/
theorem Dismissed.vacant_join (hwaits : slot.waits = true) :
    (w.join g.state.suspended g.around).2.2.channel.Vacant slot.handle address := by
  obtain ⟨hown, hcancelled⟩ := h.cancelled hworker
  have hown : w.handle = slot.handle := hown
  have hposted := h.posted hwaits
  have hposition : slot.position = w.position := by simp [Slot.position, hworker]
  have hwaiting : w.position.waitsAt slot.handle = true := by
    rw [← hposition]
    exact hwaits
  have hlive : g.bus.Live slot.handle address := hposted.live
  have hyields : g.bus.Yields slot.handle := hposted.yields
  have hreaders : g.bus.readers slot.handle = 1 := by
    rw [hposted.readers, hposition]
    exact if_pos hwaiting
  rw [← hown] at hwaiting hlive hyields hreaders ⊢
  exact w.vacant_join g.state.suspended hcancelled hwaiting hlive hyields hreaders

end join

/-- Once its workers were waited for, an endpoint has no reader any more. -/
theorem joinAll_vacant (hslots : ∀ e ∈ slots, Dismissed g.bus e) (hdistinct : Distinct slots) :
    (∀ (handle : Handle) (address : Address), g.bus.Vacant handle address →
        (∀ e ∈ slots, e.2.handle ≠ handle) →
        (teardown.joinAll slots g).2.bus.Vacant handle address) ∧
      ∀ e ∈ slots, e.2.waits = true →
        (teardown.joinAll slots g).2.bus.Vacant e.2.handle e.1 := by
  induction slots generalizing g with
  | nil => exact ⟨fun handle address h _ => h, fun _ he => absurd he List.not_mem_nil⟩
  | cons e rest ih =>
      obtain ⟨address, slot⟩ := e
      obtain ⟨hhead, hrest⟩ := List.forall_mem_cons.mp hslots
      obtain ⟨hne, hdistinct⟩ := List.pairwise_cons.mp hdistinct
      rw [joinAll_cons]
      cases hworker : slot.worker with
      | none =>
          obtain ⟨hkept, hvacant⟩ := ih hrest hdistinct
          refine ⟨fun handle a h hother => ?_, ?_⟩
          · exact hkept handle a h fun e he => hother e (List.mem_cons_of_mem _ he)
          · refine List.forall_mem_cons.mpr ⟨fun hwaits => ?_, hvacant⟩
            simp [Slot.waits, Slot.position, hworker, Position.waitsAt] at hwaits
      | some w =>
          have hspares : ∀ handle, handle ≠ slot.handle → Bus.Spares handle g.bus
              (w.join g.state.suspended g.around).2.2.channel := fun _ => hhead.spares_join hworker
          have hjoined := hhead.vacant_join hworker
          dsimp only
          generalize hafter : ({ g with
              around := (w.join g.state.suspended g.around).2.2
              journal := (g.journal.addWorker address
                (w.join g.state.suspended g.around).2.1).add
                  [.workerStopped address (w.join g.state.suspended g.around).1] } :
            Gadget Bus P) = g₁
          have hbus : g₁.bus = (w.join g.state.suspended g.around).2.2.channel := by
            rw [← hafter]
            rfl
          rw [← hbus] at hspares hjoined
          obtain ⟨hkept, hvacant⟩ := ih (g := g₁)
            (fun e he => (hrest e he).spared (hspares _ (hne e he).symm)) hdistinct
          refine ⟨fun handle a h hother => ?_, ?_⟩
          · have hhere := hother _ List.mem_cons_self
            exact hkept handle a (h.spared (hspares _ hhere.symm)) fun e he =>
              hother e (List.mem_cons_of_mem _ he)
          · refine List.forall_mem_cons.mpr ⟨fun hwaits => ?_, hvacant⟩
            exact hkept slot.handle address (hjoined hwaits) fun e he => (hne e he).symm

/-- Endpoints without readers are disabled without a failure. -/
theorem retryAll_vacant {busy : List (Address × Handle)}
    (hbusy : ∀ e ∈ busy, g.bus.Vacant e.2 e.1) (hdistinct : busy.Pairwise fun e e' => e.2 ≠ e'.2) :
    (teardown.retryAll busy g).1 = [] := by
  induction busy generalizing g with
  | nil => rfl
  | cons e rest ih =>
      obtain ⟨address, handle⟩ := e
      obtain ⟨hhead, hrest⟩ := List.forall_mem_cons.mp hbusy
      obtain ⟨hne, hdistinct⟩ := List.pairwise_cons.mp hdistinct
      have hdisabled : (Channel.disable handle g.around.channel).1 = .ok () := hhead.disable
      rw [retryAll_cons, does_call, hdisabled]
      refine ih (fun e he => ?_) hdistinct
      exact (hrest e he).spared (g.bus.spares_disable (hne e he).symm)

/-! ### Orderly rosters -/

/-- Every endpoint of the roster is enabled, does not refuse to be disabled, and has no reader but its
worker. -/
structure Orderly (g : Gadget Bus P) : Prop where
  sound : g.bus.Sound
  posted {address : Address} {slot : Slot} :
    (address, slot) ∈ g.roster.entries → slot.Posted g.bus address

/-- A device without a roster on a sound bus is orderly. -/
theorem orderly_of_empty (hsound : g.bus.Sound) (hroster : g.roster = .empty) : g.Orderly where
  sound := hsound
  posted h := by
    rw [hroster] at h
    cases h

theorem Orderly.distinct (hg : g.Orderly) : Distinct g.roster.entries := by
  refine g.roster.sorted.imp_of_mem fun {e e'} he he' hlt => ?_
  have hne : e.1 ≠ e'.1 := by
    intro heq
    rw [heq] at hlt
    exact UInt8.lt_irrefl _ hlt
  exact (hg.posted he).ne (hg.posted he') hne

theorem Orderly.of_spares {g' : Gadget Bus P} (hg : g.Orderly) (hsound : g'.bus.Sound)
    (hroster : g'.roster = g.roster)
    (hspares : ∀ handle, Bus.Spares handle g.bus g'.bus) : g'.Orderly where
  sound := hsound
  posted h := by
    rw [hroster] at h
    exact (hg.posted h).spared (hspares _)

/-- **An orderly roster can be taken down.** -/
theorem Orderly.stop (hg : g.Orderly) : ∃ exits, (g.does stop).1 = .ok exits := by
  let slots := cancelledSlots g.roster.entries
  have hslots : ∀ e ∈ slots, e.2.Posted g.bus e.1 := by
    intro e he
    obtain ⟨e, hmem, rfl⟩ := List.mem_map.mp he
    exact (hg.posted hmem).cancelled
  have hdistinct : Distinct slots := List.pairwise_map.mpr hg.distinct
  obtain ⟨hbusy, hposted⟩ := disableAll_posted (g := g.forgotten) hslots hdistinct
  let disabled := teardown.disableAll slots g.forgotten
  -- a worker that waits keeps its endpoint enabled, and is still counted there
  have hdismissed : ∀ e ∈ slots, Dismissed disabled.2.bus e := by
    intro e he
    refine ⟨fun {w} hw => ⟨(hslots e he).own hw, ?_⟩, fun hwaits => ?_⟩
    · obtain ⟨e, -, rfl⟩ := List.mem_map.mp he
      obtain ⟨w, -, rfl⟩ := Option.map_eq_some_iff.mp hw
      rfl
    · refine hposted e.1 e.2 (hslots e he) fun e' he' hhandle => ?_
      rw [(hslots e he).waits_eq (hslots e' he') hhandle]
      exact hwaits
  have hvacant := (joinAll_vacant hdismissed hdistinct).2
  have hretried : (teardown.retryAll disabled.1 (teardown.joinAll slots disabled.2).2).1 = [] := by
    rw [show disabled.1 = _ from hbusy]
    refine retryAll_vacant ?_ ?_
    · intro p hp
      obtain ⟨e, he, rfl⟩ := List.mem_map.mp hp
      obtain ⟨hmem, hwaits⟩ := List.mem_filter.mp he
      exact hvacant e hmem hwaits
    · exact List.pairwise_map.mpr (hdistinct.filter _)
  exact ok_of_retried hretried

/-- The addresses that a device does not have in its roster. -/
def spares (g : Gadget Bus P) (address : Address) : Bool := !g.roster.contains address

/-- What is live at an address of the roster is the handle of the roster. -/
theorem Orderly.holds_iff (hg : g.Orderly) {handle : Handle} {address : Address}
    (hlive : g.bus.Live handle address) : g.Holds handle ↔ g.roster.contains address = true := by
  constructor
  · rintro ⟨⟨a, slot⟩, hmem, rfl⟩
    have hposted := hg.posted hmem
    by_contra hcontains
    obtain ⟨p, hp, -, rfl⟩ := hlive
    obtain ⟨q, hq, -, rfl⟩ := hposted.live
    have hpq : some p = some q := hp.symm.trans hq
    obtain rfl := Option.some.inj hpq
    unfold ByteMap.contains at hcontains
    rw [ByteMap.get?_of_mem hmem] at hcontains
    exact hcontains rfl
  · intro hcontains
    obtain ⟨slot, hslot⟩ := Option.isSome_iff_exists.mp hcontains
    have hmem := ByteMap.mem_of_get? hslot
    have hnewest := hg.sound.newest (hg.posted hmem).live
    rw [hg.sound.newest hlive] at hnewest
    exact ⟨_, hmem, (Option.some.inj hnewest).symm⟩

/-- **Taking an orderly roster down succeeds** and disables exactly its endpoints. -/
theorem Orderly.stopped (hg : g.Orderly) :
    ∃ exits around journal, g.does Gadget.stop = (.ok exits, { g.forgotten with around, journal }) ∧
      around.channel.Sound ∧ around.channel.enabled = g.bus.enabled.filter g.spares := by
  obtain ⟨exits, hok⟩ := hg.stop
  have hdisable : ∀ e ∈ g.roster.entries, ∀ b,
      Bus.Quenches g.Holds b (Channel.disable e.2.handle b).2 :=
    fun e he b => Bus.quenches_disable b ⟨e, he, rfl⟩
  have hdoes : g.does Gadget.stop = (.ok exits, (g.does Gadget.stop).2) := Prod.ext hok rfl
  have hoff : ∀ e ∈ g.roster.entries, Bus.Dead e.2.handle (g.does Gadget.stop).2.bus :=
    does_stop_off Bus.calm_quenches Bus.dead_of_disable Bus.Dead.of_quenches hdisable hdoes
  obtain ⟨around, journal, hframe, hquenches⟩ := does_stop_within Bus.calm_quenches g hdisable
  rw [hframe] at hdoes hoff
  refine ⟨exits, around, journal, hdoes, hg.sound.of_quenches hquenches, ?_⟩
  refine Bus.enabled_of_live hg.sound hquenches.places fun handle address => ?_
  unfold spares
  constructor
  · intro hlive
    have hbefore := hquenches.fades hlive
    refine ⟨hbefore, ?_⟩
    rw [Bool.not_eq_true', Bool.eq_false_iff]
    intro hcontains
    obtain ⟨e, he, rfl⟩ := (hg.holds_iff hbefore).mpr hcontains
    exact hoff e he address hlive
  · rintro ⟨hbefore, hcontains⟩
    refine hquenches.lasts hbefore fun hholds => ?_
    rw [(hg.holds_iff hbefore).mp hholds] at hcontains
    cases hcontains

/-! ### What keeps a roster orderly -/

/-- The worker of a slot is counted if it waits. -/
theorem counted_of_posted {b : Bus} {address : Address} {slot : Slot} {w : Worker}
    (h : slot.Posted b address) (hworker : slot.worker = some w) : w.Counted b := by
  unfold Worker.Counted
  rw [h.own hworker, h.readers]
  simp [Slot.position, hworker]

/-- A slot whose worker ran is posted. -/
theorem posted_run {around : Surroundings Bus} {address : Address} {slot : Slot} {w : Worker}
    (h : slot.Posted around.channel address) (hworker : slot.worker = some w) (suspended : Bool)
    (fuel : Nat) :
    let t := w.run suspended fuel around
    Slot.Posted { slot with worker := some t.worker } t.around.channel address := by
  intro t
  have hown := h.own hworker
  have hbalanced : Balanced w.position around.channel t.worker.position t.around.channel :=
    w.balanced_run suspended fuel (counted_of_posted h hworker)
  have hquenches : Bus.Quenches (fun _ => False) around.channel t.around.channel :=
    Bus.calm_quenches.worker_run suspended fuel w around
  refine ⟨hquenches.lasts h.live id,
    Bus.calm_milder.worker_run suspended fuel w around h.yields, ?_, ?_⟩
  · have hbefore := h.readers
    have hreaders := hbalanced slot.handle
    simp only [Slot.position, hworker, Option.map_some, Option.getD_some] at hbefore ⊢
    omega
  · rintro _ ⟨⟩
    exact (w.handle_run suspended fuel).trans hown

/-- **Steps of a worker keep a roster orderly.** -/
theorem Orderly.runWorker (hg : g.Orderly) (fuel : Nat) (address : Address) :
    (g.runWorker fuel address).Orderly := by
  unfold Gadget.runWorker
  cases hworker : (g.roster.get? address).bind (·.worker) with
  | none => exact hg
  | some w =>
      obtain ⟨slot, hslot, hworker⟩ := Option.bind_eq_some_iff.mp hworker
      have hposted := hg.posted (ByteMap.mem_of_get? hslot)
      have hquenches : Bus.Quenches (fun _ => False) g.bus
          (w.run g.state.suspended fuel g.around).around.channel :=
        Bus.calm_quenches.worker_run g.state.suspended fuel w g.around
      refine ⟨hg.sound.of_quenches hquenches, fun {a s} hmem => ?_⟩
      obtain ⟨old, hold, rfl⟩ := ByteMap.mem_modify hmem
      by_cases ha : a = address
      · subst ha
        have hsame : some old = some slot := (ByteMap.get?_of_mem hold).symm.trans hslot
        obtain rfl := Option.some.inj hsame
        rw [if_pos rfl]
        exact posted_run hposted hworker g.state.suspended fuel
      · have hne : old.handle ≠ w.handle := by
          rw [hposted.own hworker]
          exact (hg.posted hold).ne hposted ha
        rw [if_neg ha]
        exact (hg.posted hold).spared
          (w.spares_run g.state.suspended fuel (counted_of_posted hposted hworker) hne)

end Gadget

end UsbPeripheral
