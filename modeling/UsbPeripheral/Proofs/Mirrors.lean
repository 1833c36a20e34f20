import UsbPeripheral.Channel.Traced
import UsbPeripheral.Proofs.Teardown

/-! # One device on two channels

A map between the states of two channels **mirrors** the one on the other if every operation commutes
with it (`Mirrors`).  A device looks at its channel only through the operations, so it does the same on
both: the results agree, and the devices stay images of each other (`Alike`).  At its handlers it looks
only for class and vendor requests; everything else it also does the same when it is **refitted** with
other handlers (`Refits`).

A traced channel is mirrored on the channel underneath.  What is true of the results, the states and
the rosters of traced devices is therefore true of all (`does_traced`). -/

namespace UsbPeripheral

variable {σ τ α β P : Type}

/-- Two acts agree along a map of their states. -/
def Commutes (π : σ → τ) (act : σ → α × σ) (act' : τ → α × τ) : Prop :=
  ∀ s, act' (π s) = ((act s).1, π (act s).2)

/-- The operations of two channels agree along a map of their states. -/
structure Mirrors [Channel σ] [Channel τ] (π : σ → τ) : Prop where
  bind (driver device : String) (speed : Speed) :
    Commutes π (Channel.bind driver device speed) (Channel.bind driver device speed)
  run : Commutes π Channel.run Channel.run
  fetchEvent : Commutes π Channel.fetchEvent Channel.fetchEvent
  ep0Read (room : Nat) : Commutes π (Channel.ep0Read room) (Channel.ep0Read room)
  ep0Write (data : Bytes) : Commutes π (Channel.ep0Write data) (Channel.ep0Write data)
  ep0Stall : Commutes π Channel.ep0Stall Channel.ep0Stall
  enable (endpoint : Endpoint) : Commutes π (Channel.enable endpoint) (Channel.enable endpoint)
  disable (handle : Handle) : Commutes π (Channel.disable handle) (Channel.disable handle)
  read (resumed : Bool) (handle : Handle) (room : Nat) :
    Commutes π (Channel.read resumed handle room) (Channel.read resumed handle room)
  write (handle : Handle) (data : Bytes) :
    Commutes π (Channel.write handle data) (Channel.write handle data)
  wake (handle : Handle) (s : σ) : Channel.wake handle (π s) = π (Channel.wake handle s)
  configure : Commutes π Channel.configure Channel.configure
  vbusDraw (milliamps : UInt32) :
    Commutes π (Channel.vbusDraw milliamps) (Channel.vbusDraw milliamps)
  endpoints : Commutes π Channel.endpoints Channel.endpoints
  setHalt (handle : Handle) : Commutes π (Channel.setHalt handle) (Channel.setHalt handle)
  clearHalt (handle : Handle) : Commutes π (Channel.clearHalt handle) (Channel.clearHalt handle)
  setWedge (handle : Handle) : Commutes π (Channel.setWedge handle) (Channel.setWedge handle)

/-- Writing calls down changes no operation. -/
theorem mirrors_inner [Channel σ] : Mirrors (Traced.inner : Traced σ → σ) := by
  constructor <;> intros <;> first | rfl | exact fun _ => rfl

/-- Every channel mirrors itself. -/
theorem mirrors_id [Channel σ] : Mirrors (id : σ → σ) := by
  constructor <;> intros <;> first | rfl | exact fun _ => rfl

/-! ### Workers -/

/-- A step of a sender in other surroundings. -/
def Sender.Stepped.along (ρ : σ → τ) (t : Sender.Stepped σ) : Sender.Stepped τ :=
  { t with world := ρ t.world }

/-- A step of a receiver in other surroundings. -/
def Receiver.Stepped.along (ρ : σ → τ) (t : Receiver.Stepped σ) : Receiver.Stepped τ :=
  { t with world := ρ t.world }

theorem Sender.step_along {ρ : σ → τ} {link : Sender.Link σ} {link' : Sender.Link τ}
    (hnext : ∀ cancelled, Commutes ρ (link.next cancelled) (link'.next cancelled))
    (hwrite : ∀ data, Commutes ρ (link.write data) (link'.write data)) (s : Sender)
    (cancelled suspended : Bool) (stage : Sender.Stage) (world : σ) :
    s.step link' cancelled suspended stage (ρ world) =
      (s.step link cancelled suspended stage world).along ρ := by
  cases stage with
  | asking =>
      simp only [Sender.step]
      rw [hnext]
      rcases link.next cancelled world with ⟨_ | _ | _, world'⟩ <;> rfl
  | writing piece rest failures =>
      simp only [Sender.step]
      rw [hwrite]
      rcases link.write piece world with ⟨(errno | errno) | count, world'⟩
      · rfl
      · dsimp only
        split <;> rfl
      · rfl
  | ready piece rest failures =>
      simp only [Sender.step]
      split <;> rfl
  | failed piece rest failures errno =>
      simp only [Sender.step]
      split
      · rfl
      · split <;> rfl
  | idle => rfl
  | leaving exit => rfl
  | ended exit => rfl

theorem Receiver.step_along {ρ : σ → τ} {link : Receiver.Link σ} {link' : Receiver.Link τ}
    (hread : ∀ resumed room, Commutes ρ (link.read resumed room) (link'.read resumed room))
    (hdeliver : ∀ data world, link'.deliver data (ρ world) =
      ((link.deliver data world).1, (link.deliver data world).2.1,
        ρ (link.deliver data world).2.2)) (r : Receiver)
    (cancelled suspended : Bool) (stage : Receiver.Stage) (buffer : Bytes) (world : σ) :
    r.step link' cancelled suspended stage buffer (ρ world) =
      (r.step link cancelled suspended stage buffer world).along ρ := by
  cases stage with
  | reading resumed =>
      simp only [Receiver.step]
      rw [hread]
      rcases link.read resumed r.limit world with ⟨_ | (error | received), world'⟩ <;> rfl
  | delivering count =>
      rw [Receiver.step, Receiver.step, hdeliver]
      split <;> rfl
  | idle =>
      simp only [Receiver.step]
      split <;> rfl
  | failed error =>
      simp only [Receiver.step]
      split
      · rfl
      · split <;> rfl
  | ended exit => rfl

/-- The surroundings on another channel. -/
def Surroundings.along (π : σ → τ) (s : Surroundings σ) : Surroundings τ :=
  { channel := π s.channel, depot := s.depot }

/-- A step of a worker on another channel. -/
def Worker.Stepped.along (π : σ → τ) (t : Worker.Stepped σ) : Worker.Stepped τ :=
  { t with around := t.around.along π }

section channels

variable [Channel σ] [Channel τ] {π : σ → τ} (hπ : Mirrors π)
include hπ

theorem Worker.senderLink_along (handle : Handle) (feed : UInt8) (data : Bytes) :
    Commutes (Surroundings.along π) ((senderLink handle feed).write data)
      ((senderLink handle feed).write data) := by
  intro s
  have h := hπ.write handle data s.channel
  exact congrArg (fun r => (r.1, (⟨r.2, s.depot⟩ : Surroundings τ))) h

theorem Worker.receiverLink_along (handle : Handle) (sink : Sink) (resumed : Bool) (room : Nat) :
    Commutes (Surroundings.along π) ((receiverLink handle sink).read resumed room)
      ((receiverLink handle sink).read resumed room) := by
  intro s
  have h := hπ.read resumed handle room s.channel
  exact congrArg (fun r => (r.1, (⟨r.2, s.depot⟩ : Surroundings τ))) h

theorem Worker.step_along (suspended : Bool) (w : Worker) (around : Surroundings σ) :
    w.step suspended (around.along π) = (w.step suspended around).along π := by
  unfold Worker.step
  cases w.duty with
  | sending sender feed stage =>
      have hnext : ∀ cancelled, Commutes (Surroundings.along π)
          ((senderLink w.handle feed).next cancelled) ((senderLink w.handle feed).next cancelled) :=
        fun _ _ => rfl
      dsimp only
      rw [Sender.step_along hnext (Worker.senderLink_along hπ w.handle feed)]
      rfl
  | receiving receiver sink stage buffer =>
      have hdeliver : ∀ data (s : Surroundings σ),
          (receiverLink w.handle sink).deliver data (s.along π) =
            (((receiverLink w.handle sink).deliver data s).1,
              ((receiverLink w.handle sink).deliver data s).2.1,
              ((receiverLink w.handle sink).deliver data s).2.2.along π) :=
        fun _ _ => rfl
      dsimp only
      rw [Receiver.step_along (Worker.receiverLink_along hπ w.handle sink) hdeliver]
      rfl

theorem Worker.run_along (suspended : Bool) (fuel : Nat) (w : Worker) (around : Surroundings σ) :
    w.run suspended fuel (around.along π) = (w.run suspended fuel around).along π := by
  induction fuel generalizing w around with
  | zero => rfl
  | succ fuel ih =>
      rw [Worker.run, Worker.run, Worker.step_along hπ]
      obtain ⟨w', around', notes, blocked⟩ := w.step suspended around
      cases blocked with
      | true => rfl
      | false =>
          have hrest := ih w' around'
          exact congrArg (fun u : Worker.Stepped τ => { u with notes := notes ++ u.notes }) hrest

theorem Worker.join_along (suspended : Bool) (w : Worker) (around : Surroundings σ) :
    w.join suspended (around.along π) =
      ((w.join suspended around).1, (w.join suspended around).2.1,
        (w.join suspended around).2.2.along π) := by
  unfold Worker.join
  cases w.exit? with
  | some exit => rfl
  | none =>
      let woken : Surroundings σ := { around with channel := Channel.wake w.handle around.channel }
      have hwoken : ({ around.along π with channel := Channel.wake w.handle (π around.channel) } :
          Surroundings τ) = woken.along π := by
        rw [hπ.wake]
        rfl
      have hrun := Worker.run_along hπ suspended joinSteps w woken
      rw [← hwoken] at hrun
      exact congrArg (fun t => (t.worker.exit?.getD .cancelled, t.notes, t.around)) hrun

end channels

/-! ### Dispatches -/

namespace Gadget

/-- The device on another channel, with its handlers changed. -/
def refitted (π : σ → τ) (f : HandlerTable P → HandlerTable P) (g : Gadget σ P) : Gadget τ P :=
  { g with around := g.around.along π, handlers := f g.handlers }

/-- The device on another channel. -/
def along (π : σ → τ) (g : Gadget σ P) : Gadget τ P := { g with around := g.around.along π }

section refitted

variable (π : σ → τ) (f : HandlerTable P → HandlerTable P) (g : Gadget σ P)

@[simp] theorem refitted_profile : (g.refitted π f).profile = g.profile := rfl

@[simp] theorem refitted_roster : (g.refitted π f).roster = g.roster := rfl

@[simp] theorem refitted_wedged : (g.refitted π f).wedged = g.wedged := rfl

@[simp] theorem refitted_hasInterface (interface : UInt8) :
    (g.refitted π f).hasInterface interface = g.hasInterface interface := rfl

theorem refitted_refusal? (endpoint : Endpoint) (data : Option EndpointData) :
    (g.refitted π f).refusal? endpoint data = g.refusal? endpoint data := rfl

@[simp] theorem along_handlers : (g.along π).handlers = g.handlers := rfl

end refitted

/-- Two dispatches agree at a device and at the device refitted. -/
def Refits (π : σ → τ) (f : HandlerTable P → HandlerTable P) (g : Gadget σ P) (d : Dispatch σ P α)
    (d' : Dispatch τ P α) : Prop :=
  (g.refitted π f).does d' = ((g.does d).1, (g.does d).2.refitted π f)

/-- Two dispatches agree at a device and its image. -/
def Alike (π : σ → τ) (g : Gadget σ P) (d : Dispatch σ P α) (d' : Dispatch τ P α) : Prop :=
  (g.along π).does d' = ((g.does d).1, (g.does d).2.along π)

variable {π : σ → τ} {f : HandlerTable P → HandlerTable P}

theorem Refits.bind {g : Gadget σ P} {d : Dispatch σ P α} {d' : Dispatch τ P α}
    {k : α → Dispatch σ P β} {k' : α → Dispatch τ P β} (hd : Refits π f g d d')
    (hk : ∀ a g₁, Refits π f g₁ (k a) (k' a)) : Refits π f g (d >>= k) (d' >>= k') := by
  unfold Refits at hd ⊢
  rw [does_bind, does_bind, hd]
  rcases g.does d with ⟨e | a, g₁⟩
  · rfl
  · exact hk a g₁

theorem Refits.get {g : Gadget σ P} {k : Gadget σ P → Dispatch σ P α}
    {k' : Gadget τ P → Dispatch τ P α} (h : Refits π f g (k g) (k' (g.refitted π f))) :
    Refits π f g (MonadState.get >>= k) (MonadState.get >>= k') := h

/-- With the handlers as they are, a device refitted is its image. -/
theorem Refits.alike {g : Gadget σ P} {d : Dispatch σ P α} {d' : Dispatch τ P α}
    (h : Refits π id g d d') : Alike π g d d' := h

theorem Alike.bind {g : Gadget σ P} {d : Dispatch σ P α} {d' : Dispatch τ P α}
    {k : α → Dispatch σ P β} {k' : α → Dispatch τ P β} (hd : Alike π g d d')
    (hk : ∀ a g₁, Alike π g₁ (k a) (k' a)) : Alike π g (d >>= k) (d' >>= k') :=
  Refits.alike (Refits.bind (f := id) hd hk)

theorem Alike.get {g : Gadget σ P} {k : Gadget σ P → Dispatch σ P α}
    {k' : Gadget τ P → Dispatch τ P α} (h : Alike π g (k g) (k' (g.along π))) :
    Alike π g (MonadState.get >>= k) (MonadState.get >>= k') := h

theorem refits_call {act : σ → Except DeviceError α × σ} {act' : τ → Except DeviceError α × τ}
    (h : Commutes π act act') (g : Gadget σ P) : Refits π f g (call act) (call act') := by
  unfold Refits
  rw [does_call, does_call]
  have hact := h g.around.channel
  exact congrArg (fun r => (r.1, (g.refitted π f).withChannel r.2)) hact

/-! ### Requests that leave the channel alone -/

theorem refits_getConfiguration (setup : Setup) (g : Gadget σ P) :
    Refits π f g (getConfiguration setup) (getConfiguration setup) := by
  unfold getConfiguration
  split <;> rfl

theorem refits_getInterface (setup : Setup) (g : Gadget σ P) :
    Refits π f g (getInterface setup) (getInterface setup) := by
  unfold getInterface
  refine Refits.get ?_
  rw [refitted_hasInterface]
  split <;> rfl

theorem refits_startWorker (endpoint : Endpoint) (handle : Handle) (data : Option EndpointData)
    (g : Gadget σ P) :
    Refits π f g (startWorker endpoint handle data) (startWorker endpoint handle data) := by
  unfold startWorker
  refine Refits.get ?_
  rw [refitted_refusal?]
  cases g.refusal? endpoint data with
  | some reason => rfl
  | none =>
      cases data with
      | none => rfl
      | some data =>
          dsimp only
          split <;> rfl

section profile

variable [DeviceProfile P]

theorem refits_getDescriptor (setup : Setup) (g : Gadget σ P) :
    Refits π f g (getDescriptor setup) (getDescriptor setup) := by
  unfold getDescriptor
  split
  · rfl
  · refine Refits.bind rfl fun _ g₁ => Refits.get ?_
    rw [refitted_profile]
    cases DeviceProfile.descriptor? g₁.profile setup.descriptorQuery <;> rfl

theorem refits_getStatus (setup : Setup) (g : Gadget σ P) :
    Refits π f g (getStatus setup) (getStatus setup) := by
  unfold getStatus
  split
  · rfl
  · refine Refits.get ?_
    rw [show (g.refitted π f).statusWord setup = g.statusWord setup from rfl]
    cases g.statusWord setup <;> rfl

theorem refits_setInterface (setup : Setup) (g : Gadget σ P) :
    Refits π f g (setInterface setup) (setInterface setup) := by
  unfold setInterface
  refine Refits.get ?_
  rw [refitted_hasInterface]
  split
  · rfl
  · refine Refits.bind rfl fun found g₁ => ?_
    cases found <;> rfl

theorem refits_startWorkers (enabled : List (Endpoint × Handle)) (g : Gadget σ P) :
    Refits π f g (startWorkers enabled) (startWorkers enabled) := by
  induction enabled generalizing g with
  | nil => rfl
  | cons e rest ih =>
      refine Refits.bind rfl fun data g₁ => ?_
      exact Refits.bind (refits_startWorker e.1 e.2 data g₁) fun _ g₂ => ih g₂

end profile

/-! ### Taking the roster down -/

section devices

variable [Channel σ] [Channel τ] (hπ : Mirrors π)
include hπ

theorem concur_refitted :
    Teardown.Concur (fun (g : Gadget σ P) g' => g' = g.refitted π f) teardown teardown where
  cancel _ _ := concurs_pure _
  disable _ handle := by
    rintro g _ rfl
    exact Prod.ext_iff.mp (refits_call (f := f) (hπ.disable handle) g)
  join address w := by
    rintro g _ rfl
    have hjoin := w.join_along hπ g.state.suspended g.around
    exact Prod.ext_iff.mp (congrArg (fun r => (r.1, ({ g.refitted π f with
      around := r.2.2, journal := g.journal.addWorker address r.2.1 } : Gadget τ P))) hjoin)
  note _ := by
    rintro g _ rfl
    exact ⟨rfl, rfl⟩

theorem refits_stop (g : Gadget σ P) : Refits π f g stop stop := by
  obtain ⟨hresult, hafter⟩ :=
    (concur_refitted (f := f) hπ).stopAll g.roster.entries g.forgotten _ rfl
  exact Prod.ext hresult hafter

/-! ### Requests that reach the channel -/

theorem refits_enableAll (endpoints : List Endpoint) (g : Gadget σ P) :
    Refits π f g (enableAll endpoints) (enableAll endpoints) := by
  induction endpoints generalizing g with
  | nil => rfl
  | cons endpoint rest ih =>
      refine Refits.bind (refits_call (hπ.enable endpoint) g) fun handle g₁ => ?_
      exact Refits.bind (ih g₁) fun enabled g₂ => rfl

theorem refits_hostHalt (address : Address) (set : Bool) (g : Gadget σ P) :
    Refits π f g (hostHalt address set) (hostHalt address set) := by
  unfold hostHalt
  split
  · rfl
  · refine Refits.get ?_
    rw [refitted_roster, refitted_wedged]
    cases g.roster.handle? address with
    | none => rfl
    | some handle =>
        cases set with
        | true => exact Refits.bind (refits_call (hπ.setHalt handle) g) fun _ _ => rfl
        | false =>
            dsimp only
            rw [if_neg Bool.false_ne_true, if_neg Bool.false_ne_true]
            split
            · rfl
            · exact Refits.bind (refits_call (hπ.clearHalt handle) g) fun _ _ => rfl

theorem refits_feature (setup : Setup) (set : Bool) (g : Gadget σ P) :
    Refits π f g (feature setup set) (feature setup set) := by
  unfold feature
  split
  · rfl
  · split
    · rfl
    · split
      · exact refits_hostHalt hπ _ set g
      · rfl

theorem refits_refuse (setup : Setup) (g : Gadget σ P) :
    Refits π f g (refuse setup) (refuse setup) :=
  Refits.bind rfl fun _ g₁ => refits_call hπ.ep0Stall g₁

theorem refits_complete (setup : Setup) (reply : Reply P) (g : Gadget σ P) :
    Refits π f g (complete setup reply) (complete setup reply) := by
  unfold complete
  cases setup.direction with
  | toHost =>
      cases reply with
      | send data => exact Refits.bind (refits_call (hπ.ep0Write _) g) fun _ _ => rfl
      | receive handler => exact Refits.bind rfl fun _ g₁ => refits_refuse hπ setup g₁
      | ack => exact Refits.bind (refits_call (hπ.ep0Write _) g) fun _ _ => rfl
      | stall => exact refits_refuse hπ setup g
  | toDevice =>
      cases reply with
      | send data => exact Refits.bind rfl fun _ g₁ => refits_refuse hπ setup g₁
      | receive handler => exact Refits.bind (refits_call (hπ.ep0Read _) g) fun _ _ => rfl
      | ack =>
          refine Refits.bind (refits_call (hπ.ep0Read _) g) fun data g₁ => ?_
          split <;> rfl
      | stall => exact refits_refuse hπ setup g

section profile

variable [DeviceProfile P]

theorem refits_setConfiguration (setup : Setup) (g : Gadget σ P) :
    Refits π f g (setConfiguration setup) (setConfiguration setup) := by
  unfold setConfiguration
  split
  · rfl
  · dsimp only
    split
    · exact Refits.bind (refits_stop hπ g) fun _ _ => rfl
    · refine Refits.get ?_
      rw [refitted_profile]
      cases DeviceProfile.configuration? g.profile (Bytes.low setup.value) with
      | none => rfl
      | some configuration =>
          refine Refits.bind ?_ fun _ _ => rfl
          refine Refits.bind (refits_stop hπ g) fun _ g₁ => ?_
          refine Refits.bind (refits_enableAll hπ _ g₁) fun enabled g₂ => ?_
          refine Refits.bind (refits_call (hπ.vbusDraw _) g₂) fun _ g₃ => ?_
          refine Refits.bind (refits_call hπ.configure g₃) fun _ g₄ => ?_
          refine Refits.bind rfl fun _ g₅ => ?_
          exact Refits.bind (refits_startWorkers enabled g₅) fun _ _ => rfl

/-- **Standard requests do not look at the handlers.** -/
theorem refits_standard (setup : Setup) (g : Gadget σ P) :
    Refits π f g (standard setup) (standard setup) := by
  unfold standard
  cases StandardRequest.ofCode? setup.request with
  | none => rfl
  | some request =>
      cases request with
      | getStatus => exact refits_getStatus setup g
      | clearFeature => exact refits_feature hπ setup false g
      | setFeature => exact refits_feature hπ setup true g
      | getDescriptor => exact refits_getDescriptor setup g
      | getConfiguration => exact refits_getConfiguration setup g
      | setConfiguration => exact refits_setConfiguration hπ setup g
      | getInterface => exact refits_getInterface setup g
      | setInterface => exact refits_setInterface setup g
      | setAddress => rfl
      | setDescriptor => rfl
      | synchFrame => rfl

/-! ### Events -/

theorem alike_answer (setup : Setup) (g : Gadget σ P) :
    Alike π g (answer setup) (answer setup) := by
  unfold answer
  split
  · exact Alike.bind rfl fun _ g₁ => (refits_standard hπ setup g₁).alike
  · refine Alike.get ?_
    rw [along_handlers]
    cases g.handlers.lookup setup.category setup.request with
    | none => rfl
    | some h => rfl

theorem alike_restart (base : Lifecycle) (g : Gadget σ P) :
    Alike π g (restart base) (restart base) :=
  Alike.bind (refits_stop hπ g).alike fun _ _ => rfl

/-- **A device does not see what carries its channel out.**  On two channels of which one mirrors the
other, every event is handled with the same result, and leaves devices that are images of each
other. -/
theorem alike_handleEvent (event : BusEvent) (g : Gadget σ P) :
    Alike π g (handleEvent event) (handleEvent event) := by
  refine Alike.bind rfl fun _ g₁ => ?_
  cases event with
  | connect =>
      refine Alike.bind (refits_stop hπ g₁).alike fun _ g₂ => ?_
      have hcheck := (refits_call (f := id) hπ.endpoints g₂).alike
      exact Alike.bind (Alike.bind hcheck fun _ _ => rfl) fun _ _ => rfl
  | control setup =>
      exact Alike.bind (alike_answer hπ setup g₁) fun reply g₂ =>
        (refits_complete hπ setup reply g₂).alike
  | suspend => rfl
  | resume => rfl
  | reset => exact Alike.bind (alike_restart hπ .default g₁) fun _ _ => rfl
  | disconnect => exact Alike.bind (alike_restart hπ .unattached g₁) fun _ _ => rfl
  | unknown tag length => rfl
  | malformed tag length => rfl

end profile

end devices

/-! ### Traced devices -/

/-- The device with an empty trace. -/
def traced (g : Gadget σ P) : Gadget (Traced σ) P := g.along fun s => { inner := s }

/-- The device without its trace. -/
def untraced (g : Gadget (Traced σ) P) : Gadget σ P := g.along Traced.inner

theorem does_untraced [Channel σ] [DeviceProfile P] (g : Gadget (Traced σ) P) (event : BusEvent) :
    g.untraced.does (handleEvent event) =
      ((g.does (handleEvent event)).1, (g.does (handleEvent event)).2.untraced) :=
  alike_handleEvent mirrors_inner event g

/-- What a device does with an event is what it does with its calls written down. -/
theorem does_traced [Channel σ] [DeviceProfile P] (g : Gadget σ P) (event : BusEvent) :
    g.does (handleEvent event) = ((g.traced.does (handleEvent event)).1,
      (g.traced.does (handleEvent event)).2.untraced) :=
  does_untraced g.traced event

end Gadget

end UsbPeripheral
