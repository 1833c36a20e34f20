import UsbPeripheral.Gadget.Events

/-! # What workers do to a channel

A worker reaches its channel only by reading, writing and, while it is waited for, being woken.  A
relation between channel states that these three keep is **calm**.  Whatever is calm is kept by every
step of a worker (`Calm.worker_step`), by any number of them (`Calm.worker_run`) and by waiting for
its end (`Calm.worker_join`).  In the device itself the workers touch no handle
(`Gadget.runWorker_within`). -/

namespace UsbPeripheral

/-! ### One step of a sender or receiver -/

section step

variable {ω : Type} {R : ω → ω → Prop} (refl : ∀ w, R w w)
include refl

/-- A step of a sender leaves its surroundings alone, asks the source or makes a write. -/
theorem Sender.step_world (s : Sender) (link : Sender.Link ω) (cancelled suspended : Bool)
    (next : ∀ w, R w (link.next cancelled w).2) (write : ∀ data w, R w (link.write data w).2)
    (stage : Sender.Stage) (world : ω) :
    R world (s.step link cancelled suspended stage world).world := by
  cases stage with
  | asking =>
      have h := next world
      simp only [Sender.step]
      rcases hn : link.next cancelled world with ⟨reply, world'⟩
      rw [hn] at h
      cases reply <;> exact h
  | writing piece rest failures =>
      have h := write piece world
      simp only [Sender.step]
      rcases hw : link.write piece world with ⟨(errno | errno) | count, world'⟩
      · rw [hw] at h
        exact h
      · rw [hw] at h
        dsimp only
        split <;> exact h
      · rw [hw] at h
        exact h
  | ready piece rest failures =>
      simp only [Sender.step]
      split <;> exact refl world
  | failed piece rest failures errno =>
      simp only [Sender.step]
      split
      · exact refl world
      · split <;> exact refl world
  | idle => exact refl world
  | leaving exit => exact refl world
  | ended exit => exact refl world

/-- A step of a receiver leaves its surroundings alone, reads or hands over. -/
theorem Receiver.step_world (r : Receiver) (link : Receiver.Link ω) (cancelled suspended : Bool)
    (read : ∀ resumed room w, R w (link.read resumed room w).2)
    (deliver : ∀ data w, R w (link.deliver data w).2.2) (stage : Receiver.Stage) (buffer : Bytes)
    (world : ω) : R world (r.step link cancelled suspended stage buffer world).world := by
  cases stage with
  | reading resumed =>
      have h := read resumed r.limit world
      simp only [Receiver.step]
      rcases hr : link.read resumed r.limit world with ⟨_ | (error | received), world'⟩ <;>
        · rw [hr] at h
          exact h
  | delivering count =>
      simp only [Receiver.step]
      split
      · exact deliver _ world
      · exact refl world
  | idle =>
      simp only [Receiver.step]
      split <;> exact refl world
  | failed error =>
      simp only [Receiver.step]
      split
      · exact refl world
      · split <;> exact refl world
  | ended exit => exact refl world

end step

/-! ### Calm relations -/

/-- A preorder on channel states that reading, writing and waking keep. -/
structure Calm {σ : Type} [Channel σ] (R : σ → σ → Prop) : Prop where
  refl (s : σ) : R s s
  trans {s₁ s₂ s₃ : σ} : R s₁ s₂ → R s₂ s₃ → R s₁ s₃
  read (resumed : Bool) (handle : Handle) (room : Nat) (s : σ) :
    R s (Channel.read resumed handle room s).2
  write (handle : Handle) (data : Bytes) (s : σ) : R s (Channel.write handle data s).2
  wake (handle : Handle) (s : σ) : R s (Channel.wake handle s)

namespace Calm

/-- The relation of everything to everything is calm. -/
theorem any {σ : Type} [Channel σ] : Calm fun _ _ : σ => True :=
  ⟨fun _ => trivial, fun _ _ => trivial, fun _ _ _ _ => trivial, fun _ _ _ => trivial,
    fun _ _ => trivial⟩

variable {σ : Type} [Channel σ] {R : σ → σ → Prop} (hR : Calm R)
include hR

theorem worker_step (suspended : Bool) (w : Worker) (around : Surroundings σ) :
    R around.channel (w.step suspended around).around.channel := by
  unfold Worker.step
  cases w.duty with
  | sending sender feed stage =>
      exact Sender.step_world (R := fun s s' => R s.channel s'.channel) (fun s => hR.refl s.channel)
        sender (Worker.senderLink w.handle feed) w.cancelled suspended (fun s => hR.refl s.channel)
        (fun data s => hR.write w.handle data s.channel) stage around
  | receiving receiver sink stage buffer =>
      exact Receiver.step_world (R := fun s s' => R s.channel s'.channel)
        (fun s => hR.refl s.channel) receiver (Worker.receiverLink w.handle sink) w.cancelled
        suspended
        (fun resumed room s => hR.read resumed w.handle room s.channel)
        (fun _ s => hR.refl s.channel) stage buffer around

theorem worker_run (suspended : Bool) (fuel : Nat) (w : Worker) (around : Surroundings σ) :
    R around.channel (w.run suspended fuel around).around.channel := by
  induction fuel generalizing w around with
  | zero => exact hR.refl _
  | succ fuel ih =>
      have hstep := hR.worker_step suspended w around
      unfold Worker.run
      dsimp only
      split
      · exact hstep
      · exact hR.trans hstep (ih _ _)

theorem worker_join (suspended : Bool) (w : Worker) (around : Surroundings σ) :
    R around.channel (w.join suspended around).2.2.channel := by
  unfold Worker.join
  cases w.exit? with
  | some exit => exact hR.refl _
  | none =>
      exact hR.trans (hR.wake w.handle around.channel)
        (hR.worker_run suspended Worker.joinSteps w
          { around with channel := Channel.wake w.handle around.channel })

end Calm

/-! ### The workers of a device -/

/-- A step of a worker changes its surroundings, its slot and the journal, and leaves every handle in
the roster where it is. -/
theorem Gadget.runWorker_within {σ P : Type} [Channel σ] {R : σ → σ → Prop} (hR : Calm R)
    (fuel : Nat) (address : Address) (g : Gadget σ P) :
    ∃ around roster journal, g.runWorker fuel address = { g with around, roster, journal } ∧
      R g.around.channel around.channel ∧ ∀ other, roster.handle? other = g.roster.handle? other := by
  unfold Gadget.runWorker
  cases hworker : (g.roster.get? address).bind (·.worker) with
  | none => exact ⟨g.around, g.roster, g.journal, rfl, hR.refl _, fun _ => rfl⟩
  | some worker =>
      refine ⟨_, _, _, rfl, hR.worker_run g.state.suspended fuel worker g.around, ?_⟩
      intro other
      unfold Roster.handle?
      rw [ByteMap.get?_modify]
      split
      · rw [Option.map_map]
        rfl
      · rfl

end UsbPeripheral
