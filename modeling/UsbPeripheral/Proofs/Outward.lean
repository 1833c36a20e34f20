import UsbPeripheral.Proofs.Threads
import UsbPeripheral.Proofs.Transfers

/-! # Failures ahead of writes

A host makes so many writes to an address fail.  They are counted at the endpoint that is enabled
there, next to the transfers that wait for the host: these are the **outward** side of a pipe
(`Bus.Sends`).  If nothing is enabled there they are **owed** to the address (`Bus.Owes`), and the
endpoint that is enabled next gets them (`Bus.Owes.enable`).

Other threads and the host have their turns at the same bus.  Most of these leave the outward side
of an endpoint alone (`Act.spares`), and most leave alone what is owed to an address
(`Act.bypasses`). -/

namespace UsbPeripheral

/-- What a pipe is for transfers to the host. -/
structure Outward where
  address : Address
  enabled : Bool
  /-- Number of writes that are yet to fail. -/
  failures : Nat
  /-- Transfers that the host did not take yet. -/
  queue : List Bytes
  deriving DecidableEq, Repr

/-- The outward side of a pipe. -/
def Pipe.outward (p : Pipe) : Outward := ⟨p.address, p.enabled, p.failWrites, p.toHost⟩

namespace Bus

/-- The outward side of the pipe of a handle. -/
def outward? (b : Bus) (handle : Handle) : Option Outward := (b.pipe? handle).map Pipe.outward

/-- The endpoint that is enabled at an address has so many writes fail, and these transfers wait
there. -/
structure Sends (b : Bus) (address : Address) (handle : Handle) (failures : Nat)
    (queue : List Bytes) : Prop where
  sound : b.Sound
  outward : b.outward? handle = some ⟨address, true, failures, queue⟩

variable {b b' : Bus} {address : Address} {handle other : Handle} {failures : Nat}
  {queue : List Bytes}

theorem outward?_of_pipe {p : Pipe} (hp : b.pipe? handle = some p) :
    b.outward? handle = some p.outward := by
  rw [outward?, hp]
  rfl

theorem outward?_of_pipes (h : b'.pipes = b.pipes) (handle : Handle) :
    b'.outward? handle = b.outward? handle := by
  unfold outward? pipe?
  rw [h]

theorem outward?_modifyPipe (b : Bus) (handle other : Handle) {f : Pipe → Pipe}
    {g : Outward → Outward} (hf : ∀ p, (f p).outward = g p.outward) :
    (b.modifyPipe other f).outward? handle =
      if handle = other then (b.outward? handle).map g else b.outward? handle :=
  b.map_pipe?_modifyPipe other handle hf

theorem Sends.pipe (h : b.Sends address handle failures queue) :
    ∃ p, b.pipe? handle = some p ∧ p.address = address ∧ p.enabled = true ∧
      p.failWrites = failures ∧ p.toHost = queue := by
  obtain ⟨p, hp, houtward⟩ := Option.map_eq_some_iff.mp h.outward
  obtain ⟨haddress, henabled, hfailures, hqueue⟩ := Outward.mk.inj houtward
  exact ⟨p, hp, haddress, henabled, hfailures, hqueue⟩

theorem Sends.live (h : b.Sends address handle failures queue) : b.Live handle address := by
  obtain ⟨p, hp, haddress, henabled, -⟩ := h.pipe
  exact ⟨p, hp, henabled, haddress⟩

theorem sends_of_live (hsound : b.Sound) (h : b.Live handle address) :
    ∃ failures queue, b.Sends address handle failures queue := by
  obtain ⟨p, hp, henabled, rfl⟩ := h
  refine ⟨p.failWrites, p.toHost, hsound, ?_⟩
  rw [outward?_of_pipe hp, Pipe.outward, henabled]

/-- What is changed at an endpoint without disabling it. -/
theorem Sends.changed (h : b.Sends address handle failures queue) {f : Pipe → Pipe}
    {g : Outward → Outward} (hf : ∀ p, (f p).outward = g p.outward)
    {failures' : Nat} {queue' : List Bytes}
    (hg : ∀ o, (g o).address = o.address ∧ (g o).enabled = o.enabled)
    (hnow : g ⟨address, true, failures, queue⟩ = ⟨address, true, failures', queue'⟩) :
    (b.modifyPipe handle f).Sends address handle failures' queue' where
  sound := by
    have hquenches : Quenches (fun _ => False) b (b.modifyPipe handle f) :=
      quenches_of_kept b handle
        (fun p => (congrArg Outward.address (hf p)).trans (hg p.outward).1)
        (fun p => (congrArg Outward.enabled (hf p)).trans (hg p.outward).2)
    exact h.sound.of_quenches hquenches
  outward := by
    rw [outward?_modifyPipe b handle handle hf, if_pos rfl, h.outward]
    exact congrArg some hnow

/-- What is changed at any endpoint, but not on its outward side. -/
theorem Sends.inward (h : b.Sends address handle failures queue) (other : Handle)
    {f : Pipe → Pipe} (hf : ∀ p, (f p).outward = p.outward) :
    (b.modifyPipe other f).Sends address handle failures queue where
  sound := by
    have hquenches : Quenches (fun _ => False) b (b.modifyPipe other f) :=
      quenches_of_kept b other (fun p => congrArg Outward.address (hf p))
        (fun p => congrArg Outward.enabled (hf p))
    exact h.sound.of_quenches hquenches
  outward := by
    rw [outward?_modifyPipe b handle other (g := id) hf]
    split
    · rw [Option.map_id]
      exact h.outward
    · exact h.outward

/-- What is changed at another endpoint without enabling it. -/
theorem Sends.elsewhere (h : b.Sends address handle failures queue) (hother : handle ≠ other)
    {f : Pipe → Pipe} (haddress : ∀ p, (f p).address = p.address)
    (hfades : ∀ p, (f p).enabled = true → p.enabled = true) :
    (b.modifyPipe other f).Sends address handle failures queue where
  sound := by
    have hquenches : Quenches (fun _ => True) b (b.modifyPipe other f) :=
      quenches_modifyPipe b other haddress hfades fun h => absurd trivial h
    exact h.sound.of_quenches hquenches
  outward := by
    unfold outward?
    rw [pipe?_modifyPipe, if_neg hother]
    exact h.outward

theorem Sends.of_pipes (h : b.Sends address handle failures queue) (hpipes : b'.pipes = b.pipes) :
    b'.Sends address handle failures queue where
  sound := h.sound.of_pipes hpipes
  outward := (outward?_of_pipes hpipes handle).trans h.outward

/-! ### At the endpoint -/

/-- As long as failures are left a write fails, and takes one of them off. -/
theorem Sends.write_fails (h : b.Sends address handle failures queue) (hleft : 0 < failures)
    (data : Bytes) :
    ∃ b', b.write handle data = (.error (.failed .eagain), b') ∧
      b'.Sends address handle (failures - 1) queue := by
  obtain ⟨p, hp, -, henabled, rfl, -⟩ := h.pipe
  refine ⟨_, ?_, h.changed (f := fun p => { p with failWrites := p.failWrites - 1 })
    (g := fun o => { o with failures := o.failures - 1 }) (fun _ => rfl) (fun _ => ⟨rfl, rfl⟩) rfl⟩
  simp [write, hp, henabled, hleft]

/-- When none are left the transfer is queued for the host. -/
theorem Sends.write_ok (h : b.Sends address handle 0 queue) (data : Bytes) :
    ∃ b', b.write handle data = (.ok data.length, b') ∧
      b'.Sends address handle 0 (queue ++ [data]) := by
  obtain ⟨p, hp, -, henabled, hleft, -⟩ := h.pipe
  refine ⟨_, ?_, h.changed (f := fun p => { p with toHost := p.toHost ++ [data] })
    (g := fun o => { o with queue := o.queue ++ [data] }) (fun _ => rfl) (fun _ => ⟨rfl, rfl⟩) rfl⟩
  simp [write, hp, henabled, hleft]

/-- A host takes the first transfer that waits. -/
theorem Sends.hostReceive (h : b.Sends address handle failures queue) :
    ∃ taken rest b', b.hostReceive address = (taken, b') ∧ queue = taken.toList ++ rest ∧
      b'.Sends address handle failures rest := by
  obtain ⟨p, hp, -, -, -, hqueue⟩ := h.pipe
  unfold Bus.hostReceive
  rw [h.sound.newest h.live]
  dsimp only
  rw [hp, Option.map_some, hqueue]
  cases hcons : queue with
  | nil => exact ⟨none, [], b, rfl, rfl, hcons ▸ h⟩
  | cons data rest =>
      subst hcons
      refine ⟨some data, rest, _, rfl, rfl, ?_⟩
      exact h.changed (g := fun o => { o with queue := rest }) (fun _ => rfl)
        (fun _ => ⟨rfl, rfl⟩) rfl

theorem Sends.failWrites (h : b.Sends address handle failures queue) (count : Nat) :
    (b.failWrites address count).Sends address handle count queue := by
  obtain ⟨p, hp, -, henabled, -, -⟩ := h.pipe
  unfold Bus.failWrites
  rw [h.sound.newest h.live]
  dsimp only
  rw [hp, Option.any_some, if_pos henabled]
  exact h.changed (g := fun o => { o with failures := count }) (fun _ => rfl)
    (fun _ => ⟨rfl, rfl⟩) rfl

/-! ### Failures that are owed -/

/-- Nothing is enabled at an address, and so many failures are owed to it. -/
structure Owes (b : Bus) (address : Address) (count : Nat) : Prop where
  sound : b.Sound
  unused : address ∉ b.enabled
  owed : b.owedFailures.get? address = some count

variable {count : Nat}

/-- Where nothing is enabled, failures are owed. -/
theorem owes_failWrites (hsound : b.Sound) (hunused : address ∉ b.enabled) (count : Nat) :
    (b.failWrites address count).Owes address count := by
  have howed : (b.failWrites address count) =
      { b with owedFailures := b.owedFailures.insert address count } := by
    have hfree := mt (inUse_iff hsound).mp hunused
    unfold Bus.failWrites
    unfold newestPipe? at hfree
    cases hnewest : b.newest? address with
    | none => rfl
    | some handle =>
        rw [hnewest] at hfree
        exact if_neg hfree
  rw [howed]
  exact ⟨hsound.of_pipes rfl, hunused, ByteMap.get?_insert_self _ _ _⟩

/-- The endpoint that is enabled gets what is owed to its address. -/
theorem enable_owed {endpoint : Endpoint} (h : b.enable endpoint = (.ok handle, b')) :
    let failures := (b.owedFailures.get? endpoint.address).getD 0
    b'.pipes = b.pipes ++ [{ address := endpoint.address, failWrites := failures }] ∧
      b'.owedFailures = b.owedFailures.erase endpoint.address := by
  unfold enable at h
  dsimp only at h
  split at h
  · cases h
  · split at h
    · cases h
    · obtain ⟨-, rfl⟩ := Prod.mk.inj h
      exact ⟨rfl, rfl⟩

theorem Owes.enable {endpoint : Endpoint} (h : b.Owes endpoint.address count)
    (henable : b.enable endpoint = (.ok handle, b')) :
    b'.Sends endpoint.address handle count [] := by
  obtain ⟨hhandle, -, hbound, -⟩ := enable_inv henable
  have hpipes := (enable_owed henable).1
  refine ⟨(enable_spec h.sound henable).sound, ?_⟩
  have hp := pipe?_concat hpipes hbound handle
  rw [if_pos hhandle, h.owed] at hp
  exact outward?_of_pipe hp

/-- What quenches endpoints at most, and owes the address the same. -/
theorem Owes.of_quenches {off : Handle → Prop} (h : b.Owes address count)
    (hquenches : Quenches off b b')
    (howed : b'.owedFailures.get? address = b.owedFailures.get? address) :
    b'.Owes address count := by
  have hsound := h.sound.of_quenches hquenches
  refine ⟨hsound, fun hused => h.unused ?_, howed.trans h.owed⟩
  obtain ⟨handle, hlive⟩ := (mem_enabled hsound).mp hused
  exact (mem_enabled h.sound).mpr ⟨handle, hquenches.fades hlive⟩

end Bus

/-! ### The turns of others -/

/-- What leaves the outward side of an endpoint alone. -/
def Act.spares (address : Address) (handle : Handle) : Act → Bool
  | .disable other => handle ≠ other
  | .write other _ => handle ≠ other
  | .host (.receive there) => there ≠ address
  | .host (.failWrites there _) => there ≠ address
  | _ => true

/-- What does not concern the failures that are owed to an address where nothing is enabled. -/
def Act.bypasses (address : Address) : Act → Bool
  | .enable endpoint => endpoint.address ≠ address
  | .host (.failWrites there _) => there ≠ address
  | _ => true

namespace Bus

variable {b : Bus} {address : Address} {handle : Handle} {failures count : Nat} {queue : List Bytes}

theorem Sends.tryRead (h : b.Sends address handle failures queue) (other : Handle) (room : Nat) :
    (b.tryRead other room).2.Sends address handle failures queue := by
  unfold Bus.tryRead
  split
  · split
    · exact h
    · split
      · exact h.inward other fun _ => rfl
      · split
        · exact h.inward other fun _ => rfl
        · exact h.inward other fun _ => rfl
  · exact h

theorem Sends.read (h : b.Sends address handle failures queue) (resumed : Bool) (other : Handle)
    (room : Nat) : (b.read resumed other room).2.Sends address handle failures queue := by
  unfold Bus.read
  split
  · have hcounted := h.inward (f := fun p => { p with readers := p.readers - 1 }) other fun _ => rfl
    exact hcounted.tryRead other room
  · exact h.tryRead other room

theorem Sends.write (h : b.Sends address handle failures queue) {other : Handle}
    (hother : handle ≠ other) (data : Bytes) :
    (b.write other data).2.Sends address handle failures queue := by
  unfold Bus.write
  split
  · split
    · exact h
    · split
      · exact h.elsewhere hother (fun _ => rfl) fun _ => id
      · exact h.elsewhere hother (fun _ => rfl) fun _ => id
  · exact h

theorem Sends.disable (h : b.Sends address handle failures queue) {other : Handle}
    (hother : handle ≠ other) : (b.disable other).2.Sends address handle failures queue := by
  rcases b.disable_cases other with ⟨error, heq⟩ | ⟨p, -, -, -, heq⟩
  · rw [heq]
    exact h
  · rw [heq]
    have hdisabled := h.elsewhere (f := fun p => { p with enabled := false }) hother (fun _ => rfl)
      fun _ hfalse => nomatch hfalse
    exact hdisabled.of_pipes rfl

/-- An address that is in use is not enabled again. -/
theorem Sends.enable (h : b.Sends address handle failures queue) (endpoint : Endpoint) :
    (b.enable endpoint).2.Sends address handle failures queue := by
  rcases b.enable_cases endpoint with ⟨error, heq⟩ | ⟨owed, b', heq, -, hbound, hpipes⟩
  · rw [heq]
    exact h
  · rw [heq]
    refine ⟨(enable_spec h.sound heq).sound, ?_⟩
    obtain ⟨p, hp, -⟩ := h.pipe
    have hold : handle ≠ UInt32.ofNat (b.pipes.length + 1) := by
      rintro rfl
      rw [pipe?_next hbound] at hp
      cases hp
    unfold outward?
    rw [pipe?_concat hpipes hbound, if_neg hold]
    exact h.outward

/-- The endpoints of two addresses are not the same. -/
theorem Sends.ne_of_newest? (h : b.Sends address handle failures queue) {there : Address}
    {other : Handle} (hthere : there ≠ address) (hother : b.newest? there = some other) :
    handle ≠ other := by
  rintro rfl
  obtain ⟨p, hp, haddress, -⟩ := h.pipe
  obtain ⟨q, hq, rfl⟩ := pipe?_of_newest? h.sound hother
  obtain rfl := Option.some.inj (hp.symm.trans hq)
  exact hthere haddress

theorem Sends.host (h : b.Sends address handle failures queue) {a : HostAct}
    (hspares : (Act.host a).spares address handle = true) :
    (a.apply b).Sends address handle failures queue := by
  cases a with
  | queue event => exact h.of_pipes rfl
  | send there data =>
      show (b.hostSend there data).2.Sends address handle failures queue
      unfold Bus.hostSend
      split
      · split
        · exact h.inward _ fun _ => rfl
        · exact h
      · exact h
  | receive there =>
      have hthere : there ≠ address := of_decide_eq_true hspares
      show (b.hostReceive there).2.Sends address handle failures queue
      unfold Bus.hostReceive
      split
      · rename_i other hother
        split
        · exact h.elsewhere (h.ne_of_newest? hthere hother) (fun _ => rfl) fun _ => id
        · exact h
      · exact h
  | failWrites there count =>
      have hthere : there ≠ address := of_decide_eq_true hspares
      show (b.failWrites there count).Sends address handle failures queue
      unfold Bus.failWrites
      split
      · rename_i other hother
        split
        · exact h.elsewhere (h.ne_of_newest? hthere hother) (fun _ => rfl) fun _ => id
        · exact h.of_pipes rfl
      · exact h.of_pipes rfl
  | refuseDisable there =>
      show (b.refuseDisable there).Sends address handle failures queue
      unfold Bus.refuseDisable
      split
      · exact h.inward _ fun _ => rfl
      · exact h
  | setUdc udc => exact h.of_pipes rfl

/-- A turn that spares the outward side of an endpoint. -/
theorem Sends.turn (h : b.Sends address handle failures queue) (position : Position) {a : Act}
    (hspares : a.spares address handle = true) :
    (position.turn b a).2.Sends address handle failures queue := by
  cases position with
  | waiting other room => exact h.read true other room
  | free =>
      cases a with
      | enable endpoint => exact h.enable endpoint
      | disable other => exact h.disable (of_decide_eq_true hspares)
      | read other room => exact h.read false other room
      | write other data => exact h.write (of_decide_eq_true hspares) data
      | wake other => exact h.inward other fun _ => rfl
      | host a => exact h.host hspares

/-! ### Turns while failures are owed -/

/-- What is changed in the pipes alone. -/
theorem Owes.aside {b' : Bus} {off : Handle → Prop} (h : b.Owes address count)
    (hquenches : Quenches off b b') (haside : b.Aside b') : b'.Owes address count := by
  obtain ⟨pipes, rfl⟩ := haside
  exact h.of_quenches hquenches rfl

theorem Owes.modifyPipe (h : b.Owes address count) (handle : Handle) {f : Pipe → Pipe}
    (haddress : ∀ p, (f p).address = p.address)
    (hfades : ∀ p, (f p).enabled = true → p.enabled = true) :
    (b.modifyPipe handle f).Owes address count := by
  have hquenches : Quenches (fun _ => True) b (b.modifyPipe handle f) :=
    quenches_modifyPipe b handle haddress hfades fun h => absurd trivial h
  exact h.aside hquenches (aside_modifyPipe b handle f)

theorem Owes.disable (h : b.Owes address count) (handle : Handle) :
    (b.disable handle).2.Owes address count := by
  rcases b.disable_cases handle with ⟨error, heq⟩ | ⟨p, -, -, -, heq⟩
  · rw [heq]
    exact h
  · rw [heq]
    have hdisabled := h.modifyPipe (f := fun p => { p with enabled := false }) handle
      (fun _ => rfl) fun _ hfalse => nomatch hfalse
    exact ⟨hdisabled.sound.of_pipes rfl, hdisabled.unused, hdisabled.owed⟩

/-- What is owed to an address is not handed over at another one. -/
theorem Owes.enable_elsewhere (h : b.Owes address count) {endpoint : Endpoint}
    (hother : endpoint.address ≠ address) : (b.enable endpoint).2.Owes address count := by
  rcases henable : b.enable endpoint with ⟨error | handle, b'⟩
  · have hfailed : b' = b := by
      rcases b.enable_cases endpoint with ⟨error, heq⟩ | ⟨failures, b'', heq, -⟩
      · rw [heq] at henable
        exact (Prod.mk.inj henable).2.symm
      · rw [heq] at henable
        cases henable
    rw [hfailed]
    exact h
  · have henabled := enable_spec h.sound henable
    refine ⟨henabled.sound, fun hused => ?_, ?_⟩
    · obtain ⟨live, hlive⟩ := (mem_enabled henabled.sound).mp hused
      rcases henabled.live.mp hlive with hlive | ⟨-, rfl⟩
      · exact h.unused ((mem_enabled h.sound).mpr ⟨live, hlive⟩)
      · exact hother rfl
    · rw [(enable_owed henable).2, ByteMap.get?_erase, if_neg hother.symm]
      exact h.owed

theorem Owes.host (h : b.Owes address count) {a : HostAct}
    (hbypasses : (Act.host a).bypasses address = true) : (a.apply b).Owes address count := by
  have hquenches : Quenches (fun _ => False) b (a.apply b) := a.quenches b
  refine h.of_quenches hquenches ?_
  have hmodify : ∀ handle f, (b.modifyPipe handle f).owedFailures = b.owedFailures :=
    fun handle f => (b.aside_modifyPipe handle f).owedFailures
  cases a with
  | queue event => rfl
  | send there data =>
      show (b.hostSend there data).2.owedFailures.get? address = _
      unfold Bus.hostSend
      split
      · split
        · rw [hmodify]
        · rfl
      · rfl
  | receive there =>
      show (b.hostReceive there).2.owedFailures.get? address = _
      unfold Bus.hostReceive
      split
      · split
        · rw [hmodify]
        · rfl
      · rfl
  | failWrites there count =>
      have hinsert : (b.owedFailures.insert there count).get? address =
          b.owedFailures.get? address :=
        ByteMap.get?_insert_of_ne _ (of_decide_eq_true hbypasses).symm _
      show (b.failWrites there count).owedFailures.get? address = _
      unfold Bus.failWrites
      split
      · split
        · rw [hmodify]
        · exact hinsert
      · exact hinsert
  | refuseDisable there =>
      show (b.refuseDisable there).owedFailures.get? address = _
      unfold Bus.refuseDisable
      split
      · rw [hmodify]
      · rfl
  | setUdc udc => rfl

theorem Owes.turn (h : b.Owes address count) (position : Position) {a : Act}
    (hbypasses : a.bypasses address = true) : (position.turn b a).2.Owes address count := by
  have hcalm : ∀ {b'}, Quenches (fun _ => False) b b' → b.Aside b' → b'.Owes address count :=
    fun hquenches haside => h.aside hquenches haside
  cases position with
  | waiting other room =>
      exact hcalm (calm_quenches.read true other room b) (calm_aside.read true other room b)
  | free =>
      cases a with
      | enable endpoint => exact h.enable_elsewhere (of_decide_eq_true hbypasses)
      | disable other => exact h.disable other
      | read other room =>
          exact hcalm (calm_quenches.read false other room b) (calm_aside.read false other room b)
      | write other data =>
          exact hcalm (calm_quenches.write other data b) (calm_aside.write other data b)
      | wake other => exact hcalm (calm_quenches.wake other b) (calm_aside.wake other b)
      | host a => exact h.host hbypasses

/-- A bus after some turns. -/
def after (b : Bus) (turns : List (Position × Act)) : Bus :=
  turns.foldl (fun b t => (t.1.turn b t.2).2) b

theorem Owes.after (h : b.Owes address count) {turns : List (Position × Act)}
    (hturns : ∀ t ∈ turns, t.2.bypasses address = true) : (b.after turns).Owes address count := by
  induction turns generalizing b with
  | nil => exact h
  | cons t turns ih =>
      obtain ⟨hturn, hturns⟩ := List.forall_mem_cons.mp hturns
      exact ih (h.turn t.1 hturn) hturns

end Bus

end UsbPeripheral
