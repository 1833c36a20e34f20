import Mathlib.Data.List.Nodup
import UsbPeripheral.Channel.Fault
import UsbPeripheral.Emulation.Bus
import UsbPeripheral.Proofs.Pipes
import UsbPeripheral.Proofs.Stopping
import UsbPeripheral.Proofs.Teardown

/-! # Accounts of taking a roster down

Taking a roster down is written down act by act (`Teardown.logged`).  An **account** (`Account`) is what
is written down: which workers were cancelled, the first attempts to disable the endpoints, which workers
were waited for, the second attempts, and the result.  It is **complete** (`Account.Complete`) if no slot
was left out: every worker is cancelled before anything else is done, every endpoint is tried once, every
worker is waited for, and just the endpoints that refused are tried again.

Whatever a channel answers, taking the roster of a device down is complete
(`Gadget.stopWorkers_complete`).  Each pass over the slots has one lemma, by induction on the slots, that
says what it writes down and what comes of it.  A worker that was waited for has ended, on every channel
on which a read that is interrupted does not wait (`Interruptible`). -/

namespace UsbPeripheral

/-! ### What is written down -/

/-- An attempt to disable an endpoint. -/
structure Attempt where
  address : Address
  handle : Handle
  result : Except DeviceError Unit

namespace Attempt

/-- The endpoint that was to be disabled. -/
def endpoint (t : Attempt) : Address × Handle := (t.address, t.handle)

/-- Why the endpoint refused. -/
def error? (t : Attempt) : Option DeviceError :=
  match t.result with
  | .ok () => none
  | .error e => some e

theorem error?_eq_none {t : Attempt} : t.error? = none ↔ t.result = .ok () := by
  unfold error?
  rcases t.result with e | ⟨⟩
  · exact ⟨nofun, nofun⟩
  · exact iff_of_true rfl rfl

end Attempt

/-- A worker that was waited for, as it was before that. -/
structure Joined where
  address : Address
  worker : Worker
  exit : Exit

/-- The workers of slots, with the addresses of their endpoints. -/
def manned (slots : List (Address × Slot)) : List (Address × Worker) :=
  slots.filterMap fun e => e.2.worker.map (e.1, ·)

namespace Teardown

/-- Something that is done to take a roster down. -/
inductive Deed where
  | cancelled (address : Address) (worker : Worker)
  | attempted (attempt : Attempt)
  | joined (joined : Joined)

variable {ω α β : Type}

/-- The acts that also write down what is done. -/
def logged (t : Teardown (StateM ω)) : Teardown (StateM (ω × List Deed)) where
  cancel address worker := fun w =>
    let (cancelled, world) := t.cancel address worker w.1
    (cancelled, world, w.2 ++ [.cancelled address worker])
  disable address handle := fun w =>
    let (result, world) := t.disable address handle w.1
    (result, world, w.2 ++ [.attempted ⟨address, handle, result⟩])
  join address worker := fun w =>
    let (exit, world) := t.join address worker w.1
    (exit, world, w.2 ++ [.joined ⟨address, worker, exit⟩])
  note n := fun w => ((), (t.note n w.1).2, w.2)

/-- Over a log, `x` does what `y` does in the world `s`, and writes down `deeds`. -/
def Logs (x : StateM (ω × List Deed) α) (y : StateM ω α) (s : ω) (deeds : List Deed) : Prop :=
  ∀ log, x (s, log) = ((y s).1, (y s).2, log ++ deeds)

/-- An attempt is one act, made in some world. -/
def Tried (t : Teardown (StateM ω)) (a : Attempt) : Prop :=
  ∃ s, (t.disable a.address a.handle s).1 = a.result

/-- So is waiting for a worker. -/
def Waited (t : Teardown (StateM ω)) (j : Joined) : Prop :=
  ∃ s, (t.join j.address j.worker s).1 = j.exit

section passes

variable (t : Teardown (StateM ω)) (s : ω) (log : List Deed)

theorem Logs.nil (a : α) : Logs (pure a) (pure a) s [] :=
  fun log => by rw [List.append_nil]; rfl

theorem logged_cancel (address : Address) (worker : Worker) :
    t.logged.cancel address worker (s, log) =
      ((t.cancel address worker s).1, (t.cancel address worker s).2,
        log ++ [.cancelled address worker]) := rfl

theorem logged_disable (address : Address) (handle : Handle) :
    t.logged.disable address handle (s, log) =
      ((t.disable address handle s).1, (t.disable address handle s).2,
        log ++ [.attempted ⟨address, handle, (t.disable address handle s).1⟩]) := rfl

theorem logged_join (address : Address) (worker : Worker) :
    t.logged.join address worker (s, log) =
      ((t.join address worker s).1, (t.join address worker s).2,
        log ++ [.joined ⟨address, worker, (t.join address worker s).1⟩]) := rfl

theorem logged_note (n : Note) : t.logged.note n (s, log) = ((), (t.note n s).2, log) := rfl

/-- Cancelling writes down every worker. -/
theorem logs_cancelAll (slots : List (Address × Slot)) :
    Logs (t.logged.cancelAll slots) (t.cancelAll slots) s
      ((manned slots).map fun e => .cancelled e.1 e.2) := by
  induction slots generalizing s with
  | nil => exact .nil s []
  | cons e rest ih =>
      obtain ⟨address, handle, worker⟩ := e
      intro log
      rw [cancelAll_cons, cancelAll_cons]
      cases worker with
      | none =>
          dsimp only
          rw [ih]
          rfl
      | some w =>
          dsimp only
          rw [logged_cancel, ih, List.append_assoc]
          rfl

/-- The first attempts are one for each endpoint, and those that failed are left over. -/
theorem logs_disableAll (slots : List (Address × Slot)) :
    ∃ first : List Attempt,
      first.map (·.endpoint) = slots.map (fun e => (e.1, e.2.handle)) ∧
      (t.disableAll slots s).1 = (first.filter (·.error?.isSome)).map (·.endpoint) ∧
      (∀ a ∈ first, t.Tried a) ∧
      Logs (t.logged.disableAll slots) (t.disableAll slots) s (first.map .attempted) := by
  induction slots generalizing s with
  | nil => exact ⟨[], rfl, rfl, List.forall_mem_nil _, .nil s []⟩
  | cons e rest ih =>
      obtain ⟨address, slot⟩ := e
      let before := (t.note (.disabling address slot.handle) s).2
      rcases hdisable : t.disable address slot.handle before with ⟨e | ⟨⟩, s'⟩
      · obtain ⟨first, hfirst, hbusy, htried, hlogs⟩ := ih (t.note (.disableDeferred address e) s').2
        refine ⟨⟨address, slot.handle, .error e⟩ :: first, ?_, ?_,
          List.forall_mem_cons.mpr ⟨⟨before, congrArg Prod.fst hdisable⟩, htried⟩, fun log => ?_⟩
        · exact congrArg ((address, slot.handle) :: ·) hfirst
        · rw [disableAll_cons, hdisable]
          exact congrArg ((address, slot.handle) :: ·) hbusy
        · rw [disableAll_cons, disableAll_cons, logged_note, logged_disable, hdisable]
          dsimp only
          rw [logged_note, hlogs, ← List.append_cons]
          rfl
      · obtain ⟨first, hfirst, hbusy, htried, hlogs⟩ := ih s'
        refine ⟨⟨address, slot.handle, .ok ()⟩ :: first, ?_, ?_,
          List.forall_mem_cons.mpr ⟨⟨before, congrArg Prod.fst hdisable⟩, htried⟩, fun log => ?_⟩
        · exact congrArg ((address, slot.handle) :: ·) hfirst
        · rw [disableAll_cons, hdisable]
          exact hbusy
        · rw [disableAll_cons, disableAll_cons, logged_note, logged_disable, hdisable]
          dsimp only
          rw [hlogs, ← List.append_cons]
          rfl

/-- Every worker is waited for. -/
theorem logs_joinAll (slots : List (Address × Slot)) :
    ∃ joined : List Joined,
      joined.map (fun j => (j.address, j.worker)) = manned slots ∧
      (t.joinAll slots s).1 = joined.map (fun j => (j.address, j.exit)) ∧
      (∀ j ∈ joined, t.Waited j) ∧
      Logs (t.logged.joinAll slots) (t.joinAll slots) s (joined.map .joined) := by
  induction slots generalizing s with
  | nil => exact ⟨[], rfl, rfl, List.forall_mem_nil _, .nil s []⟩
  | cons e rest ih =>
      obtain ⟨address, handle, worker⟩ := e
      cases worker with
      | none =>
          obtain ⟨joined, hjoined, hexits, hwaited, hlogs⟩ := ih s
          refine ⟨joined, hjoined, ?_, hwaited, fun log => ?_⟩
          · rw [joinAll_cons]
            exact hexits
          · rw [joinAll_cons, joinAll_cons]
            exact hlogs log
      | some w =>
          obtain ⟨joined, hjoined, hexits, hwaited, hlogs⟩ :=
            ih (t.note (.workerStopped address (t.join address w s).1) (t.join address w s).2).2
          refine ⟨⟨address, w, (t.join address w s).1⟩ :: joined, ?_, ?_,
            List.forall_mem_cons.mpr ⟨⟨s, rfl⟩, hwaited⟩, fun log => ?_⟩
          · exact congrArg ((address, w) :: ·) hjoined
          · rw [joinAll_cons]
            exact congrArg ((address, (t.join address w s).1) :: ·) hexits
          · rw [joinAll_cons, joinAll_cons]
            dsimp only
            rw [logged_join, logged_note, hlogs, ← List.append_cons]
            rfl

/-- The second attempts are one for each endpoint that is left. -/
theorem logs_retryAll (busy : List (Address × Handle)) :
    ∃ second : List Attempt,
      second.map (·.endpoint) = busy ∧
      (t.retryAll busy s).1 = second.filterMap (·.error?) ∧
      (∀ a ∈ second, t.Tried a) ∧
      Logs (t.logged.retryAll busy) (t.retryAll busy) s (second.map .attempted) := by
  induction busy generalizing s with
  | nil => exact ⟨[], rfl, rfl, List.forall_mem_nil _, .nil s []⟩
  | cons e rest ih =>
      obtain ⟨address, handle⟩ := e
      rcases hdisable : t.disable address handle s with ⟨e | ⟨⟩, s'⟩
      · obtain ⟨second, hsecond, hfailures, htried, hlogs⟩ :=
          ih (t.note (.disableFailed address e) s').2
        refine ⟨⟨address, handle, .error e⟩ :: second, ?_, ?_,
          List.forall_mem_cons.mpr ⟨⟨s, congrArg Prod.fst hdisable⟩, htried⟩, fun log => ?_⟩
        · exact congrArg ((address, handle) :: ·) hsecond
        · rw [retryAll_cons, hdisable]
          exact congrArg (e :: ·) hfailures
        · rw [retryAll_cons, retryAll_cons, logged_disable, hdisable]
          dsimp only
          rw [logged_note, hlogs, ← List.append_cons]
          rfl
      · obtain ⟨second, hsecond, hfailures, htried, hlogs⟩ := ih s'
        refine ⟨⟨address, handle, .ok ()⟩ :: second, ?_, ?_,
          List.forall_mem_cons.mpr ⟨⟨s, congrArg Prod.fst hdisable⟩, htried⟩, fun log => ?_⟩
        · exact congrArg ((address, handle) :: ·) hsecond
        · rw [retryAll_cons, hdisable]
          exact hfailures
        · rw [retryAll_cons, retryAll_cons, logged_disable, hdisable]
          dsimp only
          rw [hlogs, ← List.append_cons]
          rfl

/-- The result after the workers ended and the second attempts were made. -/
def outcome (joined : List Joined) (second : List Attempt) :
    Except DeviceError (List (Address × Exit)) :=
  match second.filterMap (·.error?) with
  | [] => .ok (joined.map fun j => (j.address, j.exit))
  | e :: _ => .error e

/-- The four passes one after the other, on the slots whose workers were cancelled. -/
theorem logs_stopAll (slots : List (Address × Slot)) :
    ∃ (first : List Attempt) (joined : List Joined) (second : List Attempt),
      first.map (·.endpoint) = (t.cancelAll slots s).1.map (fun e => (e.1, e.2.handle)) ∧
      joined.map (fun j => (j.address, j.worker)) = manned (t.cancelAll slots s).1 ∧
      second.map (·.endpoint) = (first.filter (·.error?.isSome)).map (·.endpoint) ∧
      (t.stopAll slots s).1 = outcome joined second ∧
      (∀ a ∈ first ++ second, t.Tried a) ∧ (∀ j ∈ joined, t.Waited j) ∧
      Logs (t.logged.stopAll slots) (t.stopAll slots) s
        ((manned slots).map (fun e => .cancelled e.1 e.2) ++ first.map .attempted ++
          joined.map .joined ++ second.map .attempted) := by
  let cancelled := t.cancelAll slots s
  let disabled := t.disableAll cancelled.1 cancelled.2
  let joins := t.joinAll cancelled.1 disabled.2
  have hcancelled := t.logs_cancelAll s slots
  obtain ⟨first, hfirst, hbusy, htried, hdisabled⟩ := t.logs_disableAll cancelled.2 cancelled.1
  obtain ⟨joined, hjoined, hexits, hwaited, hjoins⟩ := t.logs_joinAll disabled.2 cancelled.1
  obtain ⟨second, hsecond, hfailures, htriedAgain, hretried⟩ := t.logs_retryAll joins.2 disabled.1
  refine ⟨first, joined, second, hfirst, hjoined, hsecond.trans hbusy, ?_,
    List.forall_mem_append.mpr ⟨htried, htriedAgain⟩, hwaited, fun log => ?_⟩
  · rw [outcome, ← hexits, ← hfailures]
    exact congrArg Prod.fst (t.stopAll_at s slots)
  · rw [stopAll_at, stopAll_at]
    dsimp only
    rw [hcancelled, hdisabled, hjoins, hretried]
    simp only [List.append_assoc]
    rfl

end passes

end Teardown

/-! ### Complete accounts -/

/-- What was written down when a roster was taken down, and the result. -/
structure Account where
  cancelled : List (Address × Worker)
  first : List Attempt
  joined : List Joined
  second : List Attempt
  result : Except DeviceError (List (Address × Exit))

namespace Account

/-- What the account consists of, in the order in which it was done. -/
def deeds (a : Account) : List Teardown.Deed :=
  a.cancelled.map (fun e => .cancelled e.1 e.2) ++ a.first.map .attempted ++ a.joined.map .joined ++
    a.second.map .attempted

/-- Nothing is left out of the account of slots. -/
structure Complete (a : Account) (slots : List (Address × Slot)) : Prop where
  /-- Every worker is cancelled. -/
  cancelled : a.cancelled = manned slots
  /-- Every endpoint is tried once. -/
  first : a.first.map (·.endpoint) = slots.map fun e => (e.1, e.2.handle)
  /-- Every worker is waited for, with its flag set. -/
  joined : a.joined.map (fun j => (j.address, j.worker)) =
    (manned slots).map fun e => (e.1, e.2.cancel)
  /-- Those that refused, and no others, are tried again. -/
  second : a.second.map (·.endpoint) = (a.first.filter (·.error?.isSome)).map (·.endpoint)
  /-- Every pass goes through the addresses in increasing order. -/
  ordered : (a.first.map (·.address)).Pairwise (· < ·) ∧ (a.joined.map (·.address)).Pairwise (· < ·) ∧
    (a.second.map (·.address)).Pairwise (· < ·)
  /-- There is a success if some attempt at every endpoint succeeded. -/
  ok_iff : (∃ exits, a.result = .ok exits) ↔
    ∀ e ∈ slots, ∃ t ∈ a.first ++ a.second, t.endpoint = (e.1, e.2.handle) ∧ t.result = .ok ()
  /-- A success says why the workers ended. -/
  exits : ∀ exits, a.result = .ok exits → exits = a.joined.map fun j => (j.address, j.exit)
  /-- A failure is that of the lowest address at which the second attempt failed. -/
  error : ∀ e, a.result = .error e → ∃ t ∈ a.second, t.error? = some e ∧
    ∀ t' ∈ a.second, t'.error?.isSome = true → t.address ≤ t'.address

theorem map_address (ts : List Attempt) :
    ts.map (·.address) = (ts.map (·.endpoint)).map (·.1) := by
  rw [List.map_map]
  rfl

theorem manned_sublist (slots : List (Address × Slot)) :
    ((manned slots).map (·.1)).Sublist (slots.map (·.1)) := by
  induction slots with
  | nil => exact .slnil
  | cons e rest ih =>
      obtain ⟨address, handle, worker⟩ := e
      cases worker with
      | none => exact ih.cons address
      | some w => exact ih.cons_cons address

/-- In order of the addresses, an attempt is known by its address. -/
theorem eq_of_address {ts : List Attempt} (hordered : (ts.map (·.address)).Pairwise (· < ·))
    {t t' : Attempt} (ht : t ∈ ts) (ht' : t' ∈ ts) (h : t.address = t'.address) : t = t' :=
  List.inj_on_of_nodup_map (hordered.imp UInt8.ne_of_lt) ht ht' h

section complete

variable {slots : List (Address × Slot)} {first second : List Attempt}
  (hsorted : slots.Pairwise (·.1 < ·.1))
  (hfirst : first.map (·.endpoint) = slots.map fun e => (e.1, e.2.handle))
  (hsecond : second.map (·.endpoint) = (first.filter (·.error?.isSome)).map (·.endpoint))
include hsorted hfirst

theorem ordered_first : (first.map (·.address)).Pairwise (· < ·) := by
  rw [map_address, hfirst, List.map_map]
  exact List.pairwise_map.mpr hsorted

include hsecond

theorem ordered_second : (second.map (·.address)).Pairwise (· < ·) := by
  rw [map_address, hsecond, ← map_address]
  exact (ordered_first hsorted hfirst).sublist (List.filter_sublist.map _)

/-- No second attempt fails if some attempt at every endpoint succeeds. -/
theorem filterMap_eq_nil_iff : second.filterMap (·.error?) = [] ↔
    ∀ e ∈ slots, ∃ t ∈ first ++ second, t.endpoint = (e.1, e.2.handle) ∧ t.result = .ok () := by
  rw [List.filterMap_eq_nil_iff]
  constructor
  · intro hnone e he
    have hmem : (e.1, e.2.handle) ∈ first.map (·.endpoint) := hfirst ▸ List.mem_map_of_mem he
    obtain ⟨t, ht, hendpoint⟩ := List.mem_map.mp hmem
    cases herror : t.error? with
    | none =>
        exact ⟨t, List.mem_append_left _ ht, hendpoint, Attempt.error?_eq_none.mp herror⟩
    | some error =>
        have hagain : t.endpoint ∈ second.map (·.endpoint) :=
          hsecond ▸ List.mem_map_of_mem (List.mem_filter.mpr ⟨ht, by rw [herror]; rfl⟩)
        obtain ⟨t', ht', hsame⟩ := List.mem_map.mp hagain
        exact ⟨t', List.mem_append_right _ ht', hsame.trans hendpoint,
          Attempt.error?_eq_none.mp (hnone t' ht')⟩
  · intro hall t ht
    have hmem : t.endpoint ∈ (first.filter (·.error?.isSome)).map (·.endpoint) :=
      hsecond ▸ List.mem_map_of_mem ht
    obtain ⟨t₁, ht₁, hsame⟩ := List.mem_map.mp hmem
    obtain ⟨ht₁, hfailed⟩ := List.mem_filter.mp ht₁
    have hslot : t₁.endpoint ∈ slots.map fun e => (e.1, e.2.handle) :=
      hfirst ▸ List.mem_map_of_mem ht₁
    obtain ⟨e, he, hendpoint⟩ := List.mem_map.mp hslot
    obtain ⟨t', ht', hthere, hok⟩ := hall e he
    have haddress : t'.endpoint = t.endpoint := hthere.trans (hendpoint.trans hsame)
    rcases List.mem_append.mp ht' with ht' | ht'
    · -- the first attempt at this endpoint failed
      have heq := eq_of_address (ordered_first hsorted hfirst) ht' ht₁
        (congrArg Prod.fst (haddress.trans hsame.symm))
      rw [← heq, Attempt.error?_eq_none.mpr hok] at hfailed
      cases hfailed
    · have heq := eq_of_address (ordered_second hsorted hfirst hsecond) ht' ht
        (congrArg Prod.fst haddress)
      exact heq ▸ Attempt.error?_eq_none.mpr hok

/-- The first failure of the second attempts is that of the lowest address. -/
theorem lowest_of_filterMap {e : DeviceError} {failures : List DeviceError}
    (h : second.filterMap (·.error?) = e :: failures) : ∃ t ∈ second, t.error? = some e ∧
      ∀ t' ∈ second, t'.error?.isSome = true → t.address ≤ t'.address := by
  have hordered := ordered_second hsorted hfirst hsecond
  obtain ⟨before, t, after, rfl, hbefore, herror, -⟩ := List.filterMap_eq_cons_iff.mp h
  refine ⟨t, List.mem_append_right _ List.mem_cons_self, herror, fun t' ht' hfailed => ?_⟩
  rcases List.mem_append.mp ht' with ht' | ht'
  · rw [hbefore t' ht'] at hfailed
    cases hfailed
  · rw [List.map_append] at hordered
    have hrest := (List.pairwise_append.mp hordered).2.1
    rcases List.mem_cons.mp ht' with rfl | ht'
    · exact UInt8.le_refl _
    · exact UInt8.le_of_lt ((List.pairwise_cons.mp hrest).1 _ (List.mem_map_of_mem ht'))

/-- What the four passes do makes a complete account. -/
theorem complete_of_passes {joined : List Joined}
    (hjoined : joined.map (fun j => (j.address, j.worker)) =
      (manned slots).map fun e => (e.1, e.2.cancel)) :
    Complete
      { cancelled := manned slots, first, joined, second
        result := Teardown.outcome joined second } slots where
  cancelled := rfl
  first := hfirst
  joined := hjoined
  second := hsecond
  ordered := by
    refine ⟨ordered_first hsorted hfirst, ?_, ordered_second hsorted hfirst hsecond⟩
    have haddresses : joined.map (·.address) = (manned slots).map (·.1) := by
      have h := congrArg (List.map (·.1)) hjoined
      rw [List.map_map, List.map_map] at h
      exact h
    rw [haddresses]
    exact (List.pairwise_map.mpr hsorted).sublist (manned_sublist slots)
  ok_iff := by
    rw [← filterMap_eq_nil_iff hsorted hfirst hsecond]
    unfold Teardown.outcome
    cases second.filterMap (·.error?) with
    | nil => exact iff_of_true ⟨_, rfl⟩ rfl
    | cons e failures => exact iff_of_false nofun nofun
  exits exits h := by
    unfold Teardown.outcome at h
    cases hfailures : second.filterMap (·.error?) with
    | nil =>
      rw [hfailures] at h
      exact (Except.ok.inj h).symm
    | cons e failures =>
      rw [hfailures] at h
      cases h
  error e h := by
    unfold Teardown.outcome at h
    cases hfailures : second.filterMap (·.error?) with
    | nil =>
      rw [hfailures] at h
      cases h
    | cons e' failures =>
      rw [hfailures] at h
      obtain rfl := Except.error.inj h
      exact lowest_of_filterMap hsorted hfirst hsecond hfailures

end complete

end Account

/-! ### Waiting for a worker -/

/-- A read does not wait at an endpoint that was just woken. -/
def Interruptible (σ : Type) [Channel σ] : Prop :=
  ∀ (resumed : Bool) (handle : Handle) (room : Nat) (s : σ), ∃ result s',
    Channel.read resumed handle room (Channel.wake handle s) = (.finished result, s')

theorem Bus.interruptible : Interruptible Bus := by
  intro resumed handle room b
  refine read_woken (fun p hp => ?_) resumed room
  have hp : (b.modifyPipe handle fun p => { p with woken := true }).pipe? handle = some p := hp
  rw [pipe?_modifyPipe, if_pos rfl] at hp
  obtain ⟨q, -, rfl⟩ := Option.map_eq_some_iff.mp hp
  rfl

theorem Faulty.interruptible {σ : Type} [Channel σ] (h : Interruptible σ) :
    Interruptible (Faulty σ) := by
  intro resumed handle room f
  obtain ⟨result, s', hread⟩ := h resumed handle room f.inner
  show ∃ result f', Faulty.read resumed handle room
    { f with inner := Channel.wake handle f.inner } = (.finished result, f')
  unfold Faulty.read
  dsimp only
  split
  · rw [hread]
    exact ⟨_, _, rfl⟩
  · split
    · rw [hread]
      exact ⟨_, _, rfl⟩
    · exact ⟨_, _, rfl⟩
    · exact ⟨_, _, rfl⟩

namespace Worker

/-- Where a worker stands with regard to its flag. -/
def standing (w : Worker) : Standing :=
  match w.duty with
  | .sending _ _ stage => stage.standing
  | .receiving _ _ stage _ => stage.standing

variable {σ : Type} [Channel σ]

/-- A worker as it is once it was waited for. -/
def waitedFor (suspended : Bool) (w : Worker) (around : Surroundings σ) : Worker :=
  match w.exit? with
  | some _ => w
  | none =>
    let woken := { around with channel := Channel.wake w.handle around.channel }
    (w.run suspended joinSteps woken).worker

/-- The worker makes a step, after which it looks at its flag. -/
structure Turns (suspended : Bool) (w : Worker) (around : Surroundings σ) : Prop where
  moves : (w.step suspended around).blocked = false
  cancelled : (w.step suspended around).worker.cancelled = true
  halts : ∃ exit, (w.step suspended around).worker.standing.halt? = some exit

variable (suspended : Bool) {w : Worker} {around : Surroundings σ}

theorem run_of_moves (h : (w.step suspended around).blocked = false) (n : Nat) :
    (w.run suspended (n + 1) around).worker =
      ((w.step suspended around).worker.run suspended n (w.step suspended around).around).worker := by
  rw [run]
  dsimp only
  rw [if_neg (by rw [h]; exact Bool.false_ne_true)]

/-- A worker that has ended stays as it is. -/
theorem run_ended {exit : Exit} (h : w.exit? = some exit) (n : Nat) :
    (w.run suspended n around).worker.exit? = some exit := by
  cases n with
  | zero => exact h
  | succ n =>
      obtain ⟨handle, cancelled, duty⟩ := w
      cases duty with
      | sending sender feed stage =>
          cases stage with
          | ended exit => exact h
          | _ => cases h
      | receiving receiver sink stage buffer =>
          cases stage with
          | ended exit => exact h
          | _ => cases h

/-- A cancelled worker that does not call anybody ends. -/
theorem step_halt {exit : Exit} (hcancelled : w.cancelled = true)
    (h : w.standing.halt? = some exit) : (w.step suspended around).worker.exit? = some exit := by
  obtain ⟨handle, cancelled, duty⟩ := w
  obtain rfl : cancelled = true := hcancelled
  cases duty with
  | sending sender feed stage =>
      cases stage with
      | asking | writing _ _ _ => cases h
      | _ => exact h
  | receiving receiver sink stage buffer =>
      cases stage with
      | reading _ | delivering _ => cases h
      | _ => exact h

theorem run_halt {exit : Exit} (hcancelled : w.cancelled = true)
    (h : w.standing.halt? = some exit) (n : Nat) :
    (w.run suspended (n + 1) around).worker.exit? = some exit := by
  have hexit : (w.step suspended around).worker.exit? = some exit := step_halt suspended hcancelled h
  cases hblocked : (w.step suspended around).blocked with
  | true =>
      rw [run]
      dsimp only
      rw [if_pos hblocked]
      exact hexit
  | false =>
      rw [run_of_moves suspended hblocked]
      exact run_ended suspended hexit n

theorem Turns.run (h : w.Turns suspended around) (n : Nat) :
    ∃ exit, (w.run suspended (n + 2) around).worker.exit? = some exit := by
  obtain ⟨exit, hhalt⟩ := h.halts
  rw [run_of_moves suspended h.moves]
  exact ⟨exit, run_halt suspended h.cancelled hhalt n⟩

theorem turns_sending {sender : Sender} {feed : UInt8} {stage : Sender.Stage}
    (hcancelled : w.cancelled = true) (hduty : w.duty = .sending sender feed stage)
    (h : stage.standing.halt? = none) : w.Turns suspended around := by
  obtain ⟨handle, cancelled, duty⟩ := w
  obtain rfl : cancelled = true := hcancelled
  obtain rfl : duty = _ := hduty
  cases stage with
  | asking => exact ⟨rfl, rfl, _, rfl⟩
  | writing piece rest failures =>
      let link : Sender.Link (Surroundings σ) := senderLink handle feed
      let t := sender.step link true suspended (.writing piece rest failures) around
      have hturns : t.blocked = false ∧ t.stage.standing = .alert := by
        simp only [t, Sender.step]
        rcases link.write piece around with ⟨(errno | errno) | count, world⟩
        · exact ⟨rfl, rfl⟩
        · dsimp only
          split <;> exact ⟨rfl, rfl⟩
        · exact ⟨rfl, Sender.standing_following rest⟩
      exact ⟨hturns.1, rfl, .cancelled, congrArg Standing.halt? hturns.2⟩
  | _ => cases h

theorem turns_delivering {receiver : Receiver} {sink : Sink} {count : Nat} {buffer : Bytes}
    (hcancelled : w.cancelled = true)
    (hduty : w.duty = .receiving receiver sink (.delivering count) buffer) :
    w.Turns suspended around := by
  obtain ⟨handle, cancelled, duty⟩ := w
  obtain rfl : cancelled = true := hcancelled
  obtain rfl : duty = _ := hduty
  let link : Receiver.Link (Surroundings σ) := receiverLink handle sink
  let t := receiver.step link true suspended (.delivering count) buffer around
  have hturns : t.blocked = false ∧ ∃ exit, t.stage.standing.halt? = some exit := by
    simp only [t, Receiver.step]
    split
    · refine ⟨rfl, ?_⟩
      dsimp only
      split <;> exact ⟨_, rfl⟩
    · exact ⟨rfl, _, rfl⟩
  exact ⟨hturns.1, rfl, hturns.2⟩

/-- A worker that reads, and need not wait, comes to the end of the read. -/
theorem run_reading {receiver : Receiver} {sink : Sink} {resumed : Bool} {buffer : Bytes}
    (hcancelled : w.cancelled = true)
    (hduty : w.duty = .receiving receiver sink (.reading resumed) buffer)
    (hread : ∃ result s', Channel.read resumed w.handle receiver.limit around.channel =
      (.finished result, s')) (n : Nat) :
    ∃ exit, (w.run suspended (n + 3) around).worker.exit? = some exit := by
  obtain ⟨handle, cancelled, duty⟩ := w
  obtain rfl : cancelled = true := hcancelled
  obtain rfl : duty = _ := hduty
  obtain ⟨result, s', hread⟩ := hread
  have hlink : (receiverLink handle sink).read resumed receiver.limit around =
      (.finished result, { around with channel := s' }) := by
    simp only [receiverLink, hread]
  cases result with
  | error error =>
      have hstep : Worker.step suspended
          ⟨handle, true, .receiving receiver sink (.reading resumed) buffer⟩ around =
          { worker := ⟨handle, true, .receiving receiver sink (.failed error) buffer⟩
            around := { around with channel := s' } } := by
        simp only [step, Receiver.step, hlink]
      rw [run_of_moves suspended (by rw [hstep]), hstep]
      exact ⟨.cancelled, run_halt suspended rfl rfl (n + 1)⟩
  | ok received =>
      have hstep : Worker.step suspended
          ⟨handle, true, .receiving receiver sink (.reading resumed) buffer⟩ around =
          { worker := ⟨handle, true, .receiving receiver sink (.delivering received.count)
              (Bytes.overlay received.data buffer)⟩
            around := { around with channel := s' }
            notes := [.read receiver.address received.count] } := by
        simp only [step, Receiver.step, hlink]
      rw [run_of_moves suspended (by rw [hstep]), hstep]
      exact (turns_delivering suspended rfl rfl).run suspended n

/-- **A cancelled worker that was waited for has ended**, and for the reason that is told. -/
theorem ends_when_waitedFor (hσ : Interruptible σ) (hcancelled : w.cancelled = true) :
    (w.waitedFor suspended around).exit? = some (w.join suspended around).1 := by
  unfold waitedFor join
  cases hexit : w.exit? with
  | some exit => exact hexit
  | none =>
      dsimp only
      generalize hwoken : ({ around with channel := Channel.wake w.handle around.channel } :
        Surroundings σ) = woken
      have hends : ∃ exit, (w.run suspended joinSteps woken).worker.exit? = some exit := by
        cases hhalt : w.standing.halt? with
        | some exit => exact ⟨exit, run_halt suspended hcancelled hhalt 7⟩
        | none =>
          unfold standing at hhalt
          cases hduty : w.duty with
          | sending sender feed stage =>
              rw [hduty] at hhalt
              exact (turns_sending suspended hcancelled hduty hhalt).run suspended 6
          | receiving receiver sink stage buffer =>
              rw [hduty] at hhalt
              cases stage with
              | reading resumed =>
                  refine run_reading suspended hcancelled hduty ?_ 5
                  rw [← hwoken]
                  exact hσ resumed w.handle receiver.limit around.channel
              | delivering count => exact (turns_delivering suspended hcancelled hduty).run suspended 6
              | _ => cases hhalt
      obtain ⟨exit, hends⟩ := hends
      rw [hends]
      rfl

end Worker

/-! ### The roster of a device -/

namespace Gadget

variable {σ P : Type} [Channel σ]

theorem manned_cancelledSlots (slots : List (Address × Slot)) :
    manned (cancelledSlots slots) = (manned slots).map fun e => (e.1, e.2.cancel) := by
  unfold manned cancelledSlots
  rw [List.filterMap_map, List.map_filterMap]
  refine List.filterMap_congr fun e _ => ?_
  show (e.2.worker.map Worker.cancel).map _ = _
  rw [Option.map_map, Option.map_map]
  rfl

theorem does_stopWorkers (g : Gadget σ P) :
    g.does stopWorkers = teardown.stopAll g.roster.entries { g with roster := .empty } := rfl

/-- **Taking a roster down is complete**, whatever the channel answers: every worker is cancelled first,
then every endpoint is tried once in the order of the addresses, every worker is waited for, and the
endpoints that refused are tried again.  Every attempt is a call of the channel, and has the result that
the channel gave.  The roster is empty after it, and where a read can be interrupted, the workers have
ended. -/
theorem stopWorkers_complete (g : Gadget σ P) :
    ∃ a : Account, a.Complete g.roster.entries ∧
      a.result = (g.does stopWorkers).1 ∧
      teardown.logged.stopAll g.roster.entries ({ g with roster := .empty }, []) =
        (a.result, (g.does stopWorkers).2, a.deeds) ∧
      (∀ t ∈ a.first ++ a.second, ∃ s s' : σ, Channel.disable t.handle s = (t.result, s')) ∧
      (g.does stopWorkers).2.roster = .empty ∧
      ∀ j ∈ a.joined, ∃ (suspended : Bool) (around : Surroundings σ),
        (j.worker.join suspended around).1 = j.exit ∧
        (Interruptible σ → (j.worker.waitedFor suspended around).exit? = some j.exit) := by
  obtain ⟨first, joined, second, hfirst, hjoined, hsecond, hresult, htried, hwaited, hlogs⟩ :=
    Teardown.logs_stopAll teardown { g with roster := .empty } g.roster.entries
  rw [cancelAll_eq] at hfirst hjoined
  rw [manned_cancelledSlots] at hjoined
  have hhandles : (cancelledSlots g.roster.entries).map (fun e => (e.1, e.2.handle)) =
      g.roster.entries.map fun e => (e.1, e.2.handle) := by
    rw [cancelledSlots, List.map_map]
    rfl
  rw [hhandles] at hfirst
  refine ⟨_, Account.complete_of_passes g.roster.sorted hfirst hsecond hjoined, hresult.symm, ?_,
    fun t ht => ?_, ?_, fun j hj => ?_⟩
  · rw [hlogs, hresult]
    rfl
  · obtain ⟨before, hanswer⟩ := htried t ht
    rw [disable_at, does_call] at hanswer
    exact ⟨before.around.channel, _, Prod.ext hanswer rfl⟩
  · obtain ⟨around, journal, hwithin, -⟩ := within_stopAll Calm.any
      (fun e (_ : e ∈ g.roster.entries) _ => trivial) { g with roster := .empty }
    rw [does_stopWorkers, hwithin]
  · obtain ⟨before, hexit⟩ := hwaited j hj
    have hcancelled : j.worker.cancelled = true := by
      have hmem : (j.address, j.worker) ∈ joined.map fun j => (j.address, j.worker) :=
        List.mem_map_of_mem hj
      rw [hjoined] at hmem
      obtain ⟨e, -, heq⟩ := List.mem_map.mp hmem
      rw [← (Prod.mk.inj heq).2]
      rfl
    refine ⟨before.state.suspended, before.around, hexit, fun hσ => ?_⟩
    rw [Worker.ends_when_waitedFor _ hσ hcancelled, ← hexit]
    rfl

end Gadget

end UsbPeripheral
