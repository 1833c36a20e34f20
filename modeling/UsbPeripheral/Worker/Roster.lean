import UsbPeripheral.Worker.Basic

/-!
# The roster: enabled endpoints and their workers

The roster is the list of the endpoints that a device has enabled, in the order of their addresses,
each with its handle and its worker, if it has one.

`stopAll` takes a roster down:

1. every worker is cancelled;
2. every endpoint is disabled; one that a transfer keeps busy refuses;
3. every worker is waited for;
4. the endpoints that refused are disabled again.

It is written over the four **acts** that it consists of (`Teardown`), in any monad, so that what it
does can be observed as well as done.
-/

namespace UsbPeripheral

/-- An enabled endpoint. -/
structure Slot where
  handle : Handle
  worker : Option Worker
  deriving DecidableEq, Repr

/-- The enabled endpoints of a device. -/
abbrev Roster := ByteMap Slot

namespace Roster

/-- The handle of an enabled endpoint. -/
def handle? (r : Roster) (address : Address) : Option Handle := (r.get? address).map (·.handle)

theorem handle?_insert (r : Roster) (address other : Address) (slot : Slot) :
    Roster.handle? (r.insert address slot) other =
      if other = address then some slot.handle else r.handle? other := by
  unfold handle?
  rw [ByteMap.get?_insert]
  split <;> rfl

theorem contains_eq_isSome (r : Roster) (address : Address) :
    r.contains address = (r.handle? address).isSome := by
  unfold ByteMap.contains handle?
  rw [Option.isSome_map]

theorem mem_of_handle? {r : Roster} {address : Address} {handle : Handle}
    (h : r.handle? address = some handle) :
    ∃ slot, (address, slot) ∈ r.entries ∧ slot.handle = handle := by
  obtain ⟨slot, hslot, rfl⟩ := Option.map_eq_some_iff.mp h
  exact ⟨slot, ByteMap.mem_of_get? hslot, rfl⟩

/-- The addresses of the endpoints whose worker is at work. -/
def running (r : Roster) : List Address :=
  (r.entries.filter fun e => e.2.worker.any (·.isRunning)).map (·.1)

end Roster

/-- The acts of taking a roster down. -/
structure Teardown (m : Type → Type) where
  /-- Set the flag of a worker. -/
  cancel (address : Address) (worker : Worker) : m Worker
  disable (address : Address) (handle : Handle) : m (Except DeviceError Unit)
  join (address : Address) (worker : Worker) : m Exit
  note (note : Note) : m Unit

namespace Teardown

variable {m : Type → Type} [Monad m]

/-- Cancel every worker. -/
def cancelAll (t : Teardown m) : List (Address × Slot) → m (List (Address × Slot))
  | [] => pure []
  | (address, slot) :: rest => do
    let worker ← match slot.worker with
      | some w => some <$> t.cancel address w
      | none => pure none
    let rest ← cancelAll t rest
    pure ((address, { slot with worker }) :: rest)

/-- Disable every endpoint; the result is those that refused. -/
def disableAll (t : Teardown m) : List (Address × Slot) → m (List (Address × Handle))
  | [] => pure []
  | (address, slot) :: rest => do
    t.note (.disabling address slot.handle)
    match ← t.disable address slot.handle with
    | .ok () => disableAll t rest
    | .error e =>
      t.note (.disableDeferred address e)
      let busy ← disableAll t rest
      pure ((address, slot.handle) :: busy)

/-- Wait for every worker; the result is why they ended. -/
def joinAll (t : Teardown m) : List (Address × Slot) → m (List (Address × Exit))
  | [] => pure []
  | (address, slot) :: rest =>
    match slot.worker with
    | some w => do
      let exit ← t.join address w
      t.note (.workerStopped address exit)
      let exits ← joinAll t rest
      pure ((address, exit) :: exits)
    | none => joinAll t rest

/-- Disable the endpoints that refused; the result is the failures. -/
def retryAll (t : Teardown m) : List (Address × Handle) → m (List DeviceError)
  | [] => pure []
  | (address, handle) :: rest => do
    match ← t.disable address handle with
    | .ok () => retryAll t rest
    | .error e =>
      t.note (.disableFailed address e)
      let failures ← retryAll t rest
      pure (e :: failures)

/-- Take a roster down.  The result is why the workers ended, or the first failure of the second
attempt to disable an endpoint. -/
def stopAll (t : Teardown m) (slots : List (Address × Slot)) :
    m (Except DeviceError (List (Address × Exit))) := do
  let slots ← t.cancelAll slots
  let busy ← t.disableAll slots
  let exits ← t.joinAll slots
  match ← t.retryAll busy with
  | [] => pure (.ok exits)
  | e :: _ => pure (.error e)

end Teardown

end UsbPeripheral
