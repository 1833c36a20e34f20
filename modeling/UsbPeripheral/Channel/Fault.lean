import UsbPeripheral.Channel.Basic

/-!
# Faults: a channel that fails on demand

`Faulty σ` is a channel over another one.  A **plan** lists, per operation, the outcomes of the next
calls; each call takes the first outcome of its list, and a call without one goes through.  A planned
failure happens before the channel underneath is reached, so it changes nothing there.

Transfers are planned per endpoint address, which the layer learns when endpoints are enabled.  A
transfer can also be **short**: it reports a count without moving a byte.
-/

namespace UsbPeripheral

/-- What happens to a call. -/
inductive Outcome where
  | proceed
  | fail (errno : Errno)
  /-- The transfer reports a count and moves nothing. -/
  | short (count : Nat)
  deriving DecidableEq, Repr

/-- What a plan is kept for: an operation, and the address of a transfer (0 for other operations). -/
abbrev FaultKey := Operation × Address

/-- Planned outcomes; of two lists for one key the first counts. -/
abbrev FaultPlan := List (FaultKey × List Outcome)

namespace FaultPlan

/-- The plan in which the next calls of a key have the given outcomes. -/
def set (plan : FaultPlan) (key : FaultKey) (outcomes : List Outcome) : FaultPlan :=
  (key, outcomes) :: plan.filter (·.1 != key)

/-- The outcome of the next call of a key, and the plan for the calls after it. -/
def take (plan : FaultPlan) (key : FaultKey) : Outcome × FaultPlan :=
  match plan.lookup key with
  | some (outcome :: rest) => (outcome, plan.set key rest)
  | _ => (.proceed, plan)

/-- Number of outcomes that are planned. -/
def size (plan : FaultPlan) : Nat := (plan.map (·.2.length)).foldl (· + ·) 0

end FaultPlan

/-- A channel with planned failures. -/
structure Faulty (σ : Type) where
  inner : σ
  /-- Outcomes of the next calls. -/
  plan : FaultPlan := []
  /-- Addresses of the endpoints that were enabled, latest first. -/
  addresses : List (Handle × Address) := []

namespace Faulty

variable {σ α : Type}

/-- The address of an endpoint, 0 for a handle that was never given out. -/
def addressOf (f : Faulty σ) (handle : Handle) : Address := (f.addresses.lookup handle).getD 0

/-- A control operation under the plan. -/
def control (operation : Operation) (act : σ → Except DeviceError α × σ) (f : Faulty σ) :
    Except DeviceError α × Faulty σ :=
  match f.plan.take (operation, 0) with
  | (.fail errno, plan) => (.error (.channel operation errno), { f with plan })
  | (_, plan) =>
    let (result, inner) := act f.inner
    (result, { f with inner, plan })

/-- An operation that succeeds under the plan went through. -/
theorem eq_ok_of_control {operation : Operation} {act : σ → Except DeviceError α × σ}
    {f f' : Faulty σ} {a : α} (h : control operation act f = (.ok a, f')) :
    act f.inner = (.ok a, f'.inner) := by
  unfold control at h
  split at h
  · cases h
  · obtain ⟨hr, rfl⟩ := Prod.mk.inj h
    exact Prod.ext hr rfl

/-- Enabling an endpoint under the plan; the layer keeps the address of the new handle. -/
def enable [Channel σ] (endpoint : Endpoint) (f : Faulty σ) :
    Except DeviceError Handle × Faulty σ :=
  match control .epEnable (Channel.enable endpoint) f with
  | (.ok handle, f) =>
    (.ok handle, { f with addresses := (handle, endpoint.address) :: f.addresses })
  | (.error e, f) => (.error e, f)

/-- A read under the plan; only its start takes an outcome. -/
def read [Channel σ] (resumed : Bool) (handle : Handle) (room : Nat) (f : Faulty σ) :
    ReadReply × Faulty σ :=
  let through (f : Faulty σ) : ReadReply × Faulty σ :=
    let (reply, inner) := Channel.read resumed handle room f.inner
    (reply, { f with inner })
  if resumed then through f
  else
    match f.plan.take (.epRead, f.addressOf handle) with
    | (.proceed, plan) => through { f with plan }
    | (.fail errno, plan) => (.finished (.error (.ofErrno errno)), { f with plan })
    | (.short count, plan) => (.finished (.ok ⟨[], count⟩), { f with plan })

/-- A write under the plan. -/
def write [Channel σ] (handle : Handle) (data : Bytes) (f : Faulty σ) :
    Except TransferError Nat × Faulty σ :=
  match f.plan.take (.epWrite, f.addressOf handle) with
  | (.proceed, plan) =>
    let (result, inner) := Channel.write handle data f.inner
    (result, { f with inner, plan })
  | (.fail errno, plan) => (.error (.ofErrno errno), { f with plan })
  | (.short count, plan) => (.ok count, { f with plan })

instance [Channel σ] : Channel (Faulty σ) where
  bind driver device speed := control .init (Channel.bind driver device speed)
  run := control .run Channel.run
  fetchEvent := control .eventFetch Channel.fetchEvent
  ep0Read room := control .ep0Read (Channel.ep0Read room)
  ep0Read_fits room _ _ _ h := Channel.ep0Read_fits room (eq_ok_of_control h)
  ep0Write data := control .ep0Write (Channel.ep0Write data)
  ep0Stall := control .ep0Stall Channel.ep0Stall
  enable := enable
  disable handle := control .epDisable (Channel.disable handle)
  read := read
  write := write
  wake handle f := { f with inner := Channel.wake handle f.inner }
  configure := control .configure Channel.configure
  vbusDraw milliamps := control .vbusDraw (Channel.vbusDraw milliamps)
  endpoints := control .epsInfo Channel.endpoints
  setHalt handle := control .epSetHalt (Channel.setHalt handle)
  clearHalt handle := control .epClearHalt (Channel.clearHalt handle)
  setWedge handle := control .epSetWedge (Channel.setWedge handle)

end Faulty

end UsbPeripheral
