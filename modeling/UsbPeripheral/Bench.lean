import UsbPeripheral.Channel.Fault
import UsbPeripheral.Emulation.Bus
import UsbPeripheral.Gadget.Events

/-!
# The test bench

A **bench** is a device on an emulated bus whose operations can be made to fail.  Whoever works at
the bench plays the host, the device class and the hardware by **actions**.  After every action the
workers of the device come to rest: each has done what it can and waits for data.

After an action the bench can be **observed**.  An observation shows the state of the device and of
the bus, and takes away what happened since the one before: recorded operations, transfers, and
notes.
-/

namespace UsbPeripheral

/-- A device on an emulated bus. -/
structure Bench (P : Type) where
  /-- The device with its channel. -/
  gadget : Gadget (Faulty Bus) P

namespace Bench

variable {P : Type}

/-- A bench with a device that was not started yet. -/
def new [DeviceProfile P] (depot : Depot) (profile : P) (settings : Settings) : Bench P :=
  ⟨.new { inner := .idle } depot profile settings⟩

/-- The bus. -/
def bus (b : Bench P) : Bus := b.gadget.around.channel.inner

/-- The bench with its bus changed. -/
def withBus (b : Bench P) (bus : Bus) : Bench P :=
  let channel := { b.gadget.around.channel with inner := bus }
  ⟨{ b.gadget with around := { b.gadget.around with channel } }⟩

/-- The depot of the device. -/
def depot (b : Bench P) : Depot := b.gadget.around.depot

/-- The bench with the depot of the device changed. -/
def withDepot (b : Bench P) (depot : Depot) : Bench P :=
  ⟨{ b.gadget with around := { b.gadget.around with depot } }⟩

/-! ### Rest -/

/-- The sum of some numbers. -/
def total (ns : List Nat) : Nat := ns.foldl (· + ·) 0

/-- A bound on the pieces that a worker has begun to send. -/
def begun : Duty → Nat
  | .sending _ _ (.ready piece rest _) => piece.length + total (rest.map (·.length + 1)) + 1
  | .sending _ _ (.writing piece rest _) => piece.length + total (rest.map (·.length + 1)) + 1
  | .sending _ _ (.failed piece rest _ _) => piece.length + total (rest.map (·.length + 1)) + 1
  | _ => 0

/-- A bound on the steps that any worker can take before it has to wait: a few for every byte that
is to be sent, every transfer that is to be read, and every failure that is planned. -/
def restBound (b : Bench P) : Nat :=
  let fed := total (b.depot.feeds.entries.flatMap fun e => e.2.chunks.map (·.length + 1))
  let piped := total (b.bus.pipes.map fun p => p.fromHost.length + p.failWrites + 1)
  let owed := total (b.bus.owedFailures.entries.map (·.2))
  let begun :=
    total (b.gadget.roster.entries.filterMap fun e => e.2.worker.map fun w => begun w.duty)
  16 + 8 * (fed + piped + owed + b.gadget.around.channel.plan.size + begun)

/-- The bench with all workers at rest. -/
def rest (b : Bench P) : Bench P := ⟨b.gadget.settle b.restBound⟩

/-! ### Actions -/

/-- Something to do at a bench. -/
inductive Action (P : Type) where
  | queue (event : ScriptedEvent)
  /-- Queue an event, and let the device handle one. -/
  | post (event : ScriptedEvent)
  /-- Let the device handle one event. -/
  | step
  /-- Let the device handle events until one fails. -/
  | run
  | start
  | stop
  | halt (address : Address)
  | wedge (address : Address)
  | unhalt (address : Address)
  /-- Send a transfer to an endpoint. -/
  | hostSend (address : Address) (data : Bytes)
  /-- Put chunks into a feed. -/
  | feed (key : UInt8) (chunks : List Bytes)
  | close (key : UInt8)
  /-- Take no more data from an outlet. -/
  | abandon (key : UInt8)
  | failWrites (address : Address) (count : Nat)
  | refuseDisable (address : Address)
  /-- Give the controller other endpoints. -/
  | setUdc (udc : List UdcEndpoint)
  /-- Plan the outcomes of the next calls. -/
  | plan (key : FaultKey) (outcomes : List Outcome)
  /-- Change the device class from outside. -/
  | adjust (f : P → P)
  /-- Do nothing. -/
  | look

/-- What an action led to. -/
inductive Result where
  | nothing
  | queued
  | flag (value : Bool)
  | done (result : Except DeviceError Unit)
  | handled (result : Except DeviceError BusEvent)
  | stopped (result : Except DeviceError (List (Address × Exit)))
  | decided (result : Except DeviceError Bool)

/-- The bench after something that the device did. -/
def dispatch {α : Type} (b : Bench P) (d : Dispatch (Faulty Bus) P α) :
    Except DeviceError α × Bench P :=
  let (result, gadget) := d.run b.gadget
  (result, ⟨gadget⟩)

/-- The bench with an event queued. -/
def queue (b : Bench P) (event : ScriptedEvent) : Bench P := b.withBus (b.bus.queue event)

/-- A bound on the events that the device can handle. -/
def eventBound (b : Bench P) : Nat :=
  b.bus.events.length + b.gadget.around.channel.plan.size + 1

/-- What an action does before the workers come to rest. -/
def act [DeviceProfile P] (b : Bench P) : Action P → Result × Bench P
  | .queue event => (.queued, b.queue event)
  | .post event =>
    let (result, b) := (b.queue event).dispatch Gadget.step
    (.handled result, b)
  | .step =>
    let (result, b) := b.dispatch Gadget.step
    (.handled result, b)
  | .run =>
    let (result, b) := b.dispatch (Gadget.run b.restBound b.eventBound)
    (.done result, b)
  | .start =>
    let (result, b) := b.dispatch Gadget.start
    (.done result, b)
  | .stop =>
    let (result, b) := b.dispatch Gadget.stop
    (.stopped result, b)
  | .halt address =>
    let (result, b) := b.dispatch (Gadget.halt address)
    (.decided result, b)
  | .wedge address =>
    let (result, b) := b.dispatch (Gadget.wedge address)
    (.decided result, b)
  | .unhalt address =>
    let (result, b) := b.dispatch (Gadget.unhalt address)
    (.decided result, b)
  | .hostSend address data =>
    let (sent, bus) := b.bus.hostSend address data
    (.flag sent, b.withBus bus)
  | .feed key chunks =>
    let fed := chunks.foldl (fun p data => (p.send key data).2) b.depot
    (.flag !(b.depot.feed key).closed, b.withDepot fed)
  | .close key =>
    let (closed, depot) := b.depot.close key
    (.flag closed, b.withDepot depot)
  | .abandon key =>
    (.flag ((b.depot.outlets.get? key).any (!·.gone)), b.withDepot (b.depot.abandon key))
  | .failWrites address count => (.nothing, b.withBus (b.bus.failWrites address count))
  | .refuseDisable address => (.nothing, b.withBus (b.bus.refuseDisable address))
  | .setUdc udc => (.nothing, b.withBus { b.bus with udc })
  | .plan key outcomes =>
    let channel := b.gadget.around.channel
    let channel := { channel with plan := channel.plan.set key outcomes }
    (.nothing, ⟨{ b.gadget with around := { b.gadget.around with channel } }⟩)
  | .adjust f => (.nothing, ⟨{ b.gadget with profile := f b.gadget.profile }⟩)
  | .look => (.nothing, b)

/-- An action, after which the workers come to rest. -/
def perform [DeviceProfile P] (b : Bench P) (action : Action P) : Result × Bench P :=
  let (result, b) := b.act action
  (result, b.rest)

/-! ### Observations -/

/-- What an observation shows. -/
structure Observation (P : Type) where
  /-- The state of the device. -/
  state : DeviceState
  /-- Endpoints in the roster. -/
  enabled : List Address
  /-- Endpoints with a worker at work. -/
  running : List Address
  /-- Endpoints that are enabled on the bus. -/
  host : List Address
  /-- Number of events that were not fetched. -/
  pending : Nat
  /-- Operations since the observation before. -/
  performed : List Performed
  /-- Transfers for the host since the observation before, by address. -/
  transfers : List (Address × List Bytes)
  /-- What the outlets got since the observation before, by key. -/
  outlets : List (UInt8 × Outlet)
  profile : P
  /-- Notes since the observation before. -/
  journal : Journal

/-- Take the transfers that wait in the newest pipe of every address. -/
def drainPipes (bus : Bus) : List (Address × List Bytes) × Bus :=
  let addresses := (bus.pipes.foldl (fun s p => ByteSet.add s p.address) ByteMap.empty).keys
  addresses.foldl (fun (taken, bus) address =>
    match bus.newest? address with
    | some handle =>
      let waiting := ((bus.pipe? handle).map (·.toHost)).getD []
      if waiting.isEmpty then (taken, bus)
      else
        (taken ++ [(address, waiting)], bus.modifyPipe handle fun p => { p with toHost := [] })
    | none => (taken, bus)) ([], bus)

/-- Empty every outlet. -/
def drainOutlets (depot : Depot) : List (UInt8 × Outlet) × Depot :=
  depot.outlets.keys.foldl (fun (taken, depot) key =>
    let (outlet, depot) := depot.drain key
    (taken ++ [(key, outlet)], depot)) ([], depot)

/-- Observe the bench. -/
def observe (b : Bench P) : Observation P × Bench P :=
  let g := b.gadget
  let (transfers, bus) := drainPipes b.bus
  let (outlets, depot) := drainOutlets b.depot
  let observation :=
    { state := g.state
      enabled := g.roster.keys
      running := g.roster.running
      host := bus.enabled
      pending := bus.events.length
      performed := bus.performed
      transfers, outlets
      profile := g.profile
      journal := g.journal }
  let b := (b.withBus { bus with performed := [] }).withDepot depot
  (observation, ⟨{ b.gadget with journal := .empty }⟩)

/-- Give the device up. -/
def drop (b : Bench P) : Bench P := ⟨b.gadget.drop⟩

end Bench

end UsbPeripheral
