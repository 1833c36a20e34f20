import UsbPeripheral.DeviceState
import UsbPeripheral.Profile
import UsbPeripheral.Worker.Roster

/-!
# Gadgets: devices on a channel

A `Gadget σ P` is a device of the class `P` on a channel of the type `σ`.  It holds everything that a
device keeps between two events: its state, the selected configuration, the roster of its enabled
endpoints with their workers, and the endpoints that the device class halts against the host's wish
(**wedged** endpoints).

What a device does is a `Dispatch`: it changes the gadget and may fail.  A failure keeps the changes
made up to it.
-/

namespace UsbPeripheral

/-- A device of the class `P` on a channel of the type `σ`. -/
structure Gadget (σ P : Type) where
  /-- The channel and the depot. -/
  around : Surroundings σ
  profile : P
  handlers : HandlerTable P
  settings : Settings
  /-- What the host can see. -/
  state : DeviceState := .initial
  roster : Roster := .empty
  selected : Option Configuration := none
  /-- Endpoints that stay halted whatever the host asks for. -/
  wedged : ByteSet := .empty
  /-- Endpoints for whose workers the system has no thread at present, with its reasons. -/
  refusals : ByteMap String := .empty
  /-- What the device and its workers noted. -/
  journal : Journal := .empty

/-- Something that a device does. -/
abbrev Dispatch (σ P : Type) := ExceptT DeviceError (StateM (Gadget σ P))

namespace Gadget

variable {σ P α : Type}

/-- A device that was not started yet. -/
def new [DeviceProfile P] (channel : σ) (depot : Depot) (profile : P) (settings : Settings) :
    Gadget σ P where
  around := { channel, depot }
  profile := profile
  handlers := DeviceProfile.handlers profile
  settings := settings
  journal := Journal.empty.add [.handlers (DeviceProfile.handlers profile).size]

/-! ### Elements of a dispatch -/

/-- Take notes. -/
def noteAll (notes : List Note) : Dispatch σ P Unit :=
  modify fun g => { g with journal := g.journal.add notes }

/-- Take a note. -/
def note (n : Note) : Dispatch σ P Unit := noteAll [n]

/-- A channel operation. -/
def call (operation : σ → Except DeviceError α × σ) : Dispatch σ P α :=
  ExceptT.mk fun g =>
    let (result, channel) := operation g.around.channel
    (result, { g with around := { g.around with channel } })

/-- Something that the device class does. -/
def consult (act : P → α × P) : Dispatch σ P α :=
  ExceptT.mk fun g =>
    let (result, profile) := act g.profile
    (.ok result, { g with profile })

/-- A change of the device's state. -/
def update (f : DeviceState → DeviceState) : Dispatch σ P Unit :=
  modify fun g => { g with state := f g.state }

/-! ### Workers -/

/-- The acts of taking down the roster of a gadget. -/
def teardown [Channel σ] : Teardown (StateM (Gadget σ P)) where
  cancel _ worker := pure worker.cancel
  disable _ handle := (call (Channel.disable handle) : Dispatch σ P Unit).run
  join address worker := fun g =>
    let (exit, notes, around) := worker.join g.state.suspended g.around
    (exit, { g with around, journal := g.journal.addWorker address notes })
  note n := modify fun g => { g with journal := g.journal.add [n] }

/-- Take the roster down: it is empty at once, and the endpoints and workers that were in it are
disabled and stopped. -/
def stopWorkers [Channel σ] : Dispatch σ P (List (Address × Exit)) :=
  ExceptT.mk fun g => teardown.stopAll g.roster.entries { g with roster := .empty }

/-- Stop every worker, disable its endpoint and forget the configuration. -/
def stop [Channel σ] : Dispatch σ P (List (Address × Exit)) := do
  modify fun g => { g with selected := none, wedged := .empty }
  stopWorkers

/-- Why there is no thread for the worker of an endpoint.  Only data that goes the way of the endpoint
asks for one. -/
def refusal? (g : Gadget σ P) (endpoint : Endpoint) (data : Option EndpointData) : Option String :=
  if data.map (·.direction) = some endpoint.direction then g.refusals.get? endpoint.address else none

/-- Enter an endpoint that was enabled into the roster, with a worker for what stands behind it.
There is no worker for data that goes the other way, and an endpoint whose worker gets no thread is
not entered. -/
def startWorker (endpoint : Endpoint) (handle : Handle) (data : Option EndpointData) :
    Dispatch σ P Unit := do
  let address := endpoint.address
  let g ← get
  if let some reason := g.refusal? endpoint data then throw (.unstarted reason)
  let worker ← match data with
    | some data =>
      if data.direction = endpoint.direction then do
        note (.workerStarted address handle)
        pure (some (Worker.start g.settings endpoint handle data))
      else do
        note (.wrongDirection address)
        pure none
    | none => pure none
  modify fun g => { g with roster := g.roster.insert address { handle, worker } }

/-- Let the worker of an endpoint take at most `fuel` steps, up to where it can only wait. -/
def runWorker [Channel σ] (fuel : Nat) (address : Address) (g : Gadget σ P) : Gadget σ P :=
  match (g.roster.get? address).bind (·.worker) with
  | some worker =>
    let t := worker.run g.state.suspended fuel g.around
    { g with
      around := t.around
      roster := g.roster.modify address fun slot => { slot with worker := some t.worker }
      journal := g.journal.addWorker address t.notes }
  | none => g

/-- Let every worker take at most `fuel` steps, up to where it can only wait. -/
def settle [Channel σ] (fuel : Nat) (g : Gadget σ P) : Gadget σ P :=
  g.roster.keys.foldl (fun g address => g.runWorker fuel address) g

end Gadget

end UsbPeripheral
