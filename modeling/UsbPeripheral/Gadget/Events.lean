import UsbPeripheral.Gadget.Control

/-!
# The life of a device: starting, events, halts

A device is started once and then handles one event after the other.  A connect, a reset and a
disconnect take its configuration down before anything else happens.  Events without a meaning are
noted and change nothing.
-/

namespace UsbPeripheral.Gadget

variable {σ P : Type} [Channel σ] [DeviceProfile P]

/-- Bind to the controller and show the device to the host. -/
def start : Dispatch σ P Unit := do
  let settings := (← get).settings
  note (.binding settings.driver settings.device settings.speed)
  call (Channel.bind settings.driver settings.device settings.speed)
  call Channel.run
  update fun _ => .reset .powered

/-- The endpoints of all configurations that no endpoint of the controller can carry. -/
def notCarried (configurations : List Configuration) (udc : List UdcEndpoint) :
    List (UInt8 × Endpoint) :=
  configurations.flatMap fun c =>
    (c.endpoints.filter fun e => !udc.any (·.supports e)).map fun e => (c.value, e)

/-- Compare the configurations with what the controller can carry. -/
def checkEndpoints : Dispatch σ P Unit := do
  let udc ← call Channel.endpoints
  noteAll (udc.map .udcEndpoint)
  let configurations := DeviceProfile.configurations (← get).profile
  noteAll ((notCarried configurations udc).map fun (value, e) => .notCarried value e)

/-- Take the configuration down and enter a stage as if nothing had happened before. -/
def restart (base : Lifecycle) : Dispatch σ P Unit := do
  let _ ← stop
  update fun _ => .reset base
  modify fun g => { g with profile := DeviceProfile.onReset g.profile }

/-- Handle an event. -/
def handleEvent (event : BusEvent) : Dispatch σ P Unit := do
  note (.event event)
  match event with
  | .connect =>
    let _ ← stop
    checkEndpoints
    update fun _ => .reset .default
    note .connected
  | .control setup => handleControl setup
  | .suspend =>
    update fun s => { s with suspended := true }
    note .suspended
  | .resume =>
    update fun s => { s with suspended := false }
    note .resumed
  | .reset =>
    restart .default
    note .busReset
  | .disconnect =>
    restart .unattached
    note .disconnected
  | .unknown tag length => note (.ignoredUnknown tag length)
  | .malformed tag length => note (.ignoredMalformed tag length)

/-- Fetch and handle one event. -/
def step : Dispatch σ P BusEvent := do
  let record ← call Channel.fetchEvent
  let event := record.decode
  handleEvent event
  return event

/-- Handle events until one fails, at most `fuel` of them; after each, the workers take at most
`steps` steps. -/
def run (steps : Nat) : (fuel : Nat) → Dispatch σ P Unit
  | 0 => pure ()
  | fuel + 1 => do
    let _ ← step
    modify (settle steps)
    run steps fuel

/-! ### Halts on behalf of the device class -/

/-- Halt an endpoint; the result is whether it is enabled. -/
def halt (address : Address) : Dispatch σ P Bool := do
  match (← get).roster.handle? address with
  | some handle =>
    call (Channel.setHalt handle)
    update (·.setHalted address true)
    return true
  | none => return false

/-- Halt an endpoint so that the host cannot end it; the result is whether it is enabled. -/
def wedge (address : Address) : Dispatch σ P Bool := do
  match (← get).roster.handle? address with
  | some handle =>
    call (Channel.setWedge handle)
    update (·.setHalted address true)
    modify fun g => { g with wedged := g.wedged.add address }
    return true
  | none => return false

/-- End a halt, also of a wedged endpoint; the result is whether it is enabled. -/
def unhalt (address : Address) : Dispatch σ P Bool := do
  match (← get).roster.handle? address with
  | some handle =>
    call (Channel.clearHalt handle)
    update (·.setHalted address false)
    modify fun g => { g with wedged := g.wedged.erase address }
    return true
  | none => return false

/-- Give a device up: its roster is taken down, and a failure of that is noted. -/
def drop (g : Gadget σ P) : Gadget σ P :=
  match (stopWorkers (σ := σ) (P := P)).run g with
  | (.ok _, g) => g
  | (.error e, g) => { g with journal := g.journal.add [.stoppingFailed e] }

end UsbPeripheral.Gadget
