import UsbPeripheral.Gadget.Basic
import UsbPeripheral.Setup.StandardRequest

/-!
# Standard requests

What a device answers to the requests that the USB standard defines.  A request in the wrong
direction, for something that does not exist, or of no kind that is served here, is refused and
changes nothing.
-/

namespace UsbPeripheral.Gadget

variable {σ P : Type} [Channel σ] [DeviceProfile P]

/-- Whether the selected configuration has an interface. -/
def hasInterface (g : Gadget σ P) (interface : UInt8) : Bool :=
  g.state.isConfigured && g.selected.any (·.interfaces.contains interface)

/-! ### Descriptors and configurations -/

/-- GET_DESCRIPTOR. -/
def getDescriptor (setup : Setup) : Dispatch σ P (Reply P) := do
  if setup.direction ≠ .toHost then return .stall
  let query := setup.descriptorQuery
  note (.descriptorQuery query)
  match DeviceProfile.descriptor? (← get).profile query with
  | some data => return .send data
  | none =>
    note (.noDescriptor query)
    return .stall

/-- GET_CONFIGURATION. -/
def getConfiguration (setup : Setup) : Dispatch σ P (Reply P) := do
  if setup.direction ≠ .toHost then return .stall
  return .send [(← get).state.configuration]

/-- Enable endpoints in order; the result is each with its handle. -/
def enableAll : List Endpoint → Dispatch σ P (List (Endpoint × Handle))
  | [] => pure []
  | endpoint :: rest => do
    let handle ← call (Channel.enable endpoint)
    let enabled ← enableAll rest
    pure ((endpoint, handle) :: enabled)

/-- Start the workers of enabled endpoints in order. -/
def startWorkers : List (Endpoint × Handle) → Dispatch σ P Unit
  | [] => pure ()
  | (endpoint, handle) :: rest => do
    let data ← consult fun p => DeviceProfile.endpointData p endpoint
    startWorker endpoint handle data
    startWorkers rest

/-- Select the configuration that a value stands for.  The one selected before is taken down first,
also when it is the same: selecting a configuration again starts it over. -/
def selectConfiguration (value : UInt8) (configuration : Configuration) :
    Dispatch σ P Unit := do
  let _ ← stop
  let enabled ← enableAll configuration.endpoints
  call (Channel.vbusDraw configuration.maxPower)
  call Channel.configure
  update (·.select value)
  startWorkers enabled
  note (.configurationSelected value configuration.endpoints.length)
  modify fun g => { g with selected := some configuration }

/-- SET_CONFIGURATION.  The value 0 selects no configuration. -/
def setConfiguration (setup : Setup) : Dispatch σ P (Reply P) := do
  if setup.direction ≠ .toDevice then return .stall
  let value := Bytes.low setup.value
  if value = 0 then
    let _ ← stop
    update (·.select 0)
    note .configurationCleared
    return .ack
  match DeviceProfile.configuration? (← get).profile value with
  | some configuration =>
    selectConfiguration value configuration
    return .ack
  | none =>
    note (.noConfiguration value)
    return .stall

/-! ### Interfaces -/

/-- GET_INTERFACE. -/
def getInterface (setup : Setup) : Dispatch σ P (Reply P) := do
  let interface := Bytes.low setup.index
  let g ← get
  if setup.direction ≠ .toHost ∨ !g.hasInterface interface then return .stall
  return .send [g.state.alternate interface]

/-- SET_INTERFACE. -/
def setInterface (setup : Setup) : Dispatch σ P (Reply P) := do
  let interface := Bytes.low setup.index
  let alternate := Bytes.low setup.value
  if setup.direction ≠ .toDevice ∨ !(← get).hasInterface interface then return .stall
  if ← consult fun p => DeviceProfile.setInterface p interface alternate then
    update (·.setAlternate interface alternate)
    return .ack
  else return .stall

/-! ### Status and features -/

/-- The status word of what a request is addressed to, if it exists. -/
def statusWord (g : Gadget σ P) (setup : Setup) : Option UInt16 :=
  match setup.recipient with
  | .device =>
    some (UInt16.ofNat
      ((DeviceProfile.selfPowered g.profile).toNat + 2 * g.state.remoteWakeup.toNat))
  | .interface => if g.hasInterface (Bytes.low setup.index) then some 0 else none
  | .endpoint =>
    let address := Bytes.low setup.index
    if Address.number address = 0 then some 0
    else if g.roster.contains address then
      some (UInt16.ofNat (g.state.isHalted address).toNat)
    else none
  | .other | .reserved => none

/-- GET_STATUS. -/
def getStatus (setup : Setup) : Dispatch σ P (Reply P) := do
  if setup.direction ≠ .toHost then return .stall
  match (← get).statusWord setup with
  | some word => return .send (Bytes.ofWord16 word)
  | none => return .stall

/-- Set or clear the halt of an endpoint at the host's request.  Endpoint 0 has no halt of its own,
and a wedged endpoint stays halted. -/
def hostHalt (address : Address) (set : Bool) : Dispatch σ P (Reply P) := do
  if Address.number address = 0 then return .ack
  let g ← get
  match g.roster.handle? address with
  | none => return .stall
  | some handle =>
    if set then
      call (Channel.setHalt handle)
      update (·.setHalted address true)
    else if g.wedged.contains address then
      note (.staysWedged address)
    else
      call (Channel.clearHalt handle)
      update (·.setHalted address false)
    return .ack

/-- SET_FEATURE and CLEAR_FEATURE. -/
def feature (setup : Setup) (set : Bool) : Dispatch σ P (Reply P) := do
  if setup.direction ≠ .toDevice then return .stall
  if setup.recipient = .device ∧ setup.value = Feature.remoteWakeup.code then
    update fun s => { s with remoteWakeup := set }
    return .ack
  else if setup.recipient = .endpoint ∧ setup.value = Feature.endpointHalt.code then
    hostHalt (Bytes.low setup.index) set
  else return .stall

/-- The answer to a standard request. -/
def standard (setup : Setup) : Dispatch σ P (Reply P) :=
  match StandardRequest.ofCode? setup.request with
  | some .getStatus => getStatus setup
  | some .clearFeature => feature setup false
  | some .setFeature => feature setup true
  | some .getDescriptor => getDescriptor setup
  | some .getConfiguration => getConfiguration setup
  | some .setConfiguration => setConfiguration setup
  | some .getInterface => getInterface setup
  | some .setInterface => setInterface setup
  | some .setAddress | some .setDescriptor | some .synchFrame | none => pure .stall

end UsbPeripheral.Gadget
