import UsbPeripheral.Catalog
import UsbPeripheral.Profile

/-!
# Devices declared by data

Two device classes for exercising the dispatcher.  A `PlainDevice` has descriptors and
configurations and nothing else.  A `DeclaredDevice` also declares, as data, how it answers requests,
what stands behind its endpoints and which alternate settings it has, and it keeps a record of what
it was asked.
-/

namespace UsbPeripheral

/-- A device with descriptors and configurations only. -/
structure PlainDevice where
  catalog : Catalog
  configurations : List Configuration

instance : DeviceProfile PlainDevice where
  descriptor? d query := d.catalog.lookup query
  configurations d := d.configurations

/-- A device with one configuration and an endpoint in each direction. -/
def PlainDevice.twoWay : PlainDevice where
  catalog := .empty
  configurations :=
    [{ value := 1, maxPower := 100, interfaces := [0], endpoints := [.bulk 129 64, .bulk 2 64] }]

/-- A declared answer to a request. -/
inductive DeclaredReply where
  | send (data : Bytes)
  | receive
  | ack
  | stall
  /-- To the host the request code, from the host an acknowledgement. -/
  | auto
  deriving DecidableEq, Repr

/-- Something that a declared device was asked. -/
inductive RequestRecord where
  | handled (code : UInt8)
  | data (code : UInt8) (data : Bytes)
  deriving DecidableEq, Repr

/-- A device that answers as declared. -/
structure DeclaredDevice where
  catalog : Catalog
  configurations : List Configuration
  /-- What stands behind an endpoint, by address. -/
  endpoints : ByteMap EndpointData
  /-- The handlers: category, code, name and answer, a later one for the same code in force. -/
  requests : List (Category × UInt8 × String × DeclaredReply)
  /-- The answer to other vendor requests. -/
  fallback : Option DeclaredReply
  /-- The greatest alternate setting of every interface. -/
  maxAlternate : UInt8 := 0
  /-- Whether the device has its own power. -/
  selfPowered : Bool := false
  /-- What the device was asked. -/
  asked : List RequestRecord := []
  /-- Alternate settings that the host selected. -/
  selections : List (UInt8 × UInt8) := []
  resets : Nat := 0

namespace DeclaredDevice

/-- The device with one more request on record. -/
def record (r : RequestRecord) (d : DeclaredDevice) : DeclaredDevice :=
  { d with asked := d.asked ++ [r] }

/-- The reply that a declaration stands for. -/
def replyTo (setup : Setup) : DeclaredReply → Reply DeclaredDevice
  | .send data => .send data
  | .receive => .receive fun setup data d => (d.record (.data setup.request data), [])
  | .ack => .ack
  | .stall => .stall
  | .auto =>
    match setup.direction with
    | .toHost => .send [setup.request]
    | .toDevice => .ack

/-- The handler that a declaration stands for. -/
def handler (reply : DeclaredReply) : Handler DeclaredDevice := fun setup d =>
  { reply := replyTo setup reply, profile := d.record (.handled setup.request) }

/-- The step of a handler table that a declaration stands for. -/
def step? : Category × UInt8 × String × DeclaredReply → Option (HandlerTable.Step DeclaredDevice)
  | (.ofClass, code, name, reply) => some (.ofClass code name (handler reply))
  | (.vendor, code, name, reply) => some (.vendor code name (handler reply))
  | _ => none

/-- The handlers as declared. -/
def handlers (d : DeclaredDevice) : HandlerTable DeclaredDevice :=
  .ofSteps (d.requests.filterMap step? ++
    (d.fallback.map fun reply => .fallback (handler reply)).toList)

/-- The feeds and outlets behind the endpoints. -/
def depot (d : DeclaredDevice) : Depot :=
  d.endpoints.entries.foldl (fun p e =>
    match e.2 with
    | .source feed => { p with feeds := p.feeds.insert feed {} }
    | .sink (.quiet outlet) => { p with outlets := p.outlets.insert outlet {} }
    | .sink _ => p) {}

/-- The device with an empty record. -/
def forget (d : DeclaredDevice) : DeclaredDevice := { d with asked := [], selections := [] }

instance : DeviceProfile DeclaredDevice where
  descriptor? d query := d.catalog.lookup query
  handlers := handlers
  configurations d := d.configurations
  endpointData d e := (d.endpoints.get? e.address, d)
  setInterface d interface alternate :=
    (alternate ≤ d.maxAlternate, { d with selections := d.selections ++ [(interface, alternate)] })
  selfPowered d := d.selfPowered
  onReset d := { d with resets := d.resets + 1 }

end DeclaredDevice

end UsbPeripheral
