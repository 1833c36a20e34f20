import UsbPeripheral.ByteMap
import UsbPeripheral.Channel.Basic
import UsbPeripheral.Descriptor.Endpoint

/-!
# The journal of a device

While it works, a device takes **notes**.  A note says what happened as data; its level and its
wording are functions of it.  The journal keeps the notes of the device and of every endpoint worker
apart, each in the order in which they were taken.
-/

namespace UsbPeripheral

/-- How important a note is. -/
inductive Level where
  | error
  | warn
  | info
  | debug
  deriving DecidableEq, Repr

namespace Level

/-- The name in a log. -/
def name : Level → String
  | error => "ERROR"
  | warn => "WARN"
  | info => "INFO"
  | debug => "DEBUG"

/-- The rank, 0 for the most important. -/
def rank : Level → Nat
  | error => 0
  | warn => 1
  | info => 2
  | debug => 3

end Level

/-- Why a worker ended. -/
inductive Exit where
  /-- The device stopped it. -/
  | cancelled
  /-- Its source has no more chunks. -/
  | sourceDone
  /-- Its endpoint went away. -/
  | invalidated
  /-- A transfer from the host failed. -/
  | readFailed (errno : Errno)
  /-- The consumer of its data broke down. -/
  | panicked
  deriving DecidableEq, Repr

namespace Exit

/-- The reason as diagnostics show it. -/
def text : Exit → String
  | cancelled => "Cancelled"
  | sourceDone => "SourceDone"
  | invalidated => "Invalidated"
  | readFailed errno => s!"ReadFailed({errno.name})"
  | panicked => "Panicked"

end Exit

/-- Something worth noting. -/
inductive Note where
  -- the life of a device
  | handlers (count : Nat)
  | binding (driver device : String) (speed : Speed)
  | event (event : BusEvent)
  | udcEndpoint (row : UdcEndpoint)
  | notCarried (configuration : UInt8) (endpoint : Endpoint)
  | connected
  | suspended
  | resumed
  | busReset
  | disconnected
  | ignoredUnknown (tag : UInt32) (length : Nat)
  | ignoredMalformed (tag : UInt32) (length : Nat)
  -- requests
  | standardRequest (request : String)
  | routedRequest (name : String) (category : Category)
  | unroutedRequest (code : UInt8) (category : Category)
  | descriptorQuery (query : Descriptor.Query)
  | noDescriptor (query : Descriptor.Query)
  | sent (count total : Nat)
  | dropped (count : Nat)
  | received (count : Nat)
  | mismatched (reply : String) (direction : Direction)
  | stalling (setup : Setup)
  | noConfiguration (value : UInt8)
  | configurationCleared
  | configurationSelected (value : UInt8) (endpoints : Nat)
  | staysWedged (address : Address)
  -- the roster of workers
  | wrongDirection (address : Address)
  | workerStarted (address : Address) (handle : Handle)
  | disabling (address : Address) (handle : Handle)
  | disableDeferred (address : Address) (error : DeviceError)
  | workerStopped (address : Address) (exit : Exit)
  | disableFailed (address : Address) (error : DeviceError)
  | stoppingFailed (error : DeviceError)
  -- workers
  | writingSuspended (address : Address)
  | wrote (address : Address) (count : Nat)
  | shortWrite (address : Address) (count total : Nat)
  | writeAborted (address : Address) (errno : Errno)
  | retrying (address : Address) (errno : Errno) (attempt retries : Nat)
  | givenUp (address : Address) (size attempts : Nat) (errno : Errno)
  | readingSuspended (address : Address)
  | read (address : Address) (count : Nat)
  | readAborted (address : Address) (errno : Errno)
  | readFailed (address : Address) (errno : Errno)
  -- what a device class says itself
  | ofDevice (level : Level) (text : String)
  deriving DecidableEq, Repr

namespace Note

/-- How important a note is. -/
def level : Note → Level
  | handlers _ | event _ | udcEndpoint _ | standardRequest _ | routedRequest .. => .debug
  | unroutedRequest .. | descriptorQuery _ | sent .. | dropped _ | received _ => .debug
  | staysWedged _ | disabling .. | disableDeferred .. => .debug
  | writingSuspended _ | wrote .. | writeAborted .. => .debug
  | readingSuspended _ | read .. | readAborted .. => .debug
  | binding .. | connected | suspended | resumed | busReset | disconnected => .info
  | configurationCleared | configurationSelected .. => .info
  | workerStarted .. | workerStopped .. => .info
  | notCarried .. | ignoredUnknown .. | ignoredMalformed .. | noDescriptor _ => .warn
  | mismatched .. | stalling _ | noConfiguration _ | wrongDirection _ => .warn
  | stoppingFailed _ | shortWrite .. | retrying .. | givenUp .. => .warn
  | disableFailed .. | readFailed .. => .error
  | ofDevice level _ => level

/-- An endpoint address in a note. -/
def ep (address : Address) : String := s!"ep 0x{Hex.byte address}"

/-- An optional number in a note. -/
def optional : Option UInt8 → String
  | some n => s!"Some({n.toNat})"
  | none => "None"

/-- The wording of a note. -/
def text : Note → String
  | handlers count => s!"{count} class/vendor handlers"
  | binding driver device speed => s!"binding to {driver} ({device}), speed {speed.name}"
  | event e => s!"event: {e.text}"
  | udcEndpoint row =>
    s!"udc {row.name}: address {optional row.number}, caps {row.capabilities.text}, " ++
      s!"maxpacket {row.maxPacketLimit.toNat}, streams {row.maxStreams.toNat}"
  | notCarried value e =>
    s!"configuration {value.toNat}: no UDC endpoint can carry 0x{Hex.byte e.address} " ++
      s!"({e.transfer.name})"
  | connected => "connected"
  | suspended => "suspended"
  | resumed => "resumed"
  | busReset => "bus reset"
  | disconnected => "disconnected"
  | ignoredUnknown tag length => s!"ignoring unknown event {tag.toNat} ({length} bytes)"
  | ignoredMalformed tag length => s!"ignoring malformed event {tag.toNat} ({length} bytes)"
  | standardRequest request => s!"  req = {request}"
  | routedRequest name category => s!"  req = {name} ({category.name})"
  | unroutedRequest code category => s!"  req = unknown 0x{Hex.byte code} ({category.name})"
  | descriptorQuery q =>
    s!"  desc = {q.kind.name} #{q.index.toNat}, lang 0x{Hex.word q.language}"
  | noDescriptor q =>
    s!"no {q.kind.name} descriptor #{q.index.toNat} (0x{Hex.byte q.kind})"
  | sent count total => s!"  sent {count} of {total} bytes"
  | dropped count => s!"  dropped {count} bytes of data stage"
  | received count => s!"  received {count} bytes"
  | mismatched reply direction => s!"{reply} reply to a {direction.name} request"
  | stalling setup => s!"stalling: {setup.text}"
  | noConfiguration value => s!"no configuration {value.toNat}"
  | configurationCleared => "configuration cleared"
  | configurationSelected value endpoints =>
    s!"configuration {value.toNat} selected, {endpoints} endpoints"
  | staysWedged address => s!"  {ep address} is wedged, staying halted"
  | wrongDirection address =>
    s!"{ep address}: worker direction does not match the endpoint, not started"
  | workerStarted address handle => s!"{ep address}: worker started on {handle.text}"
  | disabling address handle => s!"{ep address}: disabling {handle.text}"
  | disableDeferred address error => s!"{ep address}: disable deferred: {error.message}"
  | workerStopped address exit => s!"{ep address}: worker stopped: {exit.text}"
  | disableFailed address error => s!"{ep address}: disable failed: {error.message}"
  | stoppingFailed error => s!"stopping workers: {error.message}"
  | writingSuspended address => s!"{ep address}: writing while suspended"
  | wrote address count => s!"{ep address}: wrote {count} bytes"
  | shortWrite address count total =>
    s!"{ep address}: short write, {count} of {total} bytes"
  | writeAborted address errno => s!"{ep address}: write aborted: {errno.message}"
  | retrying address errno attempt retries =>
    s!"{ep address}: write failed ({errno.message}), retry {attempt}/{retries}"
  | givenUp address size attempts errno =>
    s!"{ep address}: dropping {size} bytes after {attempts} attempts: {errno.message}"
  | readingSuspended address => s!"{ep address}: reading while suspended"
  | read address count => s!"{ep address}: read {count} bytes"
  | readAborted address errno => s!"{ep address}: read aborted: {errno.message}"
  | readFailed address errno => s!"{ep address}: read failed: {errno.message}"
  | ofDevice _ text => text

end Note

/-- The notes of a device and of its workers. -/
structure Journal where
  /-- Notes of the device, oldest first. -/
  device : List Note := []
  /-- Notes of the workers by endpoint address, oldest first. -/
  workers : ByteMap (List Note) := .empty

namespace Journal

/-- The journal without notes. -/
def empty : Journal := {}

/-- The journal with more notes of the device. -/
def add (j : Journal) (notes : List Note) : Journal := { j with device := j.device ++ notes }

/-- The journal with more notes of a worker. -/
def addWorker (j : Journal) (address : Address) (notes : List Note) : Journal :=
  if notes.isEmpty then j
  else { j with workers := j.workers.insert address ((j.workers.get? address).getD [] ++ notes) }

/-- The notes of a level and the more important ones. -/
def upTo (level : Level) (notes : List Note) : List Note :=
  notes.filter fun n => n.level.rank ≤ level.rank

end Journal

end UsbPeripheral
