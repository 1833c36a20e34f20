import UsbPeripheral.Descriptor.Endpoint
import UsbPeripheral.Event
import UsbPeripheral.Kernel.Request
import UsbPeripheral.Settings
import UsbPeripheral.Udc

/-!
# Kernel records: what requests carry

The arguments of kernel requests are records of fixed layout, words in little-endian order:

* binding: two controller names in fields of 128 bytes, each with a zero byte after it, and the code
  of the speed;
* enabling an endpoint: the eight fields of `EndpointForm`, without gaps;
* a transfer: the low 16 bits of the endpoint's handle, no flags, the length, then the payload;
* an event: tag, length, then room for 256 bytes;
* the table of endpoints: rows of 32 bytes.
-/

namespace UsbPeripheral.Kernel

/-! ### Binding -/

/-- The field for a controller name.  A name that leaves no room for the end mark, or contains one, is
not valid. -/
def nameField (name : String) : Except DeviceError Bytes :=
  let bytes := Utf8.encode name
  if nameSize ≤ bytes.length ∨ 0 ∈ bytes then .error (.invalidName name)
  else .ok (Bytes.fitted nameSize bytes)

/-- The record that binds to a controller. -/
def bindRecord (driver device : String) (speed : Speed) : Except DeviceError Bytes := do
  let driverField ← nameField driver
  let deviceField ← nameField device
  return driverField ++ deviceField ++ [speed.code]

/-- The bytes of a name field up to the end mark. -/
def nameBytes (field : Bytes) : Bytes := field.takeWhile (· != 0)

/-! ### Endpoints and transfers -/

/-- The form in which the kernel takes an endpoint, with two fields that only audio endpoints use. -/
structure EndpointForm where
  length : UInt8
  kind : Descriptor.Kind
  address : Address
  attributes : UInt8
  maxPacketSize : UInt16
  interval : UInt8
  refresh : UInt8
  synchAddress : UInt8
  deriving DecidableEq, Repr

namespace EndpointForm

/-- The form for an endpoint. -/
def ofEndpoint (e : Endpoint) : EndpointForm where
  length := Endpoint.size
  kind := Descriptor.Kind.endpoint
  address := e.address
  attributes := e.transfer.code
  maxPacketSize := e.maxPacketSize
  interval := e.interval
  refresh := 0
  synchAddress := 0

/-- The bytes of a form. -/
def toBytes (f : EndpointForm) : Bytes :=
  f.length :: f.kind :: f.address :: f.attributes ::
    (Bytes.ofWord16 f.maxPacketSize ++ [f.interval, f.refresh, f.synchAddress])

end EndpointForm

/-- The descriptor of an endpoint as the kernel takes it. -/
def endpointRecord (e : Endpoint) : Bytes := (EndpointForm.ofEndpoint e).toBytes

/-- The header of a transfer. -/
def transferHeader (handle : UInt32) (length : Nat) : Bytes :=
  Bytes.ofWord16 handle.toUInt16 ++ Bytes.ofWord16 0 ++ Bytes.ofWord32 (UInt32.ofNat length)

/-- The record of a transfer that carries `data`. -/
def transferRecord (handle : UInt32) (data : Bytes) : Bytes :=
  transferHeader handle data.length ++ data

/-- A buffer after a transfer of `count` bytes out of `payload`, which has the buffer's size. -/
def received (count : Nat) (payload buffer : Bytes) : Bytes :=
  Bytes.overlay (payload.take count) buffer

/-! ### Events -/

/-- Number of payload bytes that an event has room for. -/
def eventRoom : Nat := 256

/-- The header of an event before the kernel wrote it. -/
def eventHeader : Bytes :=
  Bytes.ofWord32 EventRecord.invalidTag ++ Bytes.ofWord32 (UInt32.ofNat eventRoom)

/-- The event in a buffer of which the kernel wrote the front. -/
def eventOf (written : Bytes) : EventRecord :=
  let size := EventRecord.headerSize + eventRoom
  let buffer := Bytes.overlay (written.take size) (eventHeader ++ Bytes.zeros eventRoom)
  match buffer with
  | t₀ :: t₁ :: t₂ :: t₃ :: l₀ :: l₁ :: l₂ :: l₃ :: payload =>
    ⟨Bytes.word32 t₀ t₁ t₂ t₃, payload.take (min (Bytes.word32 l₀ l₁ l₂ l₃).toNat eventRoom)⟩
  | _ => ⟨EventRecord.invalidTag, []⟩

/-! ### The table of endpoints -/

/-- Number of bytes of the name in a row. -/
def rowNameSize : Nat := 16

/-- The number that stands for any number. -/
def anyNumber : UInt32 := 0xff

/-- A row of the table of endpoints. -/
structure Row where
  /-- The name, filled up with zeros. -/
  name : Bytes
  number : UInt32
  capabilities : UInt32
  maxPacketLimit : UInt16
  maxStreams : UInt16
  deriving DecidableEq, Repr

namespace Row

/-- The bytes of a row; the last four are reserved. -/
def toBytes (r : Row) : Bytes :=
  Bytes.fitted rowNameSize r.name ++ Bytes.ofWord32 r.number ++ Bytes.ofWord32 r.capabilities ++
    Bytes.ofWord16 r.maxPacketLimit ++ Bytes.ofWord16 r.maxStreams ++ Bytes.zeros 4

/-- The row in 32 bytes. -/
def ofBytes (data : Bytes) : Row :=
  let octet (i : Nat) : UInt8 := data.getD i 0
  { name := data.take rowNameSize
    number := Bytes.word32 (octet 16) (octet 17) (octet 18) (octet 19)
    capabilities := Bytes.word32 (octet 20) (octet 21) (octet 22) (octet 23)
    maxPacketLimit := Bytes.word16 (octet 24) (octet 25)
    maxStreams := Bytes.word16 (octet 26) (octet 27) }

/-- The endpoint that a row describes. -/
def endpoint (r : Row) : UdcEndpoint where
  name := Utf8.decode (nameBytes r.name)
  number := if r.number = anyNumber then none else some (UInt8.ofNat r.number.toNat)
  capabilities := .ofBits r.capabilities
  maxPacketLimit := r.maxPacketLimit
  maxStreams := r.maxStreams

/-- The row of an endpoint with any bits as capabilities. -/
def ofEndpoint (u : UdcEndpoint) (capabilities : UInt32) : Row where
  name := Utf8.encode u.name
  number :=
    match u.number with
    | some n => n.toUInt32
    | none => anyNumber
  capabilities := capabilities
  maxPacketLimit := u.maxPacketLimit
  maxStreams := u.maxStreams

end Row

/-- The first rows of a table. -/
def rowsOf : (count : Nat) → Bytes → List Row
  | 0, _ => []
  | count + 1, data => Row.ofBytes (data.take rowSize) :: rowsOf count (data.drop rowSize)

/-- The endpoints in a table of which the kernel wrote the front, when it returned a number of
rows. -/
def endpointsOf (count : Nat) (written : Bytes) : List UdcEndpoint :=
  let table := Bytes.fitted (maxRows * rowSize) written
  (rowsOf (min count maxRows) table).map Row.endpoint

end UsbPeripheral.Kernel
