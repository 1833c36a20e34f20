import UsbPeripheral.Catalog
import UsbPeripheral.Descriptor.Device
import UsbPeripheral.Profile
import UsbPeripheral.Text.Utf8

/-!
# A printer

A USB printer with one interface: a bulk endpoint that takes print data and a bulk endpoint that
reports status (the bidirectional protocol).  It tells its IEEE 1284 device ID, its status, and
counts soft resets.
-/

namespace UsbPeripheral

/-- The state of a printer. -/
structure Printer where
  /-- The IEEE 1284 device ID. -/
  deviceId : String := "MFG:Linux;MDL:Raw Gadget Printer;CMD:PCL;CLS:PRINTER;"
  /-- The status that a host asks for; the usual one is paper present, selected, no error. -/
  portStatus : UInt8 := 0x18
  softResets : Nat := 0
  deriving DecidableEq, Repr

namespace Printer

/-- A printer that was switched on. -/
def new : Printer := {}

/-! ### Descriptors -/

/-- Address of the endpoint for print data. -/
def dataAddress : Address := 0x01

/-- Address of the endpoint for status. -/
def statusAddress : Address := 0x82

/-- The endpoint for print data. -/
def dataEndpoint : Endpoint := .bulk dataAddress 512

/-- The endpoint for status. -/
def statusEndpoint : Endpoint := .bulk statusAddress 512

/-- The current that a printer draws, in milliampere. -/
def maxPower : UInt32 := 100

/-- What a printer says of itself. -/
def identity : Descriptor.Identity where
  vendor := 0x0525
  product := 0xa4a8
  release := 0x0100
  deviceClass := 0
  subclass := 0
  protocol := 0
  maxPacketSize := 64

/-- The blocks of the configuration. -/
def configurationBody : Bytes :=
  Descriptor.interface 0 2 0x07 1 2 ++ dataEndpoint.toBytes ++ statusEndpoint.toBytes

/-- The descriptors of a printer. -/
def catalog : Catalog :=
  .ofSteps
    [.descriptor Descriptor.Kind.device 0 identity.deviceDescriptor,
      .descriptor Descriptor.Kind.deviceQualifier 0 identity.deviceQualifier,
      .descriptor Descriptor.Kind.configuration 0
        (Descriptor.configuration 1 1 maxPower false configurationBody),
      .languages [Descriptor.americanEnglish],
      .string Descriptor.manufacturerIndex "Linux",
      .string Descriptor.productIndex "Raw Gadget Printer",
      .string Descriptor.serialIndex "0001"]

/-- The configuration of a printer. -/
def configuration : Configuration where
  value := 1
  maxPower := maxPower
  interfaces := [0]
  endpoints := [dataEndpoint, statusEndpoint]

/-! ### Requests -/

/-- The device ID as it is sent: a length that counts itself, high byte first, and as much of the ID
as the length can count. -/
def deviceIdReply (p : Printer) : Bytes :=
  let id := Utf8.encode p.deviceId
  let length := min (id.length + 2) 65535
  let word := UInt16.ofNat length
  Bytes.high word :: Bytes.low word :: id.take (length - 2)

/-- GET_DEVICE_ID. -/
def getDeviceId (setup : Setup) (p : Printer) : Handled Printer :=
  if setup.direction = .toHost then ⟨.send p.deviceIdReply, p, []⟩ else ⟨.stall, p, []⟩

/-- GET_PORT_STATUS. -/
def getPortStatus (setup : Setup) (p : Printer) : Handled Printer :=
  if setup.direction = .toHost then ⟨.send [p.portStatus], p, []⟩ else ⟨.stall, p, []⟩

/-- SOFT_RESET. -/
def softReset (setup : Setup) (p : Printer) : Handled Printer :=
  if setup.direction = .toDevice then
    ⟨.ack, { p with softResets := p.softResets + 1 }, [.ofDevice .info "printer soft reset"]⟩
  else ⟨.stall, p, []⟩

/-- The requests of the printer class. -/
def handlers : HandlerTable Printer :=
  .ofSteps
    [.ofClass 0 "GET_DEVICE_ID" getDeviceId, .ofClass 1 "GET_PORT_STATUS" getPortStatus,
      .ofClass 2 "SOFT_RESET" softReset]

/-- What stands behind an endpoint of a printer. -/
def endpointData (e : Endpoint) : Option EndpointData :=
  if e.address = dataAddress then some (.sink (.announced dataAddress "printer" "print data"))
  else if e.address = statusAddress then some (.source statusAddress)
  else none

/-- The depot of a printer. -/
def depot : Depot where
  feeds := ByteMap.empty.insert statusAddress {}
  outlets := ByteMap.empty.insert dataAddress {}

instance : DeviceProfile Printer where
  descriptor? _ query := catalog.lookup query
  handlers _ := handlers
  configurations _ := [configuration]
  endpointData p e := (endpointData e, p)

end Printer

end UsbPeripheral
