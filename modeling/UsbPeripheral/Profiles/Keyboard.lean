import UsbPeripheral.Catalog
import UsbPeripheral.Descriptor.Device
import UsbPeripheral.Profile

/-!
# A boot keyboard

A human interface device with one interface, the boot subclass and an interrupt endpoint for input
reports of eight bytes.  The host sets its lights by an output report, and reads and writes its idle
rate and its protocol.  A bus reset brings idle rate and protocol back to their first values and
leaves the lights alone.
-/

namespace UsbPeripheral

/-- The state of a keyboard. -/
structure Keyboard where
  /-- The lights of the last output report: Num Lock, Caps Lock, Scroll Lock from bit 0 up. -/
  leds : UInt8 := 0
  /-- The idle rate in units of 4 ms, at first half a second. -/
  idle : UInt8 := 125
  /-- The protocol: 0 boot, 1 report. -/
  protocol : UInt8 := 1
  deriving DecidableEq, Repr

namespace Keyboard

/-- A keyboard that was plugged in. -/
def new : Keyboard := {}

/-! ### Reports -/

/-- Number of bytes of an input report. -/
def reportSize : Nat := 8

/-- The input report for some modifiers and keys; it has room for six keys. -/
def keyReport (modifiers : UInt8) (keys : Bytes) : Bytes :=
  modifiers :: 0 :: Bytes.fitted (reportSize - 2) keys

/-- The report descriptor of a boot keyboard: a byte of modifiers, a reserved byte, five lights and
six keys. -/
def bootReport : Bytes :=
  [0x05, 0x01, 0x09, 0x06, 0xa1, 0x01, 0x05, 0x07, 0x19, 0xe0, 0x29, 0xe7, 0x15, 0x00, 0x25, 0x01,
    0x75, 0x01, 0x95, 0x08, 0x81, 0x02, 0x95, 0x01, 0x75, 0x08, 0x81, 0x03, 0x95, 0x05, 0x75,
    0x01, 0x05, 0x08, 0x19, 0x01, 0x29, 0x05, 0x91, 0x02, 0x95, 0x01, 0x75, 0x03, 0x91, 0x03,
    0x95, 0x06, 0x75, 0x08, 0x15, 0x00, 0x25, 0x65, 0x05, 0x07, 0x19, 0x00, 0x29, 0x65, 0x81,
    0x00, 0xc0]

/-! ### Descriptors -/

/-- Address of the endpoint for input reports. -/
def reportAddress : Address := 0x81

/-- The endpoint for input reports. -/
def reportEndpoint : Endpoint := .interrupt reportAddress 8 10

/-- The current that a keyboard draws, in milliampere. -/
def maxPower : UInt32 := 100

/-- What a keyboard says of itself. -/
def identity : Descriptor.Identity where
  vendor := 0x0525
  product := 0xa4ac
  release := 0x0100
  deviceClass := 0
  subclass := 0
  protocol := 0
  maxPacketSize := 64

/-- The HID descriptor: version 1.11, no country, one report descriptor. -/
def hidDescriptor : Bytes :=
  [9, Descriptor.Kind.hid, 0x11, 0x01, 0, 1, Descriptor.Kind.report] ++
    Bytes.ofWord16 (UInt16.ofNat bootReport.length)

/-- The blocks of the configuration. -/
def configurationBody : Bytes :=
  Descriptor.interface 0 1 0x03 1 1 ++ hidDescriptor ++ reportEndpoint.toBytes

/-- The report descriptor of the one interface. -/
def reportDescriptor (index : UInt8) (_language : UInt16) : Option Bytes :=
  if index = 0 then some bootReport else none

/-- The descriptors of a keyboard. -/
def catalog : Catalog :=
  .ofSteps
    [.descriptor Descriptor.Kind.device 0 identity.deviceDescriptor,
      .descriptor Descriptor.Kind.deviceQualifier 0 identity.deviceQualifier,
      .descriptor Descriptor.Kind.configuration 0
        (Descriptor.configuration 1 1 maxPower false configurationBody),
      .descriptor Descriptor.Kind.hid 0 hidDescriptor,
      .source Descriptor.Kind.report reportDescriptor,
      .languages [Descriptor.americanEnglish],
      .string Descriptor.manufacturerIndex "Linux",
      .string Descriptor.productIndex "Raw Gadget Keyboard",
      .string Descriptor.serialIndex "0001"]

/-- The configuration of a keyboard. -/
def configuration : Configuration where
  value := 1
  maxPower := maxPower
  interfaces := [0]
  endpoints := [reportEndpoint]

/-! ### Requests -/

/-- GET_REPORT: nothing is pressed. -/
def getReport (setup : Setup) (k : Keyboard) : Handled Keyboard :=
  if setup.direction = .toHost then ⟨.send (keyReport 0 []), k, []⟩ else ⟨.stall, k, []⟩

/-- An output report sets the lights by its first byte. -/
def outputReport (_setup : Setup) (data : Bytes) (k : Keyboard) : Keyboard × List Note :=
  match data with
  | leds :: _ => ({ k with leds }, [.ofDevice .info s!"keyboard leds: 0x{Hex.byte leds}"])
  | [] => (k, [])

/-- SET_REPORT. -/
def setReport (setup : Setup) (k : Keyboard) : Handled Keyboard :=
  if setup.direction = .toDevice then ⟨.receive outputReport, k, []⟩ else ⟨.stall, k, []⟩

/-- GET_IDLE. -/
def getIdle (setup : Setup) (k : Keyboard) : Handled Keyboard :=
  if setup.direction = .toHost then ⟨.send [k.idle], k, []⟩ else ⟨.stall, k, []⟩

/-- SET_IDLE. -/
def setIdle (setup : Setup) (k : Keyboard) : Handled Keyboard :=
  if setup.direction = .toDevice then
    let idle := Bytes.high setup.value
    ⟨.ack, { k with idle }, [.ofDevice .debug s!"keyboard idle rate {idle.toNat}"]⟩
  else ⟨.stall, k, []⟩

/-- GET_PROTOCOL. -/
def getProtocol (setup : Setup) (k : Keyboard) : Handled Keyboard :=
  if setup.direction = .toHost then ⟨.send [k.protocol], k, []⟩ else ⟨.stall, k, []⟩

/-- SET_PROTOCOL. -/
def setProtocol (setup : Setup) (k : Keyboard) : Handled Keyboard :=
  let protocol := Bytes.low setup.value
  if setup.direction = .toDevice ∧ (protocol = 0 ∨ protocol = 1) then
    ⟨.ack, { k with protocol }, [.ofDevice .debug s!"keyboard protocol {protocol.toNat}"]⟩
  else ⟨.stall, k, []⟩

/-- The requests of the class. -/
def handlers : HandlerTable Keyboard :=
  .ofSteps
    [.ofClass 0x01 "HID_REQ_GET_REPORT" getReport, .ofClass 0x02 "HID_REQ_GET_IDLE" getIdle,
      .ofClass 0x03 "HID_REQ_GET_PROTOCOL" getProtocol,
      .ofClass 0x09 "HID_REQ_SET_REPORT" setReport, .ofClass 0x0a "HID_REQ_SET_IDLE" setIdle,
      .ofClass 0x0b "HID_REQ_SET_PROTOCOL" setProtocol]

/-- What stands behind an endpoint of a keyboard. -/
def endpointData (e : Endpoint) : Option EndpointData :=
  if e.address = reportAddress then some (.source reportAddress) else none

/-- The depot of a keyboard. -/
def depot : Depot where
  feeds := ByteMap.empty.insert reportAddress {}

instance : DeviceProfile Keyboard where
  descriptor? _ query := catalog.lookup query
  handlers _ := handlers
  configurations _ := [configuration]
  endpointData k e := (endpointData e, k)
  onReset k := { k with idle := new.idle, protocol := new.protocol }

end Keyboard

end UsbPeripheral
