import UsbPeripheral.Descriptor.Endpoint
import UsbPeripheral.Event
import UsbPeripheral.Setup.StandardRequest

/-!
# Scripted events: what a host may send

An emulated host queues events.  A SETUP packet can come with the data stage that the host sends
along, and the data stage belongs to that packet only.  This module names the requests that hosts
send in practice.
-/

namespace UsbPeripheral

/-- An event of the host's script, with the data stage of a SETUP packet. -/
structure ScriptedEvent where
  record : EventRecord
  /-- The data stage, if the host sends one. -/
  dataStage : Option Bytes := none
  deriving DecidableEq, Repr

namespace ScriptedEvent

/-- Something on the bus other than a request. -/
def ofTag (tag : UInt32) (payload : Bytes) : ScriptedEvent := ⟨⟨tag, payload⟩, none⟩

/-- The device is connected. -/
def connect : ScriptedEvent := ofTag EventRecord.connectTag []

/-- A SETUP packet with an optional data stage. -/
def ofSetup (setup : Setup) (dataStage : Option Bytes) : ScriptedEvent :=
  ⟨EventRecord.ofSetup setup, dataStage⟩

/-- A request for data from the device. -/
def controlRead (type : RequestType) (request : UInt8) (value index length : UInt16) :
    ScriptedEvent :=
  ofSetup ⟨type, request, value, index, length⟩ none

/-- A request that brings `data` to the device; no data is no data stage. -/
def controlWrite (type : RequestType) (request : UInt8) (value index : UInt16) (data : Bytes) :
    ScriptedEvent :=
  ofSetup ⟨type, request, value, index, UInt16.ofNat data.length⟩
    (if data.isEmpty then none else some data)

/-! ### Standard requests -/

/-- A request for data that the standard defines. -/
def ask (type : RequestType) (request : StandardRequest) (value index length : UInt16) :
    ScriptedEvent :=
  controlRead type request.code value index length

/-- A request without data that the standard defines. -/
def tell (type : RequestType) (request : StandardRequest) (value index : UInt16) :
    ScriptedEvent :=
  controlWrite type request.code value index []

/-- The status of the device. -/
def deviceStatus : ScriptedEvent := ask .toHost .getStatus 0 0 2

/-- The status of an endpoint. -/
def endpointStatus (address : Address) : ScriptedEvent :=
  ask (RequestType.toHost.apply .endpoint) .getStatus 0 address.toUInt16 2

/-- Set a feature of the device. -/
def setDeviceFeature (feature : UInt16) : ScriptedEvent := tell .toDevice .setFeature feature 0

/-- Set a feature of an endpoint. -/
def setEndpointFeature (address : Address) (feature : UInt16) : ScriptedEvent :=
  tell (RequestType.toDevice.apply .endpoint) .setFeature feature address.toUInt16

/-- Clear a feature of an endpoint. -/
def clearEndpointFeature (address : Address) (feature : UInt16) : ScriptedEvent :=
  tell (RequestType.toDevice.apply .endpoint) .clearFeature feature address.toUInt16

/-- A descriptor. -/
def getDescriptor (kind : Descriptor.Kind) (index : UInt8) (language length : UInt16) :
    ScriptedEvent :=
  ask .toHost .getDescriptor (Bytes.word16 index kind) language length

/-- The selected configuration. -/
def getConfiguration : ScriptedEvent := ask .toHost .getConfiguration 0 0 1

/-- Select a configuration. -/
def setConfiguration (value : UInt8) : ScriptedEvent :=
  tell .toDevice .setConfiguration value.toUInt16 0

/-- The alternate setting of an interface. -/
def getInterface (interface : UInt8) : ScriptedEvent :=
  ask (RequestType.toHost.apply .interface) .getInterface 0 interface.toUInt16 1

/-- Select an alternate setting of an interface. -/
def setInterface (interface alternate : UInt8) : ScriptedEvent :=
  tell (RequestType.toDevice.apply .interface) .setInterface alternate.toUInt16 interface.toUInt16

end ScriptedEvent

end UsbPeripheral
