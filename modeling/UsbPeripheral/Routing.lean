import UsbPeripheral.ByteMap
import UsbPeripheral.Journal
import UsbPeripheral.Setup.Packet

/-!
# Routing: handlers of class and vendor requests

A device class serves its requests by **handlers**, functions of the packet and of the state `P` of
the device class.  A handler answers with a **reply**, which says what happens on endpoint 0.

A handler table has one handler per request code for class requests and one for vendor requests, and
may have a fallback for the vendor codes without one.  A later entry for the same code wins.
Standard and reserved requests are not routed at all.
-/

namespace UsbPeripheral

/-- What a request is answered with. -/
inductive Reply (P : Type) where
  /-- Data for the host, cut to the length it asks for. -/
  | send (data : Bytes)
  /-- Take the data of the host, and pass it on. -/
  | receive (handler : Setup → Bytes → P → P × List Note)
  | ack
  | stall

namespace Reply

/-- The reply as diagnostics show it. -/
def text {P : Type} : Reply P → String
  | send data => "Send([" ++ ", ".intercalate (data.map fun b => toString b.toNat) ++ "])"
  | receive _ => "Receive"
  | ack => "Ack"
  | stall => "Stall"

end Reply

/-- What a handler did. -/
structure Handled (P : Type) where
  reply : Reply P
  profile : P
  notes : List Note := []

/-- Handles a class or vendor request. -/
abbrev Handler (P : Type) := Setup → P → Handled P

/-- A handler with its name for the journal. -/
structure NamedHandler (P : Type) where
  name : String
  handler : Handler P

/-- The handlers of a device class. -/
structure HandlerTable (P : Type) where
  /-- Handlers of class requests by code. -/
  classes : ByteMap (NamedHandler P) := .empty
  /-- Handlers of vendor requests by code. -/
  vendors : ByteMap (NamedHandler P) := .empty
  /-- Handler of the other vendor requests. -/
  fallback : Option (Handler P) := none

namespace HandlerTable

variable {P : Type}

/-- The table without handlers. -/
def empty : HandlerTable P := {}

/-- One step of building a table. -/
inductive Step (P : Type) where
  | ofClass (code : UInt8) (name : String) (handler : Handler P)
  | vendor (code : UInt8) (name : String) (handler : Handler P)
  | fallback (handler : Handler P)

/-- The table after one more step. -/
def add (t : HandlerTable P) : Step P → HandlerTable P
  | .ofClass code name handler => { t with classes := t.classes.insert code ⟨name, handler⟩ }
  | .vendor code name handler => { t with vendors := t.vendors.insert code ⟨name, handler⟩ }
  | .fallback handler => { t with fallback := some handler }

/-- The table that the steps build. -/
def ofSteps (steps : List (Step P)) : HandlerTable P := steps.foldl add empty

/-- The handler of a request. -/
def lookup (t : HandlerTable P) (category : Category) (code : UInt8) : Option (NamedHandler P) :=
  match category with
  | .ofClass => t.classes.get? code
  | .vendor =>
    match t.vendors.get? code with
    | some h => some h
    | none => t.fallback.map fun handler => ⟨"vendor", handler⟩
  | .standard | .reserved => none

/-- Number of handlers, the fallback not counted. -/
def size (t : HandlerTable P) : Nat := t.classes.size + t.vendors.size

end HandlerTable

end UsbPeripheral
