import UsbPeripheral.Bytes
import UsbPeripheral.Text.Hex
import UsbPeripheral.Descriptor.Kind
import UsbPeripheral.Setup.RequestType

/-!
# SETUP packets

Every control transfer starts with eight bytes: the request type, the request code, a value, an
index and the length of the data stage, the last three as little-endian words.  Reading takes the
first eight bytes of what is there and fails on fewer; writing and reading are inverse to each
other (`ofBytes?_toBytes`, `toBytes_of_ofBytes?`).
-/

namespace UsbPeripheral

/-- The packet that opens a control transfer. -/
structure Setup where
  requestType : RequestType
  request : UInt8
  value : UInt16
  /-- Second parameter, often an interface number or an endpoint address. -/
  index : UInt16
  /-- Longest data stage that the host takes or sends. -/
  length : UInt16
  deriving DecidableEq, Repr

namespace Setup

/-- Number of bytes of a packet. -/
def size : Nat := 8

/-- Direction of the data stage. -/
def direction (s : Setup) : Direction := s.requestType.direction

/-- Who defines the request. -/
def category (s : Setup) : Category := s.requestType.category

/-- What the request is addressed to. -/
def recipient (s : Setup) : Recipient := s.requestType.recipient

/-! ### The wire form -/

/-- The eight bytes of a packet. -/
def toBytes (s : Setup) : Bytes :=
  s.requestType.toByte :: s.request ::
    (Bytes.ofWord16 s.value ++ Bytes.ofWord16 s.index ++ Bytes.ofWord16 s.length)

/-- The packet at the front of `data`, if eight bytes are there. -/
def ofBytes? : Bytes → Option Setup
  | t :: r :: v₀ :: v₁ :: i₀ :: i₁ :: l₀ :: l₁ :: _ =>
    some ⟨.ofByte t, r, Bytes.word16 v₀ v₁, Bytes.word16 i₀ i₁, Bytes.word16 l₀ l₁⟩
  | _ => none

theorem length_toBytes (s : Setup) : s.toBytes.length = size := rfl

theorem ofBytes?_toBytes (s : Setup) (rest : Bytes) : ofBytes? (s.toBytes ++ rest) = some s := by
  simp [toBytes, ofBytes?, Bytes.ofWord16, RequestType.ofByte_toByte, Bytes.word16_low_high]

theorem toBytes_of_ofBytes? {data : Bytes} {s : Setup} (h : ofBytes? data = some s) :
    s.toBytes = data.take size := by
  unfold ofBytes? at h
  split at h
  · cases h
    simp [toBytes, RequestType.toByte_ofByte, Bytes.ofWord16_word16, size]
  · cases h

/-! ### What a packet asks for -/

/-- What a GET_DESCRIPTOR packet asks for: kind and index come from the value, and the index carries
the language of a string. -/
def descriptorQuery (s : Setup) : Descriptor.Query where
  kind := Bytes.high s.value
  index := Bytes.low s.value
  language := if Bytes.high s.value = Descriptor.Kind.string then s.index else 0

/-- The packet as diagnostics show it. -/
def text (s : Setup) : String :=
  let type := s!"0x{Hex.byte s.requestType.toByte}"
  let fields := s!"({s.direction.label}, {s.category.name}, {s.recipient.name})"
  s!"bRequestType: {type} {fields}, bRequest: 0x{Hex.byte s.request}, " ++
    s!"wValue: 0x{Hex.word s.value}, wIndex: 0x{Hex.word s.index}, wLength: {s.length.toNat}"

end Setup

end UsbPeripheral
