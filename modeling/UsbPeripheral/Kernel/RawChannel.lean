import UsbPeripheral.Channel.Basic
import UsbPeripheral.Kernel.Record
import UsbPeripheral.Kernel.TransferBuffer

/-!
# The channel of the kernel's device node

A device node is opened, and after that every channel operation is one kernel request.  This module makes the requests and reads the answers,
over any kernel.  A transfer never returns more bytes than its buffer has, whatever number the kernel
returns, and a refused transfer leaves the buffer as it was.
-/

namespace UsbPeripheral

namespace Kernel

/-- The path of the device node. -/
def nodePath : String := "/dev/raw-gadget"

/-- Open a device node for reading and writing.  What comes of that is up to the system. -/
def openNode (attempt : String → Except OpenFailure Unit) (path : String) :
    Except DeviceError Unit :=
  (attempt path).mapError (.unopened path)

end Kernel

namespace RawChannel

variable {κ : Type} [Kernel κ]

/-- A request whose refusal ends the device. -/
def ask (operation : Operation) (argument : KernelArgument) (k : κ) :
    Except DeviceError (Int32 × Bytes) × κ :=
  let (reply, k) := Kernel.request ⟨operation, argument⟩ k
  match reply.result with
  | .ok n => (.ok (n, reply.written), k)
  | .error errno => (.error (.channel operation errno), k)

theorem ask_reply (operation : Operation) (argument : KernelArgument) (k : κ) :
    (ask operation argument k).1 =
      match (Kernel.request ⟨operation, argument⟩ k).1 with
      | ⟨.ok n, written⟩ => .ok (n, written)
      | ⟨.error errno, _⟩ => .error (.channel operation errno) := by
  unfold ask
  dsimp only
  rcases (Kernel.request ⟨operation, argument⟩ k).1 with ⟨result, written⟩
  cases result <;> rfl

theorem ask_state (operation : Operation) (argument : KernelArgument) (k : κ) :
    (ask operation argument k).2 = (Kernel.request ⟨operation, argument⟩ k).2 := by
  unfold ask
  dsimp only
  split <;> rfl

/-- A request of which only the success counts. -/
def order (operation : Operation) (argument : KernelArgument) (k : κ) :
    Except DeviceError Unit × κ :=
  let (result, k) := ask operation argument k
  (result.map fun _ => (), k)

/-- Bind to a controller; no request is made with a name that is not valid. -/
def bind (driver device : String) (speed : Speed) (k : κ) : Except DeviceError Unit × κ :=
  match Kernel.bindRecord driver device speed with
  | .ok record => order .init (.record record) k
  | .error e => (.error e, k)

/-- Fetch the next event. -/
def fetchEvent (k : κ) : Except DeviceError EventRecord × κ :=
  let (result, k) := ask .eventFetch (.buffer Kernel.eventHeader Kernel.eventRoom) k
  (result.map fun (_, written) => Kernel.eventOf written, k)

/-- Let the kernel read into a buffer; the result is a count, and the buffer afterwards. -/
def receive (operation : Operation) (handle : UInt16) (buffer : Bytes) (k : κ) :
    (Except Errno Nat × Bytes) × κ :=
  let io := TransferBuffer.blank handle buffer.length
  let (reply, k) := Kernel.request ⟨operation, .buffer io.header io.length⟩ k
  match reply.result with
  | .ok n =>
    let count := min (sizeOfReturn n) buffer.length
    ((.ok count, Kernel.received count (io.fill reply.written).payload buffer), k)
  | .error errno => ((.error errno, buffer), k)

/-- Let the kernel write `data`. -/
def send (operation : Operation) (handle : UInt16) (data : Bytes) (k : κ) : Except Errno Nat × κ :=
  let io := TransferBuffer.holding handle data
  let (reply, k) := Kernel.request ⟨operation, .record io.record⟩ k
  (reply.result.map sizeOfReturn, k)

theorem count_le_of_receive {operation : Operation} {handle : UInt16} {buffer : Bytes} {k : κ}
    {count : Nat} (h : (receive operation handle buffer k).1.1 = .ok count) :
    count ≤ buffer.length := by
  simp only [receive] at h
  split at h
  · cases h
    exact Nat.min_le_right _ _
  · cases h

/-- Read the data stage into a buffer; the result is a count, and the buffer afterwards. -/
def ep0ReadInto (buffer : Bytes) (k : κ) : (Except DeviceError Nat × Bytes) × κ :=
  let ((result, buffer), k) := receive .ep0Read 0 buffer k
  ((result.mapError (.channel .ep0Read), buffer), k)

/-- Read the data stage into a buffer; the result is a count and the buffer afterwards. -/
def ep0Read (buffer : Bytes) (k : κ) : Except DeviceError (Nat × Bytes) × κ :=
  let ((result, buffer), k) := ep0ReadInto buffer k
  (result.map (·, buffer), k)

theorem count_le_of_ep0Read {buffer filled : Bytes} {k : κ} {count : Nat}
    (h : (ep0Read buffer k).1 = .ok (count, filled)) : count ≤ buffer.length := by
  simp only [ep0Read, ep0ReadInto] at h
  rcases hreceived : (receive .ep0Read 0 buffer k).1.1 with e | n
  · rw [hreceived] at h
    cases h
  · rw [hreceived] at h
    cases h
    exact count_le_of_receive hreceived

/-- Send on endpoint 0. -/
def ep0Write (data : Bytes) (k : κ) : Except DeviceError Nat × κ :=
  let (result, k) := send .ep0Write 0 data k
  (result.mapError (.channel .ep0Write), k)

/-- Enable an endpoint. -/
def enable (endpoint : Endpoint) (k : κ) : Except DeviceError Handle × κ :=
  let (result, k) := ask .epEnable (.record (Kernel.endpointRecord endpoint)) k
  (result.map fun (n, _) => n.toUInt32, k)

/-- Read from an endpoint into a buffer; the result is a count, and the buffer afterwards. -/
def read (handle : Handle) (buffer : Bytes) (k : κ) : (Except TransferError Nat × Bytes) × κ :=
  let ((result, buffer), k) := receive .epRead handle.toUInt16 buffer k
  ((result.mapError .ofErrno, buffer), k)

/-- Write to an endpoint. -/
def write (handle : Handle) (data : Bytes) (k : κ) : Except TransferError Nat × κ :=
  let (result, k) := send .epWrite handle.toUInt16 data k
  (result.mapError .ofErrno, k)

/-- The controller's endpoints. -/
def endpoints (k : κ) : Except DeviceError (List UdcEndpoint) × κ :=
  let (result, k) := ask .epsInfo .table k
  (result.map fun (n, written) => Kernel.endpointsOf (sizeOfReturn n) written, k)

/-- An operation on an endpoint that is passed by value. -/
def onHandle (operation : Operation) (handle : Handle) (k : κ) : Except DeviceError Unit × κ :=
  order operation (.value handle.toNat) k

/-- Report the current drawn. -/
def vbusDraw (milliamps : UInt32) (k : κ) : Except DeviceError Unit × κ :=
  order .vbusDraw (.value milliamps.toNat) k

end RawChannel

/-- The channel of the device node of a kernel. -/
structure RawChannel (κ : Type) where
  kernel : κ

namespace RawChannel

variable {κ : Type} [Kernel κ]

/-- An operation on the kernel as one on the channel. -/
def lift {α : Type} (f : κ → α × κ) (c : RawChannel κ) : α × RawChannel κ :=
  let (result, kernel) := f c.kernel
  (result, { kernel })

/-- Read from the data stage, as much as there is room for. -/
def ep0ReadUpTo (room : Nat) (k : κ) : Except DeviceError Bytes × κ :=
  let (result, k) := ep0Read (Bytes.zeros room) k
  (result.map fun (count, buffer) => buffer.take count, k)

theorem ep0ReadUpTo_fits (room : Nat) {k k' : κ} {data : Bytes}
    (h : ep0ReadUpTo room k = (.ok data, k')) : data.length ≤ room := by
  simp only [ep0ReadUpTo] at h
  obtain ⟨hr, -⟩ := Prod.mk.inj h
  rcases hread : (ep0Read (Bytes.zeros room) k).1 with e | ⟨count, buffer⟩
  · rw [hread] at hr
    cases hr
  · rw [hread] at hr
    cases hr
    have hcount := count_le_of_ep0Read hread
    rw [Bytes.zeros, List.length_replicate] at hcount
    exact Nat.le_trans (List.length_take_le count buffer) hcount

instance : Channel (RawChannel κ) where
  bind driver device speed := lift (bind driver device speed)
  run := lift (order .run .none)
  fetchEvent := lift fetchEvent
  ep0Read room := lift (ep0ReadUpTo room)
  ep0Read_fits room _ _ _ h := by
    obtain ⟨hr, -⟩ := Prod.mk.inj h
    exact ep0ReadUpTo_fits room (Prod.ext hr rfl)
  ep0Write data := lift (ep0Write data)
  ep0Stall := lift (order .ep0Stall .none)
  enable endpoint := lift (enable endpoint)
  disable handle := lift (onHandle .epDisable handle)
  read _ handle room := lift fun k =>
    let ((result, buffer), k) := read handle (Bytes.zeros room) k
    (.finished (result.map fun count => ⟨buffer.take count, count⟩), k)
  write handle data := lift (write handle data)
  wake _ c := c
  configure := lift (order .configure .none)
  vbusDraw milliamps := lift (vbusDraw milliamps)
  endpoints := lift endpoints
  setHalt handle := lift (onHandle .epSetHalt handle)
  clearHalt handle := lift (onHandle .epClearHalt handle)
  setWedge handle := lift (onHandle .epSetWedge handle)

end RawChannel

end UsbPeripheral
