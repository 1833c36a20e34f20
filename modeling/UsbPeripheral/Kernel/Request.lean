import UsbPeripheral.Channel.Operation
import UsbPeripheral.Text.Utf8

/-!
# Kernel requests

Under the channel lies the kernel's device node, which takes numbered requests.  A request number has
four fields: the direction of the argument (bits 31 and 30), its size (29 to 16), the letter of the
driver (15 to 8) and the number of the request (7 to 0).

The kernel answers a request with a number, or refuses it; and it may write into the buffer that came
with the request.  `Kernel κ` says what it does on a state of type `κ`.
-/

namespace UsbPeripheral

namespace Kernel

/-- Where the argument of a request goes. -/
inductive Transfer where
  | none
  | toKernel
  | fromKernel
  | both
  deriving DecidableEq, Repr

namespace Transfer

/-- The value of the direction field. -/
def code : Transfer → Nat
  | none => 0
  | toKernel => 1
  | fromKernel => 2
  | both => 3

end Transfer

/-- The letter of the driver. -/
def letter : Char := 'U'

/-- A request number. -/
def requestNumber (transfer : Transfer) (size number : Nat) : UInt32 :=
  UInt32.ofNat ((transfer.code <<< 30) + (size <<< 16) + (letter.toNat <<< 8) + number)

/-- Number of bytes that a controller name has room for, its end mark included. -/
def nameSize : Nat := 128

/-- Number of bytes of the argument that binds to a controller. -/
def bindSize : Nat := 2 * nameSize + 1

/-- Number of bytes of the header of an endpoint transfer. -/
def transferHeaderSize : Nat := 8

/-- Number of bytes of an endpoint descriptor as the kernel takes it. -/
def endpointSize : Nat := 9

/-- Number of bytes of a row of the table of endpoints. -/
def rowSize : Nat := 32

/-- Number of rows of the table of endpoints. -/
def maxRows : Nat := 30

/-- Number of bytes of an argument that is passed by value. -/
def wordSize : Nat := 4

end Kernel

namespace Operation

/-- The request number of an operation. -/
def requestNumber : Operation → UInt32
  | init => Kernel.requestNumber .toKernel Kernel.bindSize 0
  | run => Kernel.requestNumber .none 0 1
  | eventFetch => Kernel.requestNumber .fromKernel 8 2
  | ep0Write => Kernel.requestNumber .toKernel Kernel.transferHeaderSize 3
  | ep0Read => Kernel.requestNumber .both Kernel.transferHeaderSize 4
  | epEnable => Kernel.requestNumber .toKernel Kernel.endpointSize 5
  | epDisable => Kernel.requestNumber .toKernel Kernel.wordSize 6
  | epWrite => Kernel.requestNumber .toKernel Kernel.transferHeaderSize 7
  | epRead => Kernel.requestNumber .both Kernel.transferHeaderSize 8
  | configure => Kernel.requestNumber .none 0 9
  | vbusDraw => Kernel.requestNumber .toKernel Kernel.wordSize 10
  | epsInfo => Kernel.requestNumber .fromKernel (Kernel.maxRows * Kernel.rowSize) 11
  | ep0Stall => Kernel.requestNumber .none 0 12
  | epSetHalt => Kernel.requestNumber .toKernel Kernel.wordSize 13
  | epClearHalt => Kernel.requestNumber .toKernel Kernel.wordSize 14
  | epSetWedge => Kernel.requestNumber .toKernel Kernel.wordSize 15

end Operation

/-- The argument of a kernel request. -/
inductive KernelArgument where
  | none
  /-- A number, passed by value. -/
  | value (n : Nat)
  | record (data : Bytes)
  /-- A header, and room for a payload from the kernel. -/
  | buffer (header : Bytes) (room : Nat)
  /-- Room for the table of endpoints. -/
  | table
  deriving DecidableEq, Repr

/-- A request to the kernel. -/
structure KernelRequest where
  operation : Operation
  argument : KernelArgument
  deriving DecidableEq, Repr

/-- What the kernel makes of a request. -/
structure KernelReply where
  /-- The number returned, or why the request was refused. -/
  result : Except Errno Int32
  /-- What the kernel writes into the buffer, in the part that it fills. -/
  written : Bytes := []

/-- The kernel as a function on states of type `κ`. -/
class Kernel (κ : Type) where
  /-- Make a request. -/
  request : KernelRequest → κ → KernelReply × κ

/-- A returned number where a size is expected: a negative one is a very large size. -/
def sizeOfReturn (n : Int32) : Nat := (n.toInt % UInt64.size).toNat

/-- A kernel that answers every request alike and keeps what it was asked. -/
structure ScriptedKernel where
  reply : KernelReply
  /-- The requests, oldest first. -/
  requests : List KernelRequest := []

instance : Kernel ScriptedKernel where
  request r k := (k.reply, { k with requests := k.requests ++ [r] })

/-! ### Logged kernels -/

/-- A kernel over another one: it answers as the one underneath, and keeps what it was asked. -/
structure LoggedKernel (κ : Type) where
  inner : κ
  /-- The requests, oldest first. -/
  requests : List KernelRequest := []

namespace LoggedKernel

variable {κ : Type} [Kernel κ]

instance : Kernel (LoggedKernel κ) where
  request r k :=
    ((Kernel.request r k.inner).1,
      { inner := (Kernel.request r k.inner).2, requests := k.requests ++ [r] })

@[simp] theorem request_requests (r : KernelRequest) (k : LoggedKernel κ) :
    (Kernel.request r k).2.requests = k.requests ++ [r] := rfl

end LoggedKernel

end UsbPeripheral
