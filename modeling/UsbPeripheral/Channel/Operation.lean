import UsbPeripheral.Errno
import UsbPeripheral.Text.Quoted

/-!
# Channel operations and their failures

A device talks to the kernel through sixteen operations.  Most failures end the device: they are a
`DeviceError`, which names the operation and the kernel's reason, or says what else the system did not
give.  A transfer on a data endpoint is
different, its failure is a `TransferError` that the worker of the endpoint decides about: either
the endpoint is gone, or the transfer failed and may be tried again.
-/

namespace UsbPeripheral

/-- An operation of the kernel channel. -/
inductive Operation where
  | init
  | run
  | eventFetch
  | ep0Write
  | ep0Read
  | epEnable
  | epDisable
  | epWrite
  | epRead
  | configure
  | vbusDraw
  | epsInfo
  | ep0Stall
  | epSetHalt
  | epClearHalt
  | epSetWedge
  deriving DecidableEq, Repr

namespace Operation

/-- Every operation. -/
def all : List Operation :=
  [init, run, eventFetch, ep0Write, ep0Read, epEnable, epDisable, epWrite, epRead, configure,
    vbusDraw, epsInfo, ep0Stall, epSetHalt, epClearHalt, epSetWedge]

/-- The short name. -/
def name : Operation → String
  | init => "Init"
  | run => "Run"
  | eventFetch => "EventFetch"
  | ep0Write => "Ep0Write"
  | ep0Read => "Ep0Read"
  | epEnable => "EpEnable"
  | epDisable => "EpDisable"
  | epWrite => "EpWrite"
  | epRead => "EpRead"
  | configure => "Configure"
  | vbusDraw => "VbusDraw"
  | epsInfo => "EpsInfo"
  | ep0Stall => "Ep0Stall"
  | epSetHalt => "EpSetHalt"
  | epClearHalt => "EpClearHalt"
  | epSetWedge => "EpSetWedge"

/-- The name of the kernel request. -/
def requestName : Operation → String
  | init => "USB_RAW_IOCTL_INIT"
  | run => "USB_RAW_IOCTL_RUN"
  | eventFetch => "USB_RAW_IOCTL_EVENT_FETCH"
  | ep0Write => "USB_RAW_IOCTL_EP0_WRITE"
  | ep0Read => "USB_RAW_IOCTL_EP0_READ"
  | epEnable => "USB_RAW_IOCTL_EP_ENABLE"
  | epDisable => "USB_RAW_IOCTL_EP_DISABLE"
  | epWrite => "USB_RAW_IOCTL_EP_WRITE"
  | epRead => "USB_RAW_IOCTL_EP_READ"
  | configure => "USB_RAW_IOCTL_CONFIGURE"
  | vbusDraw => "USB_RAW_IOCTL_VBUS_DRAW"
  | epsInfo => "USB_RAW_IOCTL_EPS_INFO"
  | ep0Stall => "USB_RAW_IOCTL_EP0_STALL"
  | epSetHalt => "USB_RAW_IOCTL_EP_SET_HALT"
  | epClearHalt => "USB_RAW_IOCTL_EP_CLEAR_HALT"
  | epSetWedge => "USB_RAW_IOCTL_EP_SET_WEDGE"

end Operation

/-- Why a device node cannot be opened. -/
inductive OpenFailure where
  | noSuchFile
  | notADirectory
  | isADirectory
  | nameTooLong
  | tooManyLinks
  | nulInPath
  deriving DecidableEq, Repr

namespace OpenFailure

/-- The reason in words. -/
def message : OpenFailure → String
  | noSuchFile => "No such file or directory (os error 2)"
  | notADirectory => "Not a directory (os error 20)"
  | isADirectory => "Is a directory (os error 21)"
  | nameTooLong => "File name too long (os error 36)"
  | tooManyLinks => "Too many levels of symbolic links (os error 40)"
  | nulInPath => "file name contained an unexpected NUL byte"

end OpenFailure

/-- A failure that ends a device. -/
inductive DeviceError where
  | channel (operation : Operation) (errno : Errno)
  /-- The device node cannot be opened. -/
  | unopened (path : String) (failure : OpenFailure)
  /-- A controller name does not fit the kernel's field for it. -/
  | invalidName (name : String)
  /-- There is no thread for the worker of an endpoint. -/
  | unstarted (reason : String)
  deriving DecidableEq, Repr

namespace DeviceError

/-- The failure in words. -/
def message : DeviceError → String
  | channel operation errno => s!"{operation.requestName} failed: {errno.message}"
  | unopened path failure => s!"can't open {path}: {failure.message}"
  | invalidName name => s!"invalid UDC name {Quoted.encode name}"
  | unstarted reason => s!"can't spawn endpoint worker: {reason}"

/-- The kernel's reason, if an operation failed. -/
def errno? : DeviceError → Option Errno
  | channel _ errno => some errno
  | _ => none

end DeviceError

/-- The failure of a transfer on a data endpoint. -/
inductive TransferError where
  /-- The endpoint went away. -/
  | invalidated (errno : Errno)
  /-- The transfer failed and may be tried again. -/
  | failed (errno : Errno)
  deriving DecidableEq, Repr

namespace TransferError

/-- How the kernel's reason is taken: a shut down, reset or removed endpoint is gone. -/
def ofErrno : Errno → TransferError
  | .eshutdown => invalidated .eshutdown
  | .econnreset => invalidated .econnreset
  | .enodev => invalidated .enodev
  | errno => failed errno

/-- The failure in words. -/
def message : TransferError → String
  | invalidated errno => s!"endpoint invalidated ({errno.message})"
  | failed errno => s!"transfer failed ({errno.message})"

end TransferError

end UsbPeripheral
