/-!
# Error numbers of kernel operations

A kernel operation that fails reports a number.  Each number that a controller driver is known to
report has its own constructor; the numbers without one are all `unknown`.
-/

namespace UsbPeripheral

/-- The reason that the kernel gives for a failed operation. -/
inductive Errno where
  | eperm | enoent | eintr | eio | enxio | ebadf | eagain | enomem | eacces | efault | ebusy
  | enodev | einval | enotty | enospc | epipe | enosys | enodata | etime | eproto | eoverflow
  | eopnotsupp | econnaborted | econnreset | enobufs | enotconn | eshutdown | etimedout
  | econnrefused | ehostunreach | einprogress | eremoteio | ecanceled | enotrecoverable
  | ehwpoison | unknown
  deriving DecidableEq, Repr

namespace Errno

/-- The reason behind a number. -/
def ofCode : Nat → Errno
  | 1 => eperm | 2 => enoent | 4 => eintr | 5 => eio | 6 => enxio | 9 => ebadf | 11 => eagain
  | 12 => enomem | 13 => eacces | 14 => efault | 16 => ebusy | 19 => enodev | 22 => einval
  | 25 => enotty | 28 => enospc | 32 => epipe | 38 => enosys | 61 => enodata | 62 => etime
  | 71 => eproto | 75 => eoverflow | 95 => eopnotsupp | 103 => econnaborted | 104 => econnreset
  | 105 => enobufs | 107 => enotconn | 108 => eshutdown | 110 => etimedout
  | 111 => econnrefused | 113 => ehostunreach | 115 => einprogress | 121 => eremoteio
  | 125 => ecanceled | 131 => enotrecoverable | 133 => ehwpoison | _ => unknown

/-- The symbolic name. -/
def name : Errno → String
  | eperm => "EPERM" | enoent => "ENOENT" | eintr => "EINTR" | eio => "EIO" | enxio => "ENXIO"
  | ebadf => "EBADF" | eagain => "EAGAIN" | enomem => "ENOMEM" | eacces => "EACCES"
  | efault => "EFAULT" | ebusy => "EBUSY" | enodev => "ENODEV" | einval => "EINVAL"
  | enotty => "ENOTTY" | enospc => "ENOSPC" | epipe => "EPIPE" | enosys => "ENOSYS"
  | enodata => "ENODATA" | etime => "ETIME" | eproto => "EPROTO" | eoverflow => "EOVERFLOW"
  | eopnotsupp => "EOPNOTSUPP" | econnaborted => "ECONNABORTED" | econnreset => "ECONNRESET"
  | enobufs => "ENOBUFS" | enotconn => "ENOTCONN" | eshutdown => "ESHUTDOWN"
  | etimedout => "ETIMEDOUT" | econnrefused => "ECONNREFUSED" | ehostunreach => "EHOSTUNREACH"
  | einprogress => "EINPROGRESS" | eremoteio => "EREMOTEIO" | ecanceled => "ECANCELED"
  | enotrecoverable => "ENOTRECOVERABLE" | ehwpoison => "EHWPOISON"
  | unknown => "UnknownErrno"

/-- The reason in words. -/
def description : Errno → String
  | eperm => "Operation not permitted"
  | enoent => "No such file or directory"
  | eintr => "Interrupted system call"
  | eio => "I/O error"
  | enxio => "No such device or address"
  | ebadf => "Bad file number"
  | eagain => "Try again"
  | enomem => "Out of memory"
  | eacces => "Permission denied"
  | efault => "Bad address"
  | ebusy => "Device or resource busy"
  | enodev => "No such device"
  | einval => "Invalid argument"
  | enotty => "Not a typewriter"
  | enospc => "No space left on device"
  | epipe => "Broken pipe"
  | enosys => "Function not implemented"
  | enodata => "No data available"
  | etime => "Timer expired"
  | eproto => "Protocol error"
  | eoverflow => "Value too large for defined data type"
  | eopnotsupp => "Operation not supported on transport endpoint"
  | econnaborted => "Software caused connection abort"
  | econnreset => "Connection reset by peer"
  | enobufs => "No buffer space available"
  | enotconn => "Transport endpoint is not connected"
  | eshutdown => "Cannot send after transport endpoint shutdown"
  | etimedout => "Connection timed out"
  | econnrefused => "Connection refused"
  | ehostunreach => "No route to host"
  | einprogress => "Operation now in progress"
  | eremoteio => "Remote I/O error"
  | ecanceled => "Operation canceled"
  | enotrecoverable => "State not recoverable"
  | ehwpoison => "Memory page has hardware error"
  | unknown => "Unknown errno"

/-- Name and description, as diagnostics show them. -/
def message (e : Errno) : String := s!"{e.name}: {e.description}"

end Errno

end UsbPeripheral
