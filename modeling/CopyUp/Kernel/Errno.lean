/-!
# Error numbers

An error number is what the kernel answers instead of a result. Each number in use has a symbolic
name and two texts: the message of the C library, shown where an error is reported, and a label,
shown where a verdict names the error that was met or expected. The two differ for some numbers.
-/

namespace CopyUp

structure Errno where
  code : Int
  deriving DecidableEq, Repr

namespace Errno

/-- The texts that go with one error number. -/
structure Entry where
  code : Int
  name : String
  message : String
  label : String

/-- An entry whose label is its message. -/
def Entry.same (code : Int) (name message : String) : Entry :=
  ⟨code, name, message, message⟩

/-- Every number in use, in ascending order. -/
def catalog : List Entry := [
  .same 1 "EPERM" "Operation not permitted",
  .same 2 "ENOENT" "No such file or directory",
  .same 3 "ESRCH" "No such process",
  .same 4 "EINTR" "Interrupted system call",
  ⟨5, "EIO", "Input/output error", "I/O error"⟩,
  .same 6 "ENXIO" "No such device or address",
  .same 7 "E2BIG" "Argument list too long",
  .same 8 "ENOEXEC" "Exec format error",
  ⟨9, "EBADF", "Bad file descriptor", "Bad file number"⟩,
  .same 10 "ECHILD" "No child processes",
  ⟨11, "EAGAIN", "Resource temporarily unavailable", "Try again"⟩,
  ⟨12, "ENOMEM", "Cannot allocate memory", "Out of memory"⟩,
  .same 13 "EACCES" "Permission denied",
  .same 14 "EFAULT" "Bad address",
  .same 15 "ENOTBLK" "Block device required",
  .same 16 "EBUSY" "Device or resource busy",
  .same 17 "EEXIST" "File exists",
  ⟨18, "EXDEV", "Invalid cross-device link", "Cross-device link"⟩,
  .same 19 "ENODEV" "No such device",
  .same 20 "ENOTDIR" "Not a directory",
  .same 21 "EISDIR" "Is a directory",
  .same 22 "EINVAL" "Invalid argument",
  ⟨23, "ENFILE", "Too many open files in system", "File table overflow"⟩,
  .same 24 "EMFILE" "Too many open files",
  ⟨25, "ENOTTY", "Inappropriate ioctl for device", "Not a typewriter"⟩,
  .same 26 "ETXTBSY" "Text file busy",
  .same 27 "EFBIG" "File too large",
  .same 28 "ENOSPC" "No space left on device",
  .same 29 "ESPIPE" "Illegal seek",
  .same 30 "EROFS" "Read-only file system",
  .same 31 "EMLINK" "Too many links",
  .same 32 "EPIPE" "Broken pipe",
  ⟨33, "EDOM", "Numerical argument out of domain", "Math argument out of domain of func"⟩,
  ⟨34, "ERANGE", "Numerical result out of range", "Math result not representable"⟩,
  ⟨35, "EDEADLK", "Resource deadlock avoided", "Resource deadlock would occur"⟩,
  .same 36 "ENAMETOOLONG" "File name too long",
  ⟨37, "ENOLCK", "No locks available", "No record locks available"⟩,
  .same 38 "ENOSYS" "Function not implemented",
  .same 39 "ENOTEMPTY" "Directory not empty",
  ⟨40, "ELOOP", "Too many levels of symbolic links", "Too many symbolic links encountered"⟩,
  .same 42 "ENOMSG" "No message of desired type",
  .same 43 "EIDRM" "Identifier removed",
  .same 44 "ECHRNG" "Channel number out of range",
  .same 45 "EL2NSYNC" "Level 2 not synchronized",
  .same 46 "EL3HLT" "Level 3 halted",
  .same 47 "EL3RST" "Level 3 reset",
  .same 48 "ELNRNG" "Link number out of range",
  .same 49 "EUNATCH" "Protocol driver not attached",
  .same 50 "ENOCSI" "No CSI structure available",
  .same 51 "EL2HLT" "Level 2 halted",
  .same 52 "EBADE" "Invalid exchange",
  .same 53 "EBADR" "Invalid request descriptor",
  .same 54 "EXFULL" "Exchange full",
  .same 55 "ENOANO" "No anode",
  .same 56 "EBADRQC" "Invalid request code",
  .same 57 "EBADSLT" "Invalid slot",
  .same 59 "EBFONT" "Bad font file format",
  .same 60 "ENOSTR" "Device not a stream",
  .same 61 "ENODATA" "No data available",
  .same 62 "ETIME" "Timer expired",
  .same 63 "ENOSR" "Out of streams resources",
  .same 64 "ENONET" "Machine is not on the network",
  .same 65 "ENOPKG" "Package not installed",
  .same 66 "EREMOTE" "Object is remote",
  .same 67 "ENOLINK" "Link has been severed",
  .same 68 "EADV" "Advertise error",
  .same 69 "ESRMNT" "Srmount error",
  .same 70 "ECOMM" "Communication error on send",
  .same 71 "EPROTO" "Protocol error",
  .same 72 "EMULTIHOP" "Multihop attempted",
  .same 73 "EDOTDOT" "RFS specific error",
  ⟨74, "EBADMSG", "Bad message", "Not a data message"⟩,
  .same 75 "EOVERFLOW" "Value too large for defined data type",
  .same 76 "ENOTUNIQ" "Name not unique on network",
  .same 77 "EBADFD" "File descriptor in bad state",
  .same 78 "EREMCHG" "Remote address changed",
  .same 79 "ELIBACC" "Can not access a needed shared library",
  .same 80 "ELIBBAD" "Accessing a corrupted shared library",
  .same 81 "ELIBSCN" ".lib section in a.out corrupted",
  .same 82 "ELIBMAX" "Attempting to link in too many shared libraries",
  .same 83 "ELIBEXEC" "Cannot exec a shared library directly",
  ⟨84, "EILSEQ", "Invalid or incomplete multibyte or wide character", "Illegal byte sequence"⟩,
  .same 85 "ERESTART" "Interrupted system call should be restarted",
  .same 86 "ESTRPIPE" "Streams pipe error",
  .same 87 "EUSERS" "Too many users",
  .same 88 "ENOTSOCK" "Socket operation on non-socket",
  .same 89 "EDESTADDRREQ" "Destination address required",
  .same 90 "EMSGSIZE" "Message too long",
  .same 91 "EPROTOTYPE" "Protocol wrong type for socket",
  .same 92 "ENOPROTOOPT" "Protocol not available",
  .same 93 "EPROTONOSUPPORT" "Protocol not supported",
  .same 94 "ESOCKTNOSUPPORT" "Socket type not supported",
  ⟨95, "EOPNOTSUPP", "Operation not supported", "Operation not supported on transport endpoint"⟩,
  .same 96 "EPFNOSUPPORT" "Protocol family not supported",
  .same 97 "EAFNOSUPPORT" "Address family not supported by protocol",
  .same 98 "EADDRINUSE" "Address already in use",
  .same 99 "EADDRNOTAVAIL" "Cannot assign requested address",
  .same 100 "ENETDOWN" "Network is down",
  .same 101 "ENETUNREACH" "Network is unreachable",
  ⟨102, "ENETRESET", "Network dropped connection on reset",
    "Network dropped connection because of reset"⟩,
  .same 103 "ECONNABORTED" "Software caused connection abort",
  .same 104 "ECONNRESET" "Connection reset by peer",
  .same 105 "ENOBUFS" "No buffer space available",
  .same 106 "EISCONN" "Transport endpoint is already connected",
  .same 107 "ENOTCONN" "Transport endpoint is not connected",
  .same 108 "ESHUTDOWN" "Cannot send after transport endpoint shutdown",
  .same 109 "ETOOMANYREFS" "Too many references: cannot splice",
  .same 110 "ETIMEDOUT" "Connection timed out",
  .same 111 "ECONNREFUSED" "Connection refused",
  .same 112 "EHOSTDOWN" "Host is down",
  .same 113 "EHOSTUNREACH" "No route to host",
  .same 114 "EALREADY" "Operation already in progress",
  .same 115 "EINPROGRESS" "Operation now in progress",
  .same 116 "ESTALE" "Stale file handle",
  .same 117 "EUCLEAN" "Structure needs cleaning",
  .same 118 "ENOTNAM" "Not a XENIX named type file",
  .same 119 "ENAVAIL" "No XENIX semaphores available",
  .same 120 "EISNAM" "Is a named type file",
  .same 121 "EREMOTEIO" "Remote I/O error",
  ⟨122, "EDQUOT", "Disk quota exceeded", "Quota exceeded"⟩,
  .same 123 "ENOMEDIUM" "No medium found",
  .same 124 "EMEDIUMTYPE" "Wrong medium type",
  .same 125 "ECANCELED" "Operation canceled",
  .same 126 "ENOKEY" "Required key not available",
  .same 127 "EKEYEXPIRED" "Key has expired",
  .same 128 "EKEYREVOKED" "Key has been revoked",
  .same 129 "EKEYREJECTED" "Key was rejected by service",
  .same 130 "EOWNERDEAD" "Owner died",
  .same 131 "ENOTRECOVERABLE" "State not recoverable",
  .same 132 "ERFKILL" "Operation not possible due to RF-kill",
  .same 133 "EHWPOISON" "Memory page has hardware error"]

def entry? (errno : Errno) : Option Entry :=
  catalog.find? fun entry => entry.code == errno.code

/-- The message of the C library; zero, which is no error, has one too. -/
def message (errno : Errno) : String :=
  match errno.entry? with
  | some entry => entry.message
  | none => if errno.code = 0 then "Success" else s!"Unknown error {errno.code}"

/-- Name and label, as a verdict shows the error. -/
def label (errno : Errno) : String :=
  match errno.entry? with
  | some entry => s!"{entry.name}: {entry.label}"
  | none => "UnknownErrno: Unknown errno"

/-! ## The numbers that decide something -/

def eperm : Errno := ⟨1⟩
def enoent : Errno := ⟨2⟩
def eintr : Errno := ⟨4⟩
def ebadf : Errno := ⟨9⟩
def enotdir : Errno := ⟨20⟩
def einval : Errno := ⟨22⟩
def emfile : Errno := ⟨24⟩
def enospc : Errno := ⟨28⟩
def enosys : Errno := ⟨38⟩
def eopnotsupp : Errno := ⟨95⟩

end Errno

end CopyUp
