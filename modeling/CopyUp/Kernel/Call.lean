import CopyUp.Bytes
import CopyUp.Kernel.Errno
import CopyUp.Kernel.Metadata
import CopyUp.Kernel.Path

/-!
# Calls and their replies

Everything the checker does to a file system is one of these calls. The type of a successful reply
is fixed by the call, so an answered call cannot carry a reply of the wrong shape.
-/

namespace CopyUp

/-- The number of an open file. -/
abbrev Descriptor := Int

inductive AccessMode
  | readOnly
  | writeOnly
  | readWrite
  deriving DecidableEq, Repr

/-- How a file is opened. A file that may be created carries the permission bits it then gets. -/
structure OpenFlags where
  access : AccessMode
  append : Bool := false
  create : Option UInt32 := none
  truncate : Bool := false
  directory : Bool := false
  noFollow : Bool := false
  pathOnly : Bool := false
  deriving DecidableEq, Repr

/-- A point in time: whole seconds and a fraction in the unit of the call that sets it. -/
structure Timestamp where
  seconds : Int64
  fraction : UInt32 := 0
  deriving DecidableEq, Repr

inductive Call
  | stat (path : Path)
  | lstat (path : Path)
  | fstat (fd : Descriptor)
  | openFile (path : Path) (flags : OpenFlags)
  | close (fd : Descriptor)
  | write (fd : Descriptor) (bytes : Bytes)
  | pwrite (fd : Descriptor) (bytes : Bytes) (offset : Nat)
  | truncate (path : Path) (length : Int64)
  | ftruncate (fd : Descriptor) (length : Int64)
  | chmod (path : Path) (mode : UInt32)
  | fchmod (fd : Descriptor) (mode : UInt32)
  | chown (path : Path) (uid gid : UInt32)
  | lchown (path : Path) (uid gid : UInt32)
  | fchown (fd : Descriptor) (uid gid : UInt32)
  | rename (old new : Path)
  | link (existing new : Path)
  | unlink (path : Path)
  | utimes (path : Path) (access modification : Timestamp)
  | utimensat (path : Path) (access modification : Timestamp)
  | futimens (fd : Descriptor) (access modification : Timestamp)
  | setxattr (path : Path) (name : String) (value : Bytes)
  | lsetxattr (path : Path) (name : String) (value : Bytes)
  | fsetxattr (fd : Descriptor) (name : String) (value : Bytes)
  | removexattr (path : Path) (name : String)
  | lremovexattr (path : Path) (name : String)
  | fremovexattr (fd : Descriptor) (name : String)
  | fallocate (fd : Descriptor) (mode : Int32) (offset length : Int64)
  | dup (fd floor : Descriptor)
  | getdents64 (fd : Descriptor) (capacity : Nat)
  | realpath (path : Path)
  deriving DecidableEq, Repr

namespace Call

/-- What the kernel hands over when it grants the call. -/
abbrev Reply : Call → Type
  | stat .. | lstat .. | fstat .. => Metadata
  | openFile .. | dup .. => Descriptor
  | write .. | pwrite .. => Nat
  | getdents64 .. => Bytes
  | realpath .. => Path
  | _ => Unit

def name : Call → String
  | stat .. => "stat"
  | lstat .. => "lstat"
  | fstat .. => "fstat"
  | openFile .. => "open"
  | close .. => "close"
  | write .. => "write"
  | pwrite .. => "pwrite"
  | truncate .. => "truncate"
  | ftruncate .. => "ftruncate"
  | chmod .. => "chmod"
  | fchmod .. => "fchmod"
  | chown .. => "chown"
  | lchown .. => "lchown"
  | fchown .. => "fchown"
  | rename .. => "rename"
  | link .. => "link"
  | unlink .. => "unlink"
  | utimes .. => "utimes"
  | utimensat .. => "utimensat"
  | futimens .. => "futimens"
  | setxattr .. => "setxattr"
  | lsetxattr .. => "lsetxattr"
  | fsetxattr .. => "fsetxattr"
  | removexattr .. => "removexattr"
  | lremovexattr .. => "lremovexattr"
  | fremovexattr .. => "fremovexattr"
  | fallocate .. => "fallocate"
  | dup .. => "dup"
  | getdents64 .. => "getdents64"
  | realpath .. => "realpath"

/-- The paths that the call hands to the kernel, in order. -/
def paths : Call → List Path
  | stat path | lstat path | openFile path _ | truncate path _ | chmod path _ | chown path ..
  | lchown path .. | unlink path | utimes path .. | utimensat path .. | setxattr path ..
  | lsetxattr path .. | removexattr path _ | lremovexattr path _ | realpath path => [path]
  | rename old new | link old new => [old, new]
  | _ => []

/-- The open file that the call works through. -/
def descriptor? : Call → Option Descriptor
  | fstat fd | close fd | write fd _ | pwrite fd .. | ftruncate fd _ | fchmod fd _ | fchown fd ..
  | futimens fd .. | fsetxattr fd .. | fremovexattr fd _ | fallocate fd .. | dup fd _
  | getdents64 fd _ => some fd
  | _ => none

/-- Lengths and offsets are unsigned for a caller and signed for the kernel; the bits stay. -/
def truncateTo (path : Path) (length : UInt64) : Call := truncate path length.toInt64

def ftruncateTo (fd : Descriptor) (length : UInt64) : Call := ftruncate fd length.toInt64

def reserve (fd : Descriptor) (mode : Int32) (offset length : UInt64) : Call :=
  fallocate fd mode offset.toInt64 length.toInt64

/-- Calls that are made again at once when a signal interrupts them. All others report the
interruption as an error. -/
def restarts : Call → Bool
  | openFile .. | write .. | pwrite .. | chmod .. | fchmod .. | ftruncate .. => true
  | _ => false

/-- Calls that convert their own path to the kernel's form and word the refusal of a NUL
differently from the rest. -/
def convertsPath : Call → Bool
  | truncate .. | utimes .. | utimensat .. | setxattr .. | lsetxattr .. | removexattr ..
  | lremovexattr .. => true
  | _ => false

end Call

/-- A call together with what the kernel answered. -/
structure Exchange where
  call : Call
  reply : Except Errno call.Reply

/-- The error number that the call was answered with. -/
def Exchange.errno? (exchange : Exchange) : Option Errno :=
  match exchange.reply with
  | .ok _ => none
  | .error errno => some errno

end CopyUp
