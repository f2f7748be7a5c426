import CopyUp.Fixture

/-!
# Steps of a scenario

A scenario is a list of steps on a few files that go by their role. A changing step carries the
call that it makes, and a checking step the name of the change that it follows.
-/

namespace CopyUp.Scenario

/-- The files that a scenario may touch. -/
inductive Role
  | fixture
  | renamed
  | hardlink
  | secondHardlink
  deriving DecidableEq, Repr

def Role.fileName (trigger : Trigger) : Role → String
  | fixture => trigger.fixture
  | renamed => Fixture.renameTarget
  | hardlink => Fixture.hardlink
  | secondHardlink => Fixture.secondHardlink

/-- A change made through a name. -/
inductive PathChange
  | truncate (length : UInt64)
  | chmod (mode : UInt32)
  /-- To the owner that the file has already. -/
  | chown
  | lchown
  | rename (target : Role)
  | link (target : Role)
  | unlink
  | utimes (seconds : Int64)
  | utimensat (seconds : Int64)
  | setxattr (name value : String)
  | lsetxattr (name value : String)
  | removexattr (name : String)
  | lremovexattr (name : String)
  deriving DecidableEq, Repr

/-- A change made through an open file. -/
inductive OpenChange
  | write (text : String)
  | pwrite (text : String) (offset : Nat)
  | ftruncate (length : UInt64)
  | fchmod (mode : UInt32)
  | fchown
  | futimens (seconds : Int64)
  | fsetxattr (name value : String)
  | fremovexattr (name : String)
  | fallocate (offset length : UInt64)
  deriving DecidableEq, Repr

/-- What is asked about a file after a change. -/
inductive Check
  | stable
  | stableLink
  | stableAll
  | absent
  | linkCount (minimum : UInt64)
  deriving DecidableEq, Repr

/-- What is done with a file while it is open. -/
inductive OpenStep
  | change (change : OpenChange)
  | stable (after : String)
  deriving DecidableEq, Repr

/-- How a fixture is opened. -/
inductive Access
  | read
  | write
  | append
  | readWrite
  deriving DecidableEq, Repr

inductive Step
  /-- Removes what an earlier run may have left behind. -/
  | removeStale (file : Role)
  | change (change : PathChange) (file : Role)
  | check (check : Check) (file : Role) (after : String)
  /-- Opens the fixture, does the steps and releases it. -/
  | opened (access : Access) (steps : List OpenStep)
  /-- Removes a file of this run. -/
  | cleanUp (file : Role)
  deriving DecidableEq, Repr

namespace Access

def flags : Access → OpenFlags
  | read => { access := .readOnly }
  | write => { access := .writeOnly }
  | append => { access := .writeOnly, append := true }
  | readWrite => { access := .readWrite }

/-- How a failure to open names the call. -/
def operation : Access → String
  | read => "open(O_RDONLY)"
  | write => "open(O_WRONLY)"
  | append => "open(O_WRONLY|O_APPEND)"
  | readWrite => "open(O_RDWR)"

end Access

/-! ## The calls behind the changes -/

/-- The user and the group that own a file. -/
structure Owner where
  uid : UInt32
  gid : UInt32
  deriving DecidableEq, Repr

/-- A whole number of seconds. -/
def wholeSeconds (seconds : Int64) : Timestamp := { seconds }

/-- The call of a change, given the paths of the roles and the present owner. -/
def PathChange.call (path : Role → Path) (owner : Owner) (file : Role) : PathChange → Call
  | truncate length => .truncateTo (path file) length
  | chmod mode => .chmod (path file) mode
  | chown => .chown (path file) owner.uid owner.gid
  | lchown => .lchown (path file) owner.uid owner.gid
  | rename target => .rename (path file) (path target)
  | link target => .link (path file) (path target)
  | unlink => .unlink (path file)
  | utimes seconds => .utimes (path file) (wholeSeconds seconds) (wholeSeconds seconds)
  | utimensat seconds => .utimensat (path file) (wholeSeconds seconds) (wholeSeconds seconds)
  | setxattr name value => .setxattr (path file) name (.ofText value)
  | lsetxattr name value => .lsetxattr (path file) name (.ofText value)
  | removexattr name => .removexattr (path file) name
  | lremovexattr name => .lremovexattr (path file) name

def PathChange.operation : PathChange → String
  | truncate .. => "truncate"
  | chmod .. => "chmod"
  | chown => "chown"
  | lchown => "lchown"
  | rename .. => "rename"
  | link .. => "link"
  | unlink => "unlink"
  | utimes .. => "utimes"
  | utimensat .. => "utimensat"
  | setxattr .. => "setxattr"
  | lsetxattr .. => "lsetxattr"
  | removexattr .. => "removexattr"
  | lremovexattr .. => "lremovexattr"

variable {σ : Type} [Kernel σ]

/-- Makes a call that reports nothing but success. -/
def issueChange (call : Call) : Attempt σ IoError Unit :=
  discard (FileSystem.issue .change call)

/-- Makes the change through an open file. Writing may take several calls. -/
def OpenChange.apply (owner : Owner) (fd : Descriptor) : OpenChange → Attempt σ IoError Unit
  | write text => FileSystem.writeAll .change fd .next (.ofText text)
  | pwrite text offset => FileSystem.writeAll .change fd (.at offset) (.ofText text)
  | ftruncate length => issueChange (.ftruncateTo fd length)
  | fchmod mode => issueChange (.fchmod fd mode)
  | fchown => issueChange (.fchown fd owner.uid owner.gid)
  | futimens seconds => issueChange (.futimens fd (wholeSeconds seconds) (wholeSeconds seconds))
  | fsetxattr name value => issueChange (.fsetxattr fd name (.ofText value))
  | fremovexattr name => issueChange (.fremovexattr fd name)
  | fallocate offset length => issueChange (.reserve fd 0 offset length)

def OpenChange.operation : OpenChange → String
  | write .. => "write"
  | pwrite .. => "pwrite"
  | ftruncate .. => "ftruncate"
  | fchmod .. => "fchmod"
  | fchown => "fchown"
  | futimens .. => "futimens"
  | fsetxattr .. => "fsetxattr"
  | fremovexattr .. => "fremovexattr"
  | fallocate .. => "fallocate"

end CopyUp.Scenario
