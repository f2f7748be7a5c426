import CopyUp.Kernel.Errno

/-!
# Facts about the host

What the checker asks the host about itself. None of it goes through the file system; a fact that
cannot be learned is kept as the error number that the host gave.
-/

namespace CopyUp

structure Host where
  euid : UInt32 := 0
  capChown : Except Errno Bool := .ok true
  capFowner : Except Errno Bool := .ok true
  /-- The soft limit on open files. -/
  descriptorLimit : Except Errno UInt64 := .ok 1024

/-- The privileges that decide whether an ownership or attribute change may be refused. -/
structure Privileges where
  euid : UInt32
  capChown : Bool
  capFowner : Bool
  deriving DecidableEq, Repr

namespace Privileges

/-- A capability that cannot be looked up counts as absent. -/
def ofHost (host : Host) : Privileges where
  euid := host.euid
  capChown := host.capChown.toOption.getD false
  capFowner := host.capFowner.toOption.getD false

def presence (held : Bool) : String := if held then "present" else "absent"

def text (privileges : Privileges) : String :=
  let chown := presence privileges.capChown
  let fowner := presence privileges.capFowner
  s!"euid {privileges.euid}, CAP_CHOWN {chown}, CAP_FOWNER {fowner}"

end Privileges

end CopyUp
