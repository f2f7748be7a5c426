import CopyUp.FileSystem
import CopyUp.Host
import CopyUp.Plan

/-!
# Sites

A site is a plan on a host: its directories in canonical form, the privileges of the process and
its limit on open files.
-/

namespace CopyUp

structure Site where
  plan : Plan
  privileges : Privileges
  /-- The soft limit on open files. -/
  descriptorLimit : Except Errno UInt64

namespace Site

def base (site : Site) : Path := site.plan.base

/-- The path of a name in the directory under test. -/
def path (site : Site) (name : String) : Path := site.base.join name

variable {σ : Type} [Kernel σ]

def canonical (directory : Path) : Attempt σ IoError Path :=
  FileSystem.issue .canonicalForm (.realpath directory)

def canonical? : Option Path → Attempt σ IoError (Option Path)
  | none => pure none
  | some directory => some <$> canonical directory

/-- Puts the directories into canonical form, the base first, and looks at the privileges. -/
def prepare (host : Host) (plan : Plan) : Attempt σ IoError Site := do
  let base ← canonical plan.base
  let directory ← canonical? plan.directory
  let privileges := Privileges.ofHost host
  Attempt.log .debug s!"environment: {privileges.text}"
  pure ⟨{ plan with base, directory }, privileges, host.descriptorLimit⟩

end Site

end CopyUp
