import CopyUp.Plan
import CopyUp.Snapshot

/-!
# Fixtures

The files that a lower layer must hold before it is mounted: one for each trigger and one for the
directory listing. Seeding writes them, whatever was there before; resolving finds the one that a
trigger works on and takes its snapshot.
-/

namespace CopyUp.Fixture

open Attempt (must strictly)

def payloadText : String := "copy-up fixture payload\n"

def payload : Bytes := .ofText payloadText

def mode : UInt32 := 0o644

/-- What the fixture of the rename trigger is renamed to. -/
def renameTarget : String := "copyup_rename_test_renamed.txt"

/-- The names that the link trigger gives to its fixture. -/
def hardlink : String := "copyup_link_test_hardlink.txt"

def secondHardlink : String := "copyup_link_test_hardlink2.txt"

/-- The names to seed, in order. -/
def names : List String := Trigger.all.map Trigger.fixture ++ [defaultEntry]

/-- The names that an earlier run may have left behind. -/
def leftovers : List String := [renameTarget, hardlink, secondHardlink]

def seedFlags : OpenFlags := { access := .writeOnly, create := some mode, truncate := true }

variable {σ : Type} [Kernel σ]

/-- Writes one fixture and fixes its permission bits, which creation alone would not. -/
def seedFile (path : Path) : Attempt σ IoError Unit :=
  FileSystem.withFile (FileSystem.issue .acquire (.openFile path seedFlags)) fun fd => do
    FileSystem.writeAll .seeding fd .next payload
    FileSystem.issue .seeding (.fchmod fd mode)
    Attempt.log .debug s!"seeded {path}"

/-- Writes every fixture into a directory, removes leftovers, and tells what was written. -/
def seed (directory : Path) : Attempt σ IoError (List Path) := do
  let written := names.map directory.join
  written.forM seedFile
  leftovers.forM fun name => FileSystem.removeStale (directory.join name)
  Attempt.log .info s!"seeded {written.length} fixtures in {directory}"
  pure written

/-- The snapshot of a trigger's fixture, confirmed by a second look. -/
def resolve (base : Path) (trigger : Trigger) : Attempt σ Interrupt Snapshot := do
  let path := base.join trigger.fixture
  let found ← must (strictly "stat" (FileSystem.lookup .snapshot path))
  let some metadata := found | do
    Attempt.log .info s!"{trigger.scenarioName}: {trigger.fixture} not in base layer"
    throw (.skip (.fixtureMissing trigger.fixture))
  let snapshot : Snapshot := ⟨metadata.identity⟩
  must (snapshot.stable path "repeated stat")
  Attempt.log .debug s!"{trigger.scenarioName}: {path} is {metadata.identity.text}"
  pure snapshot

end CopyUp.Fixture
