import CopyUp.Scenario.Catalog

/-!
# Running a scenario

A scenario resolves its fixture and then does its steps one after another, until the first that
interrupts it.
-/

namespace CopyUp.Scenario

open Attempt (must strictly)

/-- What the steps of one scenario share. -/
structure Scene where
  base : Path
  privileges : Privileges
  trigger : Trigger
  snapshot : Snapshot
  owner : Owner

/-- What a changing call means for a scenario: it goes on, is skipped, or fails. -/
def judge {σ : Type} (privileges : Privileges) (trigger : Trigger) (operation : String)
    (result : Except IoError Unit) : Attempt σ Interrupt Unit := do
  let scenario := trigger.scenarioName
  match Effect.ofResult trigger.toleratesDenial result with
  | .applied => Attempt.log .debug s!"{scenario}: {operation} applied"
  | .unsupported errno =>
    Attempt.log .warn s!"{scenario}: {operation} unsupported ({errno.label})"
    throw (.skip (.unsupported operation errno))
  | .denied errno =>
    Attempt.log .warn s!"{scenario}: {operation} denied ({errno.label})"
    throw (.skip (.denied operation errno privileges))
  | .failed source => throw (.fail (.call operation source))

namespace Scene

def path (scene : Scene) (role : Role) : Path :=
  scene.base.join (role.fileName scene.trigger)

variable {σ : Type} [Kernel σ]

/-- Makes a change and judges how it went. -/
def judge (scene : Scene) (operation : String) (change : Attempt σ IoError Unit) :
    Attempt σ Interrupt Unit := do
  Scenario.judge scene.privileges scene.trigger operation (← Attempt.settle change)

def check (scene : Scene) (check : Check) (file : Role) (after : String) :
    Attempt σ Failure Unit :=
  match check with
  | .stable => scene.snapshot.stable (scene.path file) after
  | .stableLink => scene.snapshot.stableLink (scene.path file) after
  | .stableAll => scene.snapshot.stableAll (scene.path file) after
  | .absent => Snapshot.absent (scene.path file) after
  | .linkCount minimum => Snapshot.linkCount (scene.path file) minimum after

def performOpen (scene : Scene) (fd : Descriptor) : OpenStep → Attempt σ Interrupt Unit
  | .change change => scene.judge change.operation (change.apply scene.owner fd)
  | .stable after => must (scene.snapshot.stableOpen fd after)

def perform (scene : Scene) : Step → Attempt σ Interrupt Unit
  | .removeStale file => must (strictly "unlink" (FileSystem.removeStale (scene.path file)))
  | .change change file =>
    scene.judge change.operation (issueChange (change.call scene.path scene.owner file))
  | .check check file after => must (scene.check check file after)
  | .opened access steps =>
    let acquire := FileSystem.issue .acquire (.openFile (scene.path .fixture) access.flags)
    FileSystem.withFile (must (strictly access.operation acquire)) fun fd =>
      steps.forM (scene.performOpen fd)
  | .cleanUp file =>
    must (strictly "unlink" (discard (FileSystem.issue .cleanUp (.unlink (scene.path file)))))

end Scene

variable {σ : Type} [Kernel σ]

/-- The present owner of a fixture. -/
def readOwner (path : Path) : Attempt σ Failure Owner := do
  let some metadata ← strictly "stat" (FileSystem.lookup .owner path)
    | throw (.vanished "stat" path)
  pure ⟨metadata.uid, metadata.gid⟩

/-- What a trigger knows about the owner; only the one that sets it has to ask. -/
def ownerFor (trigger : Trigger) (path : Path) : Attempt σ Interrupt Owner :=
  if readsOwner trigger then must (readOwner path) else pure ⟨0, 0⟩

/-- Exercises a trigger on its fixture in a directory. -/
def exercise (trigger : Trigger) (base : Path) (privileges : Privileges) :
    Attempt σ Interrupt Unit := do
  let snapshot ← Fixture.resolve base trigger
  let owner ← ownerFor trigger (base.join trigger.fixture)
  let scene : Scene := ⟨base, privileges, trigger, snapshot, owner⟩
  (steps trigger).forM scene.perform

end CopyUp.Scenario
