import CopyUp.Scenario.Step

/-!
# The scenarios of the catalog

What each trigger does to its fixture. Every change is followed by a look at the identity before
the next change is made: through the open file where the change went through one, and by path after
all changes but the setting of an attribute through an open file.
-/

namespace CopyUp.Scenario

open Step OpenStep

def writeSteps : List Step := [
  opened .append [change (.write " appended data"), stable "write"],
  check .stable .fixture "write",
  opened .read [stable "write"],
  opened .write [change (.pwrite "COPY" 0), stable "pwrite"],
  check .stable .fixture "pwrite"]

def truncateSteps : List Step := [
  change (.truncate 10) .fixture,
  check .stableAll .fixture "truncate",
  opened .write [change (.ftruncate 5), stable "ftruncate"],
  check .stable .fixture "ftruncate"]

def chmodSteps : List Step := [
  change (.chmod 0o755) .fixture,
  check .stableAll .fixture "chmod",
  opened .read [change (.fchmod 0o700), stable "fchmod"],
  check .stable .fixture "fchmod"]

def chownSteps : List Step := [
  change .chown .fixture,
  check .stable .fixture "chown",
  change .lchown .fixture,
  check .stable .fixture "lchown",
  check .stableLink .fixture "lchown",
  opened .read [change .fchown, stable "fchown"],
  check .stable .fixture "fchown"]

def renameSteps : List Step := [
  removeStale .renamed,
  change (.rename .renamed) .fixture,
  check .stable .renamed "rename",
  check .stableLink .renamed "rename",
  check .absent .fixture "rename",
  cleanUp .renamed]

def linkSteps : List Step := [
  removeStale .hardlink,
  removeStale .secondHardlink,
  change (.link .hardlink) .fixture,
  check .stable .fixture "link (original)",
  check .stable .hardlink "link (new link)",
  check (.linkCount 2) .fixture "link",
  change (.link .secondHardlink) .fixture,
  check .stable .secondHardlink "link (second link)",
  check .stable .fixture "link (after second link)",
  check (.linkCount 2) .fixture "second link",
  check .stableLink .fixture "link (lstat original)",
  check .stableLink .hardlink "link (lstat new link)",
  change .unlink .hardlink,
  check .absent .hardlink "unlink",
  check .stable .fixture "unlink (original)",
  check .stable .secondHardlink "unlink (remaining link)",
  check (.linkCount 2) .fixture "unlink",
  cleanUp .secondHardlink]

/-- The first of the points in time that the timestamp scenario sets, a second apart. -/
def firstTime : Int64 := 1000000000

def utimesSteps : List Step := [
  change (.utimes firstTime) .fixture,
  check .stableAll .fixture "utimes",
  change (.utimensat (firstTime + 1)) .fixture,
  check .stableAll .fixture "utimensat",
  opened .readWrite [change (.futimens (firstTime + 2)), stable "futimens"],
  check .stable .fixture "futimens"]

def attributeValue : String := "test_value"

def xattrSteps : List Step := [
  change (.setxattr "user.test_attr" attributeValue) .fixture,
  check .stableAll .fixture "setxattr",
  change (.lsetxattr "user.test_attr2" attributeValue) .fixture,
  check .stableAll .fixture "lsetxattr",
  opened .read [change (.fsetxattr "user.test_attr3" attributeValue), stable "fsetxattr"],
  change (.removexattr "user.test_attr") .fixture,
  check .stableAll .fixture "removexattr",
  change (.lremovexattr "user.test_attr2") .fixture,
  check .stableAll .fixture "lremovexattr",
  opened .read [change (.fremovexattr "user.test_attr3"), stable "fremovexattr"],
  check .stable .fixture "fremovexattr"]

def fallocateSteps : List Step := [
  opened .readWrite [change (.fallocate 0 1024), stable "fallocate"],
  check .stable .fixture "fallocate"]

/-- The steps of a trigger's scenario, after the fixture is resolved. -/
def steps : Trigger → List Step
  | .contentWrite => writeSteps
  | .sizeChange => truncateSteps
  | .permissionChange => chmodSteps
  | .ownershipChange => chownSteps
  | .rename => renameSteps
  | .linkCreation => linkSteps
  | .timestampChange => utimesSteps
  | .attributeSet => xattrSteps
  | .spacePreallocate => fallocateSteps

/-- Only a change of ownership has to know the owner first, to set what is already there. -/
def readsOwner (trigger : Trigger) : Bool := trigger = .ownershipChange

end CopyUp.Scenario
