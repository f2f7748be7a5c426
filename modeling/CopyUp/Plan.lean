import CopyUp.Kernel.Path
import CopyUp.Trigger

/-!
# Plans

A plan says which checks to run and where.
-/

namespace CopyUp

/-- The regular file that a listing is expected to show, unless a plan names another. -/
def defaultEntry : String := "test.txt"

structure Plan where
  /-- The directory under test, inside the layered file system. -/
  base : Path
  /-- The triggers to run; none means all of them. Order and repetition do not matter. -/
  only : List Trigger := []
  /-- Whether the directory listing is checked after the triggers. -/
  enumeration : Bool := true
  /-- The directory to list, if it is not the base. -/
  directory : Option Path := none
  entry : String := defaultEntry
  deriving DecidableEq, Repr

namespace Plan

/-- The triggers of the plan, in the order of the catalog. -/
def selected (plan : Plan) : List Trigger :=
  Trigger.all.filter fun trigger => plan.only = [] ∨ trigger ∈ plan.only

/-- The directory that the listing check reads. -/
def target (plan : Plan) : Path := plan.directory.getD plan.base

end Plan

end CopyUp
