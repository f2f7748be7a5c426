/-!
# Paths

A path is its text. It is shown as it is and nothing in it is normalised; joining looks only at
slashes at the seam.
-/

namespace CopyUp

abbrev Path := String

namespace Path

def IsAbsolute (path : Path) : Prop := path.toList.head? = some '/'

instance (path : Path) : Decidable path.IsAbsolute := inferInstanceAs (Decidable (_ = _))

/-- The text between a directory and a name below it: a slash, unless the directory is empty or
already ends in one. -/
def separator (base : Path) : String :=
  if base.toList.getLast? = none ∨ base.toList.getLast? = some '/' then "" else "/"

/-- The path of a name seen from a directory; an absolute name stands for itself. -/
def join (base : Path) (name : String) : Path :=
  if IsAbsolute name then name else base ++ separator base ++ name

/-- A path that holds a NUL cannot be handed to the kernel. -/
def HasNul (path : Path) : Prop := '\x00' ∈ path.toList

instance (path : Path) : Decidable path.HasNul := inferInstanceAs (Decidable (_ ∈ _))

end Path

end CopyUp
