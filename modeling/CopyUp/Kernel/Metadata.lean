/-!
# Identity and attributes of files

The identity of a file is its inode number. Two names, or a name and an open descriptor, stand for
the same file as long as they report the same identity.
-/

namespace CopyUp

structure Identity where
  inode : UInt64
  deriving DecidableEq, Repr

namespace Identity

def text (identity : Identity) : String := s!"ino {identity.inode.toNat}"

/-- Identities are ordered as numbers. -/
def le (a b : Identity) : Bool := a.inode ≤ b.inode

end Identity

/-- What the kernel reports about a file. -/
structure Metadata where
  identity : Identity
  linkCount : UInt64
  mode : UInt32
  uid : UInt32
  gid : UInt32
  size : UInt64
  deriving DecidableEq, Repr

end CopyUp
