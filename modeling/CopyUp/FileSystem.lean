import CopyUp.Kernel.IoError
import CopyUp.Session

/-!
# File operations

The operations that checks are written in: single calls, with paths that cannot be passed on
refused before anything happens, writes that go on until all bytes are taken, and the questions a
check asks about a name or an open file.
-/

namespace CopyUp.FileSystem

variable {σ : Type} [Kernel σ]

/-- The refusal of a path that holds a NUL. -/
def nulRefusal (call : Call) : IoError :=
  .custom .invalidInput <|
    if call.convertsPath then "data provided contains a nul byte"
    else "file name contained an unexpected NUL byte"

/-- Makes a call unless one of its paths holds a NUL. -/
def issue (purpose : Purpose) (call : Call) : Attempt σ IoError call.Reply :=
  if ∃ path ∈ call.paths, path.HasNul then throw (nulRefusal call)
  else Attempt.explain .os (ExceptT.mk (Session.perform purpose call))

theorem exec_issue_of_hasNul (purpose : Purpose) {call : Call} {path : Path}
    (member : path ∈ call.paths) (nul : path.HasNul) (kernel : σ) :
    (issue purpose call).exec kernel = ⟨.error (nulRefusal call), kernel, []⟩ := by
  rw [issue, if_pos ⟨path, member, nul⟩, Attempt.exec_throw]

theorem exec_issue (purpose : Purpose) {call : Call}
    (clean : ∀ path ∈ call.paths, ¬ path.HasNul) (kernel : σ) :
    (issue purpose call).exec kernel =
      ⟨((Session.perform purpose call).run kernel).value.mapError .os,
        ((Session.perform purpose call).run kernel).state,
        ((Session.perform purpose call).run kernel).record⟩ := by
  rw [issue, if_neg fun ⟨path, member, nul⟩ => clean path member nul, Attempt.exec_explain]
  rfl

/-! ## Open files -/

/-- Closes a file that is no longer needed, whatever the kernel says to it. -/
def release {ε : Type} (fd : Descriptor) : Attempt σ ε Unit := do
  let _ ← Attempt.settle (issue .release (.close fd))

/-- Works with a freshly opened file and releases it on every way out. -/
def withFile {ε α : Type} (acquire : Attempt σ ε Descriptor)
    (body : Descriptor → Attempt σ ε α) : Attempt σ ε α := do
  let fd ← acquire
  let result ← Attempt.settle (body fd)
  release fd
  Attempt.conclude result

theorem exec_release {ε : Type} (fd : Descriptor) (kernel : σ) :
    (release fd : Attempt σ ε Unit).exec kernel =
      let answered := Kernel.answer (.close fd) kernel
      ⟨.ok (), answered.2, [.exchange .release ⟨.close fd, answered.1⟩]⟩ := by
  rw [release, Attempt.exec_bind, Attempt.exec_settle,
    exec_issue .release (by simp [Call.paths]),
    Session.perform_of_not_restarts .release (by simp [Call.restarts])]
  rfl

/-- Where a write goes: on from the last one, or to an offset. -/
inductive Placement
  | next
  | at (offset : Nat)
  deriving DecidableEq, Repr

namespace Placement

/-- The place behind the bytes taken. -/
def advance (count : Nat) : Placement → Placement
  | next => next
  | .at offset => .at (offset + count)

end Placement

/-- Offers bytes once and tells how many were taken. -/
def offer (purpose : Purpose) (fd : Descriptor) (bytes : Bytes) :
    Placement → Attempt σ IoError Nat
  | .next => issue purpose (.write fd bytes)
  | .at offset => issue purpose (.pwrite fd bytes offset)

/-- Offers all that is left, at most `bound` times. -/
def writeWithin (purpose : Purpose) (fd : Descriptor) :
    Nat → Placement → Bytes → Attempt σ IoError Unit
  | _, _, [] => pure ()
  | 0, _, _ => pure ()
  | bound + 1, place, bytes => do
    let count ← offer purpose fd bytes place
    if count = 0 then throw .nothingWritten
    else writeWithin purpose fd bound (place.advance count) (bytes.drop count)

/-- Writes all bytes. Each offer takes at least one of them or is the last, so there are never more
offers than bytes. -/
def writeAll (purpose : Purpose) (fd : Descriptor) (place : Placement) (bytes : Bytes) :
    Attempt σ IoError Unit :=
  writeWithin purpose fd bytes.length place bytes

/-- Any bound from the number of bytes on gives the same attempt. -/
theorem writeWithin_of_le (purpose : Purpose) (fd : Descriptor) {first second : Nat}
    {place : Placement} {bytes : Bytes} (enough : bytes.length ≤ first)
    (alike : bytes.length ≤ second) :
    writeWithin (σ := σ) purpose fd first place bytes =
      writeWithin purpose fd second place bytes := by
  induction first generalizing second place bytes with
  | zero =>
    have empty : bytes = [] := List.length_eq_zero_iff.1 (Nat.le_zero.1 enough)
    cases second <;> simp [writeWithin, empty]
  | succ first ih =>
    cases bytes with
    | nil => cases second <;> simp [writeWithin]
    | cons byte rest =>
      obtain _ | second := second
      · simp at alike
      simp only [writeWithin]
      refine bind_congr fun count => ?_
      by_cases none : count = 0
      · simp [none]
      · simp only [none, ↓reduceIte]
        simp only [List.length_cons] at enough alike
        exact ih (by simp only [List.length_drop, List.length_cons]; omega)
          (by simp only [List.length_drop, List.length_cons]; omega)

/-- To write bytes is to offer them, and to write what was not taken behind what was. -/
theorem writeAll_cons (purpose : Purpose) (fd : Descriptor) (place : Placement) (byte : UInt8)
    (rest : Bytes) :
    writeAll (σ := σ) purpose fd place (byte :: rest) = (do
      let count ← offer purpose fd (byte :: rest) place
      if count = 0 then throw .nothingWritten
      else writeAll purpose fd (place.advance count) ((byte :: rest).drop count)) := by
  simp only [writeAll, List.length_cons, writeWithin]
  refine bind_congr fun count => ?_
  by_cases none : count = 0
  · simp [none]
  · simp only [none, ↓reduceIte]
    exact writeWithin_of_le purpose fd
      (by simp only [List.length_drop, List.length_cons]; omega) (Nat.le_refl _)

/-! ## Questions -/

/-- A name that does not exist is an answer, not an error. -/
def unlessMissing {α : Type} (attempt : Attempt σ IoError α) : Attempt σ IoError (Option α) := do
  match ← Attempt.settle attempt with
  | .ok value => pure (some value)
  | .error error => if error = .os .enoent then pure none else throw error

/-- The attributes of what a path leads to. -/
def lookup (purpose : Purpose) (path : Path) : Attempt σ IoError (Option Metadata) :=
  unlessMissing (issue purpose (.stat path))

/-- The attributes of the name itself, a symbolic link not followed. -/
def lookupLink (purpose : Purpose) (path : Path) : Attempt σ IoError (Option Metadata) :=
  unlessMissing (issue purpose (.lstat path))

/-- The attributes of an open file. -/
def inspect (purpose : Purpose) (fd : Descriptor) : Attempt σ IoError Metadata :=
  issue purpose (.fstat fd)

/-- Removes a name that may or may not be there. -/
def removeStale (path : Path) : Attempt σ IoError Unit := do
  let _ ← unlessMissing (issue .stale (.unlink path))

end CopyUp.FileSystem
