import CopyUp.FileSystem
import CopyUp.Verdict.Failure

/-!
# Directory listings

A directory is read buffer by buffer until an empty one comes. Each buffer holds whole records, so
where the kernel cuts the stream does not matter.
-/

namespace CopyUp.Directory

/-- How many bytes the kernel may fill at a time. -/
def bufferLength : Nat := 4096

variable {σ : Type} [Kernel σ]

/-- Fills one buffer. -/
def fill (purpose : Purpose) (fd : Descriptor) : Attempt σ IoError Bytes :=
  FileSystem.issue purpose (.getdents64 fd bufferLength)

theorem exec_fill (purpose : Purpose) (fd : Descriptor) (kernel : σ) :
    (fill purpose fd).exec kernel =
      let answered := Kernel.answer (.getdents64 fd bufferLength) kernel
      ⟨answered.1.mapError .os, answered.2,
        [.exchange purpose ⟨.getdents64 fd bufferLength, answered.1⟩]⟩ := by
  rw [fill, FileSystem.exec_issue purpose (by simp [Call.paths]),
    Session.perform_of_not_restarts purpose (by simp [Call.restarts])]
  rfl

/-- The entries of the next buffer, or none if it is empty. -/
def nextEntries (fd : Descriptor) : Attempt σ ListingError (Option (List Entry)) := do
  let buffer ← Attempt.explain .call (fill .listing fd)
  if buffer = [] then return none
  Attempt.log .debug s!"getdents64 filled {buffer.length} bytes"
  some <$> Attempt.explain .malformed (Attempt.conclude (entries buffer))

/-- Goes on behind what was found, unless the last buffer was empty. -/
def follow (found : Option (List Entry)) (rest : Attempt σ ListingError (List Entry)) :
    Attempt σ ListingError (List Entry) :=
  match found with
  | none => pure []
  | some entries => (entries ++ ·) <$> rest

/-- Reads until the first empty buffer, but at most `more` buffers after the next. -/
def listWithin (fd : Descriptor) : Nat → Attempt σ ListingError (List Entry)
  | 0 => do follow (← nextEntries fd) (pure [])
  | more + 1 => do follow (← nextEntries fd) (listWithin fd more)

/-- All entries of an open directory. The kernel's patience bounds the number of buffers. -/
def list (fd : Descriptor) : Attempt σ ListingError (List Entry) :=
  ExceptT.mk fun kernel => (listWithin fd (Kernel.patience kernel)).run.run kernel

/-! ## Listing has no bound of its own -/

/-- Only a filled buffer leads on to another one, and it costs the kernel some patience. -/
theorem patience_lt_of_nextEntries {fd : Descriptor} {kernel : σ} {found : List Entry}
    (filled : ((nextEntries fd).exec kernel).value = .ok (some found)) :
    Kernel.patience ((nextEntries fd).exec kernel).state < Kernel.patience kernel := by
  rw [nextEntries, Attempt.exec_bind, Attempt.exec_explain, exec_fill] at filled ⊢
  cases answered : (Kernel.answer (.getdents64 fd bufferLength) kernel).1 with
  | error errno => simp [answered] at filled
  | ok buffer =>
    simp only [answered, Attempt.mapError_ok] at filled ⊢
    by_cases empty : buffer = []
    · simp [empty] at filled
    · have less := Kernel.patience_lt_of_filled answered empty
      simp only [empty, ↓reduceIte]
      simpa [Attempt.exec_bind] using less

/-- The rest matters only where a filled buffer was read, and there only as far as it runs on the
kernel that is left. -/
theorem exec_nextEntries_follow {fd : Descriptor} {kernel : σ}
    {first second : Attempt σ ListingError (List Entry)}
    (same : ∀ after : σ, Kernel.patience after < Kernel.patience kernel →
      first.exec after = second.exec after) :
    (nextEntries fd >>= fun found => follow found first).exec kernel =
      (nextEntries fd >>= fun found => follow found second).exec kernel := by
  have less := @patience_lt_of_nextEntries σ _ fd kernel
  rw [Attempt.exec_bind, Attempt.exec_bind]
  rcases ran : (nextEntries fd).exec kernel with ⟨_ | _ | entries, after, trace⟩
  · rfl
  · simp [follow]
  · simp only [ran] at less
    simp [follow, same after (less rfl)]

theorem exec_listWithin_succ {fd : Descriptor} {more : Nat} {kernel : σ}
    (enough : Kernel.patience kernel ≤ more) :
    (listWithin fd (more + 1)).exec kernel = (listWithin fd more).exec kernel := by
  induction more generalizing kernel with
  | zero => exact exec_nextEntries_follow fun after less => absurd less (by omega)
  | succ more ih => exact exec_nextEntries_follow fun after less => ih (by omega)

theorem exec_listWithin {fd : Descriptor} {more : Nat} {kernel : σ}
    (enough : Kernel.patience kernel ≤ more) :
    (listWithin fd more).exec kernel = (list fd).exec kernel := by
  obtain ⟨extra, rfl⟩ := Nat.exists_eq_add_of_le enough
  induction extra with
  | zero => rfl
  | succ extra ih =>
    rw [← Nat.add_assoc, exec_listWithin_succ (Nat.le_add_right ..)]
    exact ih (Nat.le_add_right ..)

/-- To list is to read a buffer, and to list the rest unless it was empty. -/
theorem exec_list (fd : Descriptor) (kernel : σ) :
    (list fd).exec kernel =
      (nextEntries fd >>= fun found => follow found (list fd)).exec kernel := by
  rw [← exec_listWithin (Nat.le_succ _)]
  exact exec_nextEntries_follow fun after less => exec_listWithin (Nat.le_of_lt less)

end CopyUp.Directory
