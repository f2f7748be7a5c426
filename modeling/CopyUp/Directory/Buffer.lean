import CopyUp.Directory.Listing

/-!
# Listing through one buffer

A directory is listed through one buffer that is filled again and again. A fill overwrites the
first bytes and leaves what an earlier one put behind them; only the bytes that were filled are
read.
-/

namespace CopyUp

/-- What follows matters only for the value and the kernel that it is run on. -/
theorem Attempt.exec_bind_congr {σ ε α β : Type} {attempt : Attempt σ ε α}
    {next other : α → Attempt σ ε β} {kernel : σ}
    (same : ∀ value, (attempt.exec kernel).value = .ok value →
      (next value).exec (attempt.exec kernel).state =
        (other value).exec (attempt.exec kernel).state) :
    (attempt >>= next).exec kernel = (attempt >>= other).exec kernel := by
  rw [exec_bind, exec_bind]
  cases ran : attempt.exec kernel with
  | mk result after trace =>
    rw [ran] at same
    cases result with
    | error => rfl
    | ok value => simp only [same value rfl]

namespace Directory

/-- The buffer with some bytes put at its start. -/
def overwrite (buffer filled : Bytes) : Bytes := filled ++ buffer.drop filled.length

variable {σ : Type} [Kernel σ]

/-- Fills the buffer and goes on with it and with what was found so far, unless nothing was
filled. -/
def readThrough (fd : Descriptor) (buffer : Bytes) (found : List Entry)
    (rest : Bytes → List Entry → Attempt σ ListingError (List Entry)) :
    Attempt σ ListingError (List Entry) := do
  let filled ← Attempt.explain .call (FileSystem.issue .listing (.getdents64 fd buffer.length))
  let count := filled.length
  let buffer := overwrite buffer filled
  if count = 0 then return found
  Attempt.log .debug s!"getdents64 filled {count} bytes"
  let next ← Attempt.explain .malformed (Attempt.conclude (entries (buffer.take count)))
  rest buffer (found ++ next)

def listThroughWithin (fd : Descriptor) :
    Nat → Bytes → List Entry → Attempt σ ListingError (List Entry)
  | 0, buffer, found => readThrough fd buffer found fun _ all => pure all
  | more + 1, buffer, found => readThrough fd buffer found (listThroughWithin fd more)

/-- Lists a directory through this buffer. The kernel's patience bounds the number of fills. -/
def listThrough (fd : Descriptor) (buffer : Bytes) : Attempt σ ListingError (List Entry) :=
  ExceptT.mk fun kernel =>
    (listThroughWithin fd (Kernel.patience kernel) buffer []).run.run kernel

/-! ## The buffer makes no difference -/

theorem length_overwrite {buffer filled : Bytes} (fits : filled.length ≤ buffer.length) :
    (overwrite buffer filled).length = buffer.length := by
  unfold overwrite
  rw [List.length_append, List.length_drop]
  omega

/-- Nothing of an earlier fill is read. -/
theorem take_overwrite (buffer filled : Bytes) :
    (overwrite buffer filled).take filled.length = filled :=
  List.take_left

theorem length_le_of_fill {fd : Descriptor} {kernel : σ} {filled : Bytes}
    (read : ((Attempt.explain ListingError.call (fill .listing fd)).exec kernel).value =
      .ok filled) : filled.length ≤ bufferLength := by
  rw [Attempt.exec_explain, exec_fill] at read
  exact Kernel.filled_le (Attempt.mapError_eq_ok_iff.1 (Attempt.mapError_eq_ok_iff.1 read))

/-- If what follows finds the same behind what was found, so does the whole. -/
theorem exec_readThrough {fd : Descriptor} {buffer : Bytes} (whole : buffer.length = bufferLength)
    {found : List Entry} {rest : Bytes → List Entry → Attempt σ ListingError (List Entry)}
    {later : Attempt σ ListingError (List Entry)}
    (same : ∀ (other : Bytes) all (after : σ), other.length = bufferLength →
      (rest other all).exec after = ((all ++ ·) <$> later).exec after) (kernel : σ) :
    (readThrough fd buffer found rest).exec kernel =
      ((found ++ ·) <$> (nextEntries fd >>= fun next => follow next later)).exec kernel := by
  unfold readThrough nextEntries fill
  rw [whole, map_eq_pure_bind, bind_assoc, bind_assoc]
  apply Attempt.exec_bind_congr
  intro filled read
  have fits := length_overwrite (whole ▸ length_le_of_fill read)
  by_cases empty : filled = []
  · rw [empty]
    show _ = (pure (found ++ []) : Attempt σ ListingError (List Entry)).exec _
    rw [List.append_nil]
    rfl
  · have some : filled.length ≠ 0 := mt List.length_eq_zero_iff.1 empty
    simp only [some, empty, if_false, take_overwrite, bind_assoc]
    apply Attempt.exec_bind_congr
    intro _ _
    cases entries filled with
    | error => rfl
    | ok next =>
      have folded : (do let others ← follow (.some next) later; pure (found ++ others)) =
          (found ++ next ++ ·) <$> later := by
        simp [follow]
      show (rest (overwrite buffer filled) (found ++ next)).exec _ =
        (do let others ← follow (.some next) later; pure (found ++ others)).exec _
      rw [folded]
      exact same _ _ _ (fits.trans whole)

theorem exec_listThroughWithin (fd : Descriptor) (more : Nat) {buffer : Bytes}
    (whole : buffer.length = bufferLength) (found : List Entry) (kernel : σ) :
    (listThroughWithin fd more buffer found).exec kernel =
      ((found ++ ·) <$> listWithin fd more).exec kernel := by
  induction more generalizing buffer found kernel with
  | zero => exact exec_readThrough whole (fun _ _ _ _ => by simp) kernel
  | succ more ih => exact exec_readThrough whole (fun _ all after fits => ih fits all after) kernel

/-- To list through a buffer is to list, whatever the buffer holds. -/
theorem exec_listThrough (fd : Descriptor) {buffer : Bytes}
    (whole : buffer.length = bufferLength) (kernel : σ) :
    (listThrough fd buffer).exec kernel = (list fd).exec kernel := by
  have same := exec_listThroughWithin fd (Kernel.patience kernel) whole [] kernel
  simp only [List.nil_append, id_map'] at same
  exact same

end Directory

end CopyUp
