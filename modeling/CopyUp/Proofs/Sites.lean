import CopyUp.Proofs.Operations
import CopyUp.Site

/-!
# Preparing sites

The directories of a plan are put into canonical form one after the other, the base first. The
first that has none ends the preparation, and nothing but these directories is asked for.
-/

namespace CopyUp

def Host.site (host : Host) (plan : Plan) : Site :=
  ⟨plan, .ofHost host, host.descriptorLimit⟩

namespace Site

/-- What comes of putting a directory into canonical form: a name that cannot be passed on is
refused, any other is asked for once. -/
inductive Canonicalized (directory : Path) : Except IoError Path → List Asked → Prop
  | refused (nul : directory.HasNul) :
      Canonicalized directory (.error (FileSystem.nulRefusal (.realpath directory))) []
  | answered (clean : ¬ directory.HasNul) (reply : Except Errno Path) :
      Canonicalized directory (reply.mapError .os)
        [⟨.canonicalForm, ⟨.realpath directory, reply⟩⟩]

inductive CanonicalizedIfGiven :
    Option Path → Except IoError (Option Path) → List Asked → Prop
  | none : CanonicalizedIfGiven none (.ok none) []
  | some {directory : Path} {result : Except IoError Path} {asked : List Asked}
      (given : Canonicalized directory result asked) :
      CanonicalizedIfGiven (some directory) (result.map .some) asked

/-- What comes of preparing a plan: the plan with the canonical directories in place of its own, or
the error of the first that has no canonical form. -/
inductive Prepared (plan : Plan) : Except IoError Plan → List Asked → Prop
  | baseless {error : IoError} {asked : List Asked}
      (lost : Canonicalized plan.base (.error error) asked) : Prepared plan (.error error) asked
  | astray {base : Path} {error : IoError} {asked more : List Asked}
      (found : Canonicalized plan.base (.ok base) asked)
      (lost : CanonicalizedIfGiven plan.directory (.error error) more) :
      Prepared plan (.error error) (asked ++ more)
  | prepared {base : Path} {directory : Option Path} {asked more : List Asked}
      (found : Canonicalized plan.base (.ok base) asked)
      (second : CanonicalizedIfGiven plan.directory (.ok directory) more) :
      Prepared plan (.ok { plan with base, directory }) (asked ++ more)

variable {σ : Type} [Kernel σ]

theorem ensures_canonical (directory : Path) :
    (canonical (σ := σ) directory).Ensures (Canonicalized directory) := by
  by_cases nul : directory.HasNul
  · have member : directory ∈ (Call.realpath directory).paths := List.mem_singleton.2 rfl
    have silent : (canonical (σ := σ) directory).Silent
        (.error (FileSystem.nulRefusal (.realpath directory))) := by
      intro kernel
      rw [canonical, FileSystem.exec_issue_of_hasNul .canonicalForm member nul]
      exact ⟨rfl, rfl, rfl⟩
    exact silent.ensures_of (.refused nul)
  · have plain : ∀ path ∈ (Call.realpath directory).paths, ¬ path.HasNul := by
      simpa [Call.paths] using nul
    have asks := FileSystem.asksOnce_issue (σ := σ) .canonicalForm plain (by simp [Call.restarts])
    exact asks.ensures_each fun reply => .answered nul reply

theorem ensures_canonical? (directory : Option Path) :
    (canonical? (σ := σ) directory).Ensures (CanonicalizedIfGiven directory) := by
  cases directory with
  | none => exact .pure .none
  | some directory => exact .map ((ensures_canonical directory).mono fun _ _ => .some)

/-- Over every kernel a plan is prepared, and the site is that plan on the host. -/
theorem ensures_prepare (host : Host) (plan : Plan) :
    (prepare (σ := σ) host plan).Ensures fun result asked =>
      ∃ prepared, Prepared plan prepared asked ∧ result = prepared.map host.site := by
  apply (ensures_canonical plan.base).bind
  · intro error asked lost
    exact ⟨.error error, .baseless lost, rfl⟩
  intro base asked found
  apply (ensures_canonical? plan.directory).bind
  · intro error more lost
    exact ⟨.error error, .astray found lost, rfl⟩
  intro directory more second
  apply ((Attempt.Silent.pure (host.site { plan with base, directory })).after_log _ _).ensures_of
  rw [List.append_nil]
  exact ⟨_, .prepared found second, rfl⟩

end Site

end CopyUp
