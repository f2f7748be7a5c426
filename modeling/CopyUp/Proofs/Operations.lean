import CopyUp.Proofs.Ensures
import CopyUp.Snapshot

/-!
# What the file operations ensure

One law for each operation that scenarios are written in: which calls it asks, and what the answers
make of its result. Laws about scenarios use these and do not look at the operations again.
-/

namespace CopyUp

/-! ## Single calls -/

namespace Session

variable {σ : Type} [Kernel σ]

theorem exists_answer_of_askWithin (purpose : Purpose) (call : Call) (more : Nat) (kernel : σ) :
    ∃ asking : σ, ((askWithin purpose call more).run kernel).value =
      (Kernel.answer call asking).1 := by
  induction more generalizing kernel with
  | zero => exact ⟨kernel, rfl⟩
  | succ more ih =>
      rw [run_askWithin_succ]
      by_cases again : interrupted (Kernel.answer call kernel).1
      · simp only [run_ask, again, if_true]
        exact ih _
      · simp only [run_ask, again]
        exact ⟨kernel, rfl⟩

theorem served_askWithin (purpose : Purpose) (call : Call) (more : Nat) (kernel : σ) :
    Served kernel (Trace.asked ((askWithin purpose call more).run kernel).record)
      ((askWithin purpose call more).run kernel).state := by
  induction more generalizing kernel with
  | zero => exact .single purpose call kernel
  | succ more ih =>
      rw [run_askWithin_succ]
      by_cases again : interrupted (Kernel.answer call kernel).1
      · simp only [run_ask, again, if_true]
        exact .cons (ih _)
      · simp only [run_ask, again]
        exact .single purpose call kernel

theorem served_perform (purpose : Purpose) (call : Call) (kernel : σ) :
    Served kernel (Trace.asked ((perform purpose call).run kernel).record)
      ((perform purpose call).run kernel).state := by
  by_cases restarts : call.restarts
  · rw [perform_of_restarts purpose restarts]
    exact served_askWithin ..
  · rw [perform_of_not_restarts purpose restarts]
    exact .single purpose call kernel

theorem exists_answer_of_perform (purpose : Purpose) (call : Call) (kernel : σ) :
    ∃ asking : σ, ((perform purpose call).run kernel).value = (Kernel.answer call asking).1 := by
  by_cases restarts : call.restarts
  · rw [perform_of_restarts purpose restarts]
    exact exists_answer_of_askWithin ..
  · rw [perform_of_not_restarts purpose restarts]
    exact ⟨kernel, rfl⟩

end Session

namespace FileSystem

variable {σ : Type} [Kernel σ]

/-- What issuing a call comes to: a path that holds a NUL is refused and nothing is asked, else
the call is asked and its answer is the result. -/
inductive Issued (purpose : Purpose) (call : Call) :
    Except IoError call.Reply → List Asked → Prop
  | refused {path : Path} (member : path ∈ call.paths) (nul : path.HasNul) :
      Issued purpose call (.error (nulRefusal call)) []
  | answered {reply : Except Errno call.Reply} {asked : List Asked}
      (answered : Answered purpose call reply asked) :
      Issued purpose call (reply.mapError .os) asked

theorem ensures_issue (purpose : Purpose) (call : Call) :
    (issue (σ := σ) purpose call).Ensures (Issued purpose call) := by
  constructor <;> intro kernel <;> by_cases refused : ∃ path ∈ call.paths, path.HasNul
  · obtain ⟨path, member, nul⟩ := refused
    rw [exec_issue_of_hasNul purpose member nul]
    exact .refused member nul
  · rw [exec_issue purpose fun path member nul => refused ⟨path, member, nul⟩]
    exact .answered (Session.answered_perform purpose call kernel)
  · obtain ⟨path, member, nul⟩ := refused
    rw [exec_issue_of_hasNul purpose member nul]
    exact .nil
  · rw [exec_issue purpose fun path member nul => refused ⟨path, member, nul⟩]
    exact Session.served_perform purpose call kernel

theorem ensures_issue_of_clean (purpose : Purpose) {call : Call}
    (clean : ∀ path ∈ call.paths, ¬ path.HasNul) :
    (issue (σ := σ) purpose call).Ensures fun result asked =>
      ∃ reply, result = reply.mapError .os ∧ Answered purpose call reply asked := by
  refine (ensures_issue purpose call).mono fun result asked issued => ?_
  cases issued with
  | refused member nul => exact absurd nul (clean _ member)
  | answered answered => exact ⟨_, rfl, answered⟩

theorem asksOnce_issue (purpose : Purpose) {call : Call}
    (clean : ∀ path ∈ call.paths, ¬ path.HasNul) (plain : ¬ call.restarts) :
    (issue (σ := σ) purpose call).AsksOnce purpose call fun reply => reply.mapError .os := by
  intro kernel
  rw [exec_issue purpose clean, Session.perform_of_not_restarts purpose plain]
  exact ⟨rfl, rfl, rfl⟩

/-! ## Questions -/

def unlessMissingResult {α : Type} : Except IoError α → Except IoError (Option α)
  | .ok value => .ok (some value)
  | .error error => if error = .os .enoent then .ok none else .error error

omit [Kernel σ] in
theorem exec_unlessMissing {α : Type} (attempt : Attempt σ IoError α) (kernel : σ) :
    (unlessMissing attempt).exec kernel =
      ⟨unlessMissingResult (attempt.exec kernel).value, (attempt.exec kernel).state,
        (attempt.exec kernel).record⟩ := by
  rw [unlessMissing, Attempt.exec_bind, Attempt.exec_settle]
  rcases attempt.exec kernel with ⟨error | value, reached, trace⟩
  · by_cases missing : error = .os .enoent <;> simp [missing, unlessMissingResult]
  · simp [unlessMissingResult]

theorem asksOnce_unlessMissing {α : Type} {attempt : Attempt σ IoError α} {purpose : Purpose}
    {call : Call} {outcome : Except Errno call.Reply → Except IoError α}
    (asks : attempt.AsksOnce purpose call outcome) :
    (unlessMissing attempt).AsksOnce purpose call
      fun reply => unlessMissingResult (outcome reply) := by
  intro kernel
  obtain ⟨same, kept, once⟩ := asks kernel
  rw [exec_unlessMissing, same]
  exact ⟨rfl, kept, once⟩

/-- What the answer to a question about a name that may be missing comes to. -/
def found {ρ : Type} : Except Errno ρ → Except IoError (Option ρ)
  | .ok value => .ok (some value)
  | .error errno => if errno = .enoent then .ok none else .error (.os errno)

theorem unlessMissingResult_mapError {ρ : Type} (reply : Except Errno ρ) :
    unlessMissingResult (reply.mapError .os) = found reply := by
  cases reply <;> simp [unlessMissingResult, found]

theorem asksOnce_lookup (purpose : Purpose) {path : Path} (clean : ¬ path.HasNul) :
    (lookup (σ := σ) purpose path).AsksOnce purpose (.stat path) found :=
  (asksOnce_unlessMissing (asksOnce_issue purpose (by simpa [Call.paths] using clean)
    (by simp [Call.restarts]))).congr unlessMissingResult_mapError

theorem asksOnce_lookupLink (purpose : Purpose) {path : Path} (clean : ¬ path.HasNul) :
    (lookupLink (σ := σ) purpose path).AsksOnce purpose (.lstat path) found :=
  (asksOnce_unlessMissing (asksOnce_issue purpose (by simpa [Call.paths] using clean)
    (by simp [Call.restarts]))).congr unlessMissingResult_mapError

theorem asksOnce_inspect (purpose : Purpose) (fd : Descriptor) :
    (inspect (σ := σ) purpose fd).AsksOnce purpose (.fstat fd) fun reply => reply.mapError .os :=
  asksOnce_issue purpose (by simp [Call.paths]) (by simp [Call.restarts])

def removed : Except Errno Unit → Except IoError Unit
  | .ok _ => .ok ()
  | .error errno => if errno = .enoent then .ok () else .error (.os errno)

theorem asksOnce_removeStale {path : Path} (clean : ¬ path.HasNul) :
    (removeStale (σ := σ) path).AsksOnce .stale (.unlink path) removed := by
  refine ((asksOnce_unlessMissing (asksOnce_issue .stale (by simpa [Call.paths] using clean)
    (by simp [Call.restarts]))).map fun _ => ()).congr fun reply => ?_
  rw [unlessMissingResult_mapError]
  cases reply with
  | ok => rfl
  | error errno => by_cases missing : errno = .enoent <;> simp [found, removed, Except.map, missing]

/-! ## Open files -/

theorem asksOnce_release {ε : Type} (fd : Descriptor) :
    (release fd : Attempt σ ε Unit).AsksOnce .release (.close fd) fun _ => .ok () := by
  intro kernel
  rw [exec_release]
  exact ⟨rfl, rfl, rfl⟩

/-- A file that was opened is released last, whatever the body came to. -/
theorem ensures_withFile {ε α : Type} {acquire : Attempt σ ε Descriptor}
    {body : Descriptor → Attempt σ ε α} {opening : Except ε Descriptor → List Asked → Prop}
    {post : Except ε α → List Asked → Prop} (acquired : acquire.Ensures opening)
    (fails : ∀ error asked, opening (.error error) asked → post (.error error) asked)
    (works : ∀ fd asked, opening (.ok fd) asked → (body fd).Ensures fun result used =>
      ∀ reply, post result (asked ++ used ++ [⟨.release, ⟨.close fd, reply⟩⟩])) :
    (withFile acquire body).Ensures post := by
  refine acquired.bind fails fun fd asked opened => ?_
  refine Attempt.Ensures.bind_settle ((works fd asked opened).mono fun result used holds => ?_)
  refine (asksOnce_release fd).ensures_bind ?_ ?_
  · intro reply error impossible
    contradiction
  · intro reply _ _
    exact .conclude (by simpa using holds reply)

/-- The attempt opens a path, and its result is the answer in the terms of the caller. -/
def Opens {ε : Type} (acquire : Attempt σ ε Descriptor) (path : Path) (flags : OpenFlags)
    (translate : Errno → ε) : Prop :=
  acquire.Ensures fun result asked => ∃ reply,
    result = reply.mapError translate ∧ Answered .acquire (.openFile path flags) reply asked

theorem opens_issue {path : Path} (clean : ¬ path.HasNul) (flags : OpenFlags) :
    Opens (σ := σ) (issue .acquire (.openFile path flags)) path flags .os :=
  ensures_issue_of_clean .acquire (by simpa [Call.paths] using clean)

theorem Opens.explain {ε δ : Type} {acquire : Attempt σ ε Descriptor} {path : Path}
    {flags : OpenFlags} {translate : Errno → ε} (opens : Opens acquire path flags translate)
    (further : ε → δ) : Opens (acquire.explain further) path flags (further ∘ translate) := by
  refine Attempt.Ensures.explain (Attempt.Ensures.mono opens fun result asked told => ?_)
  obtain ⟨reply, rfl, answered⟩ := told
  exact ⟨reply, by cases reply <;> rfl, answered⟩

theorem Opens.ensures_withFile {ε α : Type} {acquire : Attempt σ ε Descriptor} {path : Path}
    {flags : OpenFlags} {translate : Errno → ε} {body : Descriptor → Attempt σ ε α}
    {post : Except ε α → List Asked → Prop} (opens : Opens acquire path flags translate)
    (fails : ∀ errno asked, Answered .acquire (.openFile path flags) (.error errno) asked →
      post (.error (translate errno)) asked)
    (works : ∀ fd asked, Answered .acquire (.openFile path flags) (.ok fd) asked →
      (body fd).Ensures fun result used =>
        ∀ reply, post result (asked ++ used ++ [⟨.release, ⟨.close fd, reply⟩⟩])) :
    (withFile acquire body).Ensures post := by
  refine FileSystem.ensures_withFile opens ?_ ?_
  · intro error asked told
    obtain ⟨reply, same, answered⟩ := told
    obtain ⟨errno, rfl, rfl⟩ := Attempt.mapError_eq_error_iff.1 same.symm
    exact fails errno asked answered
  · intro fd asked told
    obtain ⟨reply, same, answered⟩ := told
    cases Attempt.mapError_eq_ok_iff.1 same.symm
    exact works fd asked answered

/-! ## Writing -/

inductive Offered (purpose : Purpose) (fd : Descriptor) (bytes : Bytes) :
    Placement → Except Errno Nat → List Asked → Prop
  | next {reply : Except Errno Nat} {asked : List Asked}
      (answered : Answered purpose (.write fd bytes) reply asked)
      (bounded : ∀ count, reply = .ok count → count ≤ bytes.length) :
      Offered purpose fd bytes .next reply asked
  | at {offset : Nat} {reply : Except Errno Nat} {asked : List Asked}
      (answered : Answered purpose (.pwrite fd bytes offset) reply asked)
      (bounded : ∀ count, reply = .ok count → count ≤ bytes.length) :
      Offered purpose fd bytes (.at offset) reply asked

theorem Offered.le {purpose : Purpose} {fd : Descriptor} {bytes : Bytes} {place : Placement}
    {count : Nat} {asked : List Asked}
    (offered : Offered purpose fd bytes place (.ok count) asked) : count ≤ bytes.length := by
  cases offered with
  | next _ bounded | «at» _ bounded => exact bounded count rfl

theorem ensures_offer (purpose : Purpose) (fd : Descriptor) (bytes : Bytes) (place : Placement) :
    (offer (σ := σ) purpose fd bytes place).Ensures fun result asked =>
      ∃ reply, result = reply.mapError .os ∧ Offered purpose fd bytes place reply asked := by
  constructor <;> intro kernel
  · cases place with
    | next =>
        rw [offer, exec_issue purpose (by simp [Call.paths])]
        refine ⟨_, rfl, .next (Session.answered_perform ..) fun count taken => ?_⟩
        obtain ⟨asking, same⟩ := Session.exists_answer_of_perform purpose (.write fd bytes) kernel
        exact Kernel.written_le (same.symm.trans taken)
    | «at» offset =>
        rw [offer, exec_issue purpose (by simp [Call.paths])]
        refine ⟨_, rfl, .at (Session.answered_perform ..) fun count taken => ?_⟩
        obtain ⟨asking, same⟩ :=
          Session.exists_answer_of_perform purpose (.pwrite fd bytes offset) kernel
        exact Kernel.pwritten_le (same.symm.trans taken)
  · cases place with
    | next | «at» => exact (ensures_issue purpose _).served kernel

/-- What writing all bytes comes to: offers, each behind the bytes already taken, up to the first
that is refused or takes nothing, or until all bytes are taken. -/
inductive Written (purpose : Purpose) (fd : Descriptor) :
    Placement → Bytes → Except IoError Unit → List Asked → Prop
  | done {place : Placement} : Written purpose fd place [] (.ok ()) []
  | refused {place : Placement} {bytes : Bytes} {errno : Errno} {asked : List Asked}
      (more : bytes ≠ []) (offered : Offered purpose fd bytes place (.error errno) asked) :
      Written purpose fd place bytes (.error (.os errno)) asked
  | stuck {place : Placement} {bytes : Bytes} {asked : List Asked}
      (more : bytes ≠ []) (offered : Offered purpose fd bytes place (.ok 0) asked) :
      Written purpose fd place bytes (.error .nothingWritten) asked
  | took {place : Placement} {bytes : Bytes} {count : Nat} {result : Except IoError Unit}
      {first rest : List Asked} (more : bytes ≠ []) (positive : 0 < count)
      (offered : Offered purpose fd bytes place (.ok count) first)
      (later : Written purpose fd (place.advance count) (bytes.drop count) result rest) :
      Written purpose fd place bytes result (first ++ rest)

/-- Where nothing is left to write, nothing is asked. -/
theorem Written.of_nil {purpose : Purpose} {fd : Descriptor} {place : Placement}
    {result : Except IoError Unit} {asked : List Asked}
    (written : Written purpose fd place [] result asked) : result = .ok () ∧ asked = [] := by
  cases written with
  | done => exact ⟨rfl, rfl⟩
  | refused more | stuck more | took more => exact absurd rfl more

theorem ensures_writeAll (purpose : Purpose) (fd : Descriptor) (place : Placement)
    (bytes : Bytes) :
    (writeAll (σ := σ) purpose fd place bytes).Ensures (Written purpose fd place bytes) := by
  induction left : bytes.length using Nat.strongRecOn generalizing place bytes with
  | ind left ih =>
      cases bytes with
      | nil => exact .pure .done
      | cons byte rest =>
          rw [writeAll_cons]
          refine (ensures_offer purpose fd _ place).bind ?_ ?_
          · intro error asked told
            obtain ⟨reply, same, offered⟩ := told
            obtain ⟨errno, rfl, rfl⟩ := Attempt.mapError_eq_error_iff.1 same.symm
            exact .refused (by simp) offered
          · intro count asked told
            obtain ⟨reply, same, offered⟩ := told
            cases Attempt.mapError_eq_ok_iff.1 same.symm
            by_cases none : count = 0
            · simp only [none, if_true]
              exact .throw (by simpa using .stuck (by simp) (none ▸ offered))
            · simp only [none, if_false]
              refine (ih _ ?_ _ _ rfl).mono fun result more later => ?_
              · simp only [← left, List.length_drop, List.length_cons]
                omega
              · exact .took (by simp) (Nat.pos_of_ne_zero none) offered later

end FileSystem

end CopyUp
