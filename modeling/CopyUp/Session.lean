import CopyUp.Event
import CopyUp.Kernel.Basic
import CopyUp.Recorded

/-!
# Sessions

A session is a recorded computation that talks to a kernel. An attempt is a session that may end
early with an error, and its trace is kept all the same.
-/

namespace CopyUp

abbrev Session (σ α : Type) := Recorded Event σ α

abbrev Attempt (σ ε : Type) (α : Type) := ExceptT ε (Recorded Event σ) α

namespace Session

variable {σ : Type}

def log (severity : Severity) (text : String) : Session σ Unit :=
  Recorded.tell (.log ⟨severity, text⟩)

variable [Kernel σ]

/-- Makes a call once. -/
def ask (purpose : Purpose) (call : Call) : Session σ (Except Errno call.Reply) := fun kernel =>
  let answered := Kernel.answer call kernel
  ⟨answered.1, answered.2, [.exchange purpose ⟨call, answered.1⟩]⟩

@[simp] theorem run_ask (purpose : Purpose) (call : Call) (kernel : σ) :
    (ask purpose call).run kernel =
      ⟨(Kernel.answer call kernel).1, (Kernel.answer call kernel).2,
        [.exchange purpose ⟨call, (Kernel.answer call kernel).1⟩]⟩ := rfl

/-- Whether an answer only says that a signal came in between. -/
def interrupted {ρ : Type} : Except Errno ρ → Bool
  | .error errno => errno = .eintr
  | .ok _ => false

theorem interrupted_iff {ρ : Type} {reply : Except Errno ρ} :
    interrupted reply ↔ reply = .error .eintr := by
  cases reply <;> simp [interrupted]

/-- Makes a call, and makes it again up to `more` times while it is interrupted. -/
def askWithin (purpose : Purpose) (call : Call) : Nat → Session σ (Except Errno call.Reply)
  | 0 => ask purpose call
  | more + 1 => do
    let reply ← ask purpose call
    if interrupted reply then askWithin purpose call more else pure reply

/-- Makes a call until it is no longer interrupted. The kernel's patience bounds the attempts. -/
def persist (purpose : Purpose) (call : Call) : Session σ (Except Errno call.Reply) :=
  fun kernel => (askWithin purpose call (Kernel.patience kernel)).run kernel

/-- Makes a call the way its kind demands: some calls outlast interruptions, others report them. -/
def perform (purpose : Purpose) (call : Call) : Session σ (Except Errno call.Reply) :=
  if call.restarts then persist purpose call else ask purpose call

theorem perform_of_not_restarts (purpose : Purpose) {call : Call} (plain : ¬ call.restarts) :
    perform (σ := σ) purpose call = ask purpose call := if_neg plain

theorem perform_of_restarts (purpose : Purpose) {call : Call} (restarts : call.restarts) :
    perform (σ := σ) purpose call = persist purpose call := if_pos restarts

/-! ## Persistence has no bound of its own -/

/-- One more attempt in front: if it is interrupted the rest follows, else it is all. -/
theorem run_askWithin_succ (purpose : Purpose) (call : Call) (more : Nat) (kernel : σ) :
    (askWithin purpose call (more + 1)).run kernel =
      let first := (ask purpose call).run kernel
      if interrupted first.value then
        let rest := (askWithin purpose call more).run first.state
        ⟨rest.value, rest.state, first.record ++ rest.record⟩
      else first := by
  simp only [askWithin, Recorded.run_bind]
  split <;> simp

/-- Any bound from the kernel's patience on gives the same run. -/
theorem run_askWithin_of_le (purpose : Purpose) (call : Call) {more : Nat} {kernel : σ}
    (enough : Kernel.patience kernel ≤ more) :
    (askWithin purpose call (more + 1)).run kernel = (askWithin purpose call more).run kernel := by
  induction more generalizing kernel with
  | zero =>
    have answered : ¬ interrupted (Kernel.answer call kernel).1 := fun again => by
      have less := Kernel.patience_lt_of_interrupted (interrupted_iff.1 again)
      omega
    rw [run_askWithin_succ]
    simp [askWithin, answered]
  | succ more ih =>
    rw [run_askWithin_succ, run_askWithin_succ]
    by_cases again : interrupted (Kernel.answer call kernel).1
    · have less := Kernel.patience_lt_of_interrupted (interrupted_iff.1 again)
      have within := Nat.le_of_lt_succ (Nat.lt_of_lt_of_le less enough)
      simp only [run_ask, again, ↓reduceIte, ih within]
    · simp [again]

theorem run_askWithin (purpose : Purpose) (call : Call) {more : Nat} {kernel : σ}
    (enough : Kernel.patience kernel ≤ more) :
    (askWithin purpose call more).run kernel = (persist purpose call).run kernel := by
  obtain ⟨extra, rfl⟩ := Nat.exists_eq_add_of_le enough
  induction extra with
  | zero => rfl
  | succ extra ih =>
    rw [← Nat.add_assoc, run_askWithin_of_le purpose call (Nat.le_add_right ..)]
    exact ih (Nat.le_add_right ..)

/-- To persist is to ask, and to persist once more after an interruption. -/
theorem run_persist (purpose : Purpose) (call : Call) (kernel : σ) :
    (persist purpose call).run kernel =
      let first := (ask purpose call).run kernel
      if interrupted first.value then
        let rest := (persist purpose call).run first.state
        ⟨rest.value, rest.state, first.record ++ rest.record⟩
      else first := by
  rw [← run_askWithin purpose call (Nat.le_succ _), run_askWithin_succ]
  simp only [run_ask, run_askWithin purpose call (Kernel.patience_answer_le call kernel)]
  rfl

end Session

namespace Attempt

variable {σ ε δ α β : Type}

/-- What is left behind by an attempt: its result, the kernel and the trace. -/
def exec (attempt : Attempt σ ε α) (kernel : σ) : Ran Event σ (Except ε α) :=
  attempt.run.run kernel

/-- Puts an error into the terms of the caller. -/
def explain (translate : ε → δ) (attempt : Attempt σ ε α) : Attempt σ δ α :=
  ExceptT.adapt translate attempt

/-- The result of an attempt as a value, so that what follows happens on every way out. -/
def settle (attempt : Attempt σ ε α) : Attempt σ δ (Except ε α) :=
  ExceptT.lift attempt.run

def log (severity : Severity) (text : String) : Attempt σ ε Unit :=
  ExceptT.lift (Session.log severity text)

/-- Ends with a result that is already known. -/
def conclude (result : Except ε α) : Attempt σ ε α := ExceptT.mk (pure result)

@[simp] theorem mapError_ok (translate : ε → δ) (value : α) :
    (.ok value : Except ε α).mapError translate = .ok value := rfl

@[simp] theorem mapError_error (translate : ε → δ) (error : ε) :
    (.error error : Except ε α).mapError translate = .error (translate error) := rfl

theorem mapError_eq_ok_iff {translate : ε → δ} {result : Except ε α} {value : α} :
    result.mapError translate = .ok value ↔ result = .ok value := by
  cases result <;> simp

theorem mapError_eq_error_iff {translate : ε → δ} {result : Except ε α} {error : δ} :
    result.mapError translate = .error error ↔
      ∃ cause, result = .error cause ∧ translate cause = error := by
  cases result <;> simp

/-! ## What each leaves behind -/

@[simp] theorem exec_pure (value : α) (kernel : σ) :
    (pure value : Attempt σ ε α).exec kernel = ⟨.ok value, kernel, []⟩ := rfl

@[simp] theorem exec_throw (error : ε) (kernel : σ) :
    (throw error : Attempt σ ε α).exec kernel = ⟨.error error, kernel, []⟩ := rfl

@[simp] theorem exec_conclude (result : Except ε α) (kernel : σ) :
    (conclude result : Attempt σ ε α).exec kernel = ⟨result, kernel, []⟩ := rfl

@[simp] theorem exec_log (severity : Severity) (text : String) (kernel : σ) :
    (log severity text : Attempt σ ε Unit).exec kernel =
      ⟨.ok (), kernel, [.log ⟨severity, text⟩]⟩ := rfl

/-- An error ends an attempt; a value is passed on, and the traces are joined. -/
theorem exec_bind (attempt : Attempt σ ε α) (next : α → Attempt σ ε β) (kernel : σ) :
    (attempt >>= next).exec kernel =
      match attempt.exec kernel with
      | ⟨.error error, after, trace⟩ => ⟨.error error, after, trace⟩
      | ⟨.ok value, after, trace⟩ =>
        let second := (next value).exec after
        ⟨second.value, second.state, trace ++ second.record⟩ := by
  simp only [exec, ExceptT.run_bind, Recorded.run_bind]
  rcases attempt.run.run kernel with ⟨_ | _, after, trace⟩ <;> simp

@[simp] theorem exec_map (f : α → β) (attempt : Attempt σ ε α) (kernel : σ) :
    (f <$> attempt).exec kernel =
      ⟨f <$> (attempt.exec kernel).value, (attempt.exec kernel).state,
        (attempt.exec kernel).record⟩ := by
  rw [map_eq_pure_bind, exec_bind]
  rcases attempt.exec kernel with ⟨_ | _, after, trace⟩ <;> simp [Functor.map, Except.map]

@[simp] theorem exec_explain (translate : ε → δ) (attempt : Attempt σ ε α) (kernel : σ) :
    (attempt.explain translate).exec kernel =
      ⟨(attempt.exec kernel).value.mapError translate, (attempt.exec kernel).state,
        (attempt.exec kernel).record⟩ :=
  Recorded.run_map (Except.mapError translate) attempt.run kernel

@[simp] theorem exec_settle (attempt : Attempt σ ε α) (kernel : σ) :
    (attempt.settle : Attempt σ δ _).exec kernel =
      ⟨.ok (attempt.exec kernel).value, (attempt.exec kernel).state,
        (attempt.exec kernel).record⟩ :=
  Recorded.run_map Except.ok attempt.run kernel

end Attempt

end CopyUp
