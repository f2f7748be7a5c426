import CopyUp.Kernel.Script
import CopyUp.Proofs.Composition

/-!
# Signals

A signal that cuts a call short is one more answer of the kernel, and every later call is answered
one place further on. Where the call is made again at once, a run takes no other notice of it: what
it results in, what it tells and what it asks besides stay the same to the last byte.
-/

namespace CopyUp

/-! ## Interrupted scripts -/

namespace Script

/-- The script with an interruption in front of its entry `n`. One that is too short is filled up
with what it would have granted anyway. -/
def interrupted (script : Script) (n : Nat) : Script :=
  let missing := List.replicate (n - script.entries.length) (Entry.grant {})
  { script with entries := (script.entries ++ missing).insertIdx n (.refuse .eintr) }

theorem answer_interrupted_zero (call : Call) (script : Script) :
    Kernel.answer call (script.interrupted 0) = (.error .eintr, script) := by
  simp [interrupted, Kernel.answer, answer]

theorem answer_interrupted_succ (call : Call) (script : Script) (n : Nat) :
    Kernel.answer call (script.interrupted (n + 1)) =
      ((Kernel.answer call script).1, (Kernel.answer call script).2.interrupted n) := by
  obtain ⟨entries, next⟩ := script
  cases entries with
  | nil => simp [interrupted, Kernel.answer, answer, List.replicate_succ]
  | cons entry rest => cases entry <;> simp [interrupted, Kernel.answer, answer]

example : (Script.mk [.grant {}] 1000).interrupted 2 =
    ⟨[.grant {}, .grant {}, .refuse .eintr], 1000⟩ := rfl

end Script

def Asked.cutShort (asked : Asked) : Asked := ⟨asked.purpose, ⟨asked.call, .error .eintr⟩⟩

/-! ## One interruption -/

namespace Recorded

variable {ω ψ α β : Type}

/-- From this script on, an interruption behind all calls is left to what follows, and one at a call
that outlasts it puts one more attempt on record and changes nothing else. -/
structure Outlasts (asks : ω → Option Asked) (computation : Recorded ω Script α)
    (script : Script) : Prop where
  later : ∀ extra, computation.run (script.interrupted
      (((computation.run script).record.filterMap asks).length + extra)) =
    ⟨(computation.run script).value, (computation.run script).state.interrupted extra,
      (computation.run script).record⟩
  within : ∀ {before told after one}, (computation.run script).record = before ++ told :: after →
    asks told = some one → one.call.restarts →
    ∃ repeated, asks repeated = some one.cutShort ∧
      computation.run (script.interrupted (before.filterMap asks).length) =
        ⟨(computation.run script).value, (computation.run script).state,
          before ++ repeated :: told :: after⟩

namespace Outlasts

variable {asks : ω → Option Asked} {computation : Recorded ω Script α} {script : Script}

protected theorem pure (value : α) : (pure value : Recorded ω Script α).Outlasts asks script := by
  constructor
  · intro extra
    simp
  · intro before told after one split
    simp at split

protected theorem tell {entry : ω} (silent : asks entry = none) :
    (tell entry : Recorded ω Script Unit).Outlasts asks script := by
  constructor
  · intro extra
    simp [silent]
  · intro before told after one split call
    obtain ⟨_, rfl, _⟩ := split_singleton split
    rw [silent] at call
    contradiction

protected theorem bind {next : α → Recorded ω Script β}
    (first : computation.Outlasts asks script)
    (rest : (next (computation.run script).value).Outlasts asks (computation.run script).state) :
    (computation >>= next).Outlasts asks script := by
  constructor
  · intro extra
    simp only [run_bind, List.filterMap_append, List.length_append, Nat.add_assoc, first.later,
      rest.later]
  · intro before told after one split call restarts
    rw [record_bind] at split
    rcases split_append split with ⟨between, rfl, behind⟩ | ⟨between, ahead, rfl⟩
    · -- The first part does not come as far as the interruption.
      obtain ⟨repeated, again, outlasted⟩ := rest.within behind call restarts
      refine ⟨repeated, again, ?_⟩
      simp only [run_bind, List.filterMap_append, List.length_append, first.later, outlasted,
        List.append_assoc]
    · -- The second part finds everything as it was.
      obtain ⟨repeated, again, outlasted⟩ := first.within ahead call restarts
      refine ⟨repeated, again, ?_⟩
      simp only [run_bind, outlasted, List.append_assoc, List.cons_append]

protected theorem mapRecord {translate : ω → ψ} {shows : ψ → Option Asked}
    (same : ∀ entry, shows (translate entry) = asks entry)
    (inner : computation.Outlasts asks script) :
    (computation.mapRecord translate).Outlasts shows script := by
  have alike : ∀ record : List ω,
      (record.map translate).filterMap shows = record.filterMap asks := by
    intro record
    rw [List.filterMap_map]
    exact congrArg (List.filterMap · record) (funext same)
  constructor
  · intro extra
    simp only [run_mapRecord, alike, inner.later]
  · intro before told after one split call restarts
    obtain ⟨front, back, whole, rfl, rest⟩ := List.map_eq_append_iff.1 split
    obtain ⟨entry, others, rfl, rfl, rfl⟩ := List.map_eq_cons_iff.1 rest
    rw [same] at call
    obtain ⟨repeated, again, outlasted⟩ := inner.within whole call restarts
    refine ⟨translate repeated, (same repeated).trans again, ?_⟩
    simp only [run_mapRecord, alike, outlasted, List.map_append, List.map_cons]

/-- It is enough to agree, at each interruption, with something that outlasts it. -/
theorem of_agrees (agrees : ∀ n, ∃ other : Recorded ω Script α, other.Outlasts asks script ∧
      other.run script = computation.run script ∧
      other.run (script.interrupted n) = computation.run (script.interrupted n)) :
    computation.Outlasts asks script := by
  constructor
  · intro extra
    obtain ⟨other, outlasts, calm, hit⟩ :=
      agrees (((computation.run script).record.filterMap asks).length + extra)
    rw [← hit, ← calm]
    exact outlasts.later extra
  · intro before told after one split call restarts
    obtain ⟨other, outlasts, calm, hit⟩ := agrees (before.filterMap asks).length
    rw [← calm] at split ⊢
    rw [← hit]
    exact outlasts.within split call restarts

end Outlasts

end Recorded

/-! ## Sessions -/

namespace Session

section Persisting

variable {σ : Type} [Kernel σ] {purpose : Purpose} {call : Call} {kernel : σ}

/-- A call cannot be interrupted for ever, so what holds of a kernel if it holds after an
interruption holds of every kernel. -/
theorem interrupted_induction (call : Call) {motive : σ → Prop}
    (step : ∀ kernel, ((Kernel.answer call kernel).1 = .error .eintr →
      motive (Kernel.answer call kernel).2) → motive kernel) (kernel : σ) : motive kernel := by
  induction patience : Kernel.patience kernel using Nat.strong_induction_on generalizing kernel with
  | _ bound ih =>
      refine step kernel fun again => ih _ ?_ _ rfl
      rw [← patience]
      exact Kernel.patience_lt_of_interrupted again

theorem run_persist_of_answered (settled : (Kernel.answer call kernel).1 ≠ .error .eintr) :
    (persist purpose call).run kernel = (ask purpose call).run kernel := by
  rw [run_persist]
  exact if_neg fun again => settled (interrupted_iff.1 again)

theorem run_persist_of_interrupted (again : (Kernel.answer call kernel).1 = .error .eintr) :
    (persist purpose call).run kernel =
      let rest := (persist purpose call).run (Kernel.answer call kernel).2
      ⟨rest.value, rest.state, .exchange purpose ⟨call, .error .eintr⟩ :: rest.record⟩ := by
  rw [run_persist, run_ask, again]
  rfl

end Persisting

variable {α : Type} (purpose : Purpose) {call : Call} {script : Script}

/-- A call that is asked once moves every later interruption one place on. -/
theorem run_ask_interrupted (call : Call) (script : Script) (n : Nat) :
    (ask purpose call).run (script.interrupted (n + 1)) =
      ⟨((ask purpose call).run script).value, ((ask purpose call).run script).state.interrupted n,
        ((ask purpose call).run script).record⟩ := by
  simp only [run_ask, Script.answer_interrupted_succ]

theorem outlasts_ask (plain : ¬ call.restarts) :
    (ask purpose call).Outlasts Event.asked? script := by
  constructor
  · intro extra
    show (ask purpose call).run (script.interrupted (1 + extra)) = _
    rw [Nat.add_comm, run_ask_interrupted]
  · intro before told after one split asked restarts
    obtain ⟨_, rfl, _⟩ := split_singleton split
    cases asked
    exact absurd restarts plain

theorem run_persist_interrupted_zero (call : Call) (script : Script) :
    (persist purpose call).run (script.interrupted 0) =
      let calm := (persist purpose call).run script
      ⟨calm.value, calm.state, .exchange purpose ⟨call, .error .eintr⟩ :: calm.record⟩ := by
  rw [run_persist_of_interrupted (by rw [Script.answer_interrupted_zero]),
    Script.answer_interrupted_zero]

theorem run_persist_interrupted_succ (again : (Kernel.answer call script).1 = .error .eintr)
    (n : Nat) :
    (persist purpose call).run (script.interrupted (n + 1)) =
      let rest := (persist purpose call).run ((Kernel.answer call script).2.interrupted n)
      ⟨rest.value, rest.state, .exchange purpose ⟨call, .error .eintr⟩ :: rest.record⟩ := by
  rw [run_persist_of_interrupted (by rwa [Script.answer_interrupted_succ]),
    Script.answer_interrupted_succ]

/-- To persist outlasts an interruption before the first attempt and, attempt by attempt, between
any two of them. -/
theorem outlasts_persist (call : Call) (script : Script) :
    (persist purpose call).Outlasts Event.asked? script := by
  refine interrupted_induction call (fun script ih => ?_) script
  have first : ∃ reply rest, ((persist purpose call).run script).record =
      .exchange purpose ⟨call, reply⟩ :: rest := by
    by_cases again : (Kernel.answer call script).1 = .error .eintr
    · exact ⟨_, _, congrArg Ran.record (run_persist_of_interrupted again)⟩
    · exact ⟨_, _, congrArg Ran.record (run_persist_of_answered again)⟩
  constructor
  · intro extra
    by_cases again : (Kernel.answer call script).1 = .error .eintr
    · rw [run_persist_of_interrupted again]
      show (persist purpose call).run (script.interrupted (_ + 1 + extra)) = _
      rw [Nat.add_right_comm, run_persist_interrupted_succ purpose again, (ih again).later]
    · rw [run_persist_of_answered again]
      show (persist purpose call).run (script.interrupted (1 + extra)) = _
      rw [Nat.add_comm, run_persist_of_answered (by rwa [Script.answer_interrupted_succ]),
        run_ask_interrupted]
  · intro before told after one split asked restarts
    cases before with
    | nil =>
        obtain ⟨reply, rest, record⟩ := first
        rw [record] at split
        cases split
        cases asked
        refine ⟨.exchange purpose ⟨call, .error .eintr⟩, rfl, ?_⟩
        rw [← record]
        exact run_persist_interrupted_zero purpose call script
    | cons head before =>
        by_cases again : (Kernel.answer call script).1 = .error .eintr
        · rw [run_persist_of_interrupted again] at split ⊢
          obtain ⟨rfl, behind⟩ := List.cons_eq_cons.1 split
          obtain ⟨repeated, same, outlasted⟩ := (ih again).within behind asked restarts
          refine ⟨repeated, same, ?_⟩
          show (persist purpose call).run (script.interrupted (_ + 1)) = _
          rw [run_persist_interrupted_succ purpose again, outlasted]
          rfl
        · rw [run_persist_of_answered again] at split
          obtain ⟨none, _⟩ := split_singleton split
          contradiction

theorem outlasts_perform (call : Call) :
    (perform purpose call).Outlasts Event.asked? script := by
  by_cases restarts : call.restarts
  · rw [perform_of_restarts purpose restarts]
    exact outlasts_persist purpose call script
  · rw [perform_of_not_restarts purpose restarts]
    exact outlasts_ask purpose restarts

/-- Whatever is put together from calls outlasts interruptions. -/
theorem Composed.outlasts {permits : Call → Prop} {session : Session Script α}
    (composed : Composed permits session) (script : Script) :
    session.Outlasts Event.asked? script := by
  induction composed generalizing script with
  | pure value => exact .pure value
  | log severity text => exact .tell rfl
  | perform => exact outlasts_perform _ _
  | bind _ _ first rest => exact (first script).bind (rest _ _)
  | unbounded within _ enough each =>
      refine .of_agrees fun n => ?_
      let bound := max (Kernel.patience script) (Kernel.patience (script.interrupted n))
      exact ⟨within bound, each bound script, enough _ _ (le_max_left ..),
        enough _ _ (le_max_right ..)⟩

end Session

/-! ## Suites -/

def Progress.asked? (entry : Progress) : Option Asked := entry.event?.bind Event.asked?

theorem Recorded.Composed.outlasts {α : Type} {permits : Call → Prop}
    {computation : Recorded Progress Script α} (composed : Composed permits computation)
    (script : Script) : computation.Outlasts Progress.asked? script := by
  induction composed generalizing script with
  | pure value => exact .pure value
  | notify notice => exact .tell rfl
  | log severity text => exact .tell rfl
  | mapRecord inner => exact (inner.outlasts script).mapRecord fun _ => rfl
  | bind _ _ first rest => exact (first script).bind (rest _ _)

/-! ## Any number of interruptions -/

/-- The bytes that a call has put into a file: through which number, to which offset if it gave one,
and which bytes. -/
def Asked.written? (asked : Asked) : Option (Descriptor × Option Nat × Bytes) :=
  match asked.exchange with
  | ⟨.write fd bytes, .ok count⟩ => some (fd, none, bytes.take count)
  | ⟨.pwrite fd bytes offset, .ok count⟩ => some (fd, some offset, bytes.take count)
  | _ => none

namespace Asked

theorem errno?_cutShort (asked : Asked) : asked.cutShort.errno? = some .eintr := rfl

theorem opened?_cutShort (asked : Asked) : asked.cutShort.opened? = none := by
  obtain ⟨purpose, call, reply⟩ := asked
  cases call <;> rfl

theorem written?_cutShort (asked : Asked) : asked.cutShort.written? = none := by
  obtain ⟨purpose, call, reply⟩ := asked
  cases call <;> rfl

end Asked

namespace Recorded

variable {ω α : Type}

/-- Two runs differ in one attempt only, which a signal cut short just before the call `n`. -/
structure RepeatsOnce (asks : ω → Option Asked) (n : Nat) (one : Asked)
    (calm hit : Ran ω Script α) : Prop where
  value : hit.value = calm.value
  state : hit.state = calm.state
  record : ∃ before repeated told after,
    calm.record = before ++ told :: after ∧ hit.record = before ++ repeated :: told :: after ∧
      (before.filterMap asks).length = n ∧ asks told = some one ∧
      asks repeated = some one.cutShort

/-- The script is that of a calm run with interruptions put in, one after another, each at a call
that outlasts it. -/
inductive Signalled (asks : ω → Option Asked) (computation : Recorded ω Script α)
    (calm : Script) : Script → Prop
  | calm : Signalled asks computation calm calm
  | hit {script : Script} {n : Nat} {one : Asked}
      (earlier : Signalled asks computation calm script)
      (asked : ((computation.run script).record.filterMap asks)[n]? = some one)
      (restarts : one.call.restarts) : Signalled asks computation calm (script.interrupted n)

/-- Two runs are the same in all but attempts that signals cut short. -/
structure SameButForSignals (asks : ω → Option Asked) (calm hit : Ran ω Script α) : Prop where
  value : hit.value = calm.value
  state : hit.state = calm.state
  /-- Log lines and notices, in their order. -/
  told : hit.record.filter (fun entry => (asks entry).isNone) =
    calm.record.filter fun entry => (asks entry).isNone
  /-- All answers but interruptions, with their calls. -/
  answers : (hit.record.filterMap asks).filter (·.errno? ≠ some .eintr) =
    (calm.record.filterMap asks).filter (·.errno? ≠ some .eintr)
  descriptors : (hit.record.filterMap asks).filterMap Asked.opened? =
    (calm.record.filterMap asks).filterMap Asked.opened?
  bytes : (hit.record.filterMap asks).filterMap Asked.written? =
    (calm.record.filterMap asks).filterMap Asked.written?

/-- Signals at calls that outlast them are invisible, one as well as any number of them. -/
structure IgnoresSignals (asks : ω → Option Asked) (computation : Recorded ω Script α) :
    Prop where
  once : ∀ script n one, ((computation.run script).record.filterMap asks)[n]? = some one →
    one.call.restarts →
    RepeatsOnce asks n one (computation.run script) (computation.run (script.interrupted n))
  often : ∀ calm hit, Signalled asks computation calm hit →
    SameButForSignals asks (computation.run calm) (computation.run hit)

variable {asks : ω → Option Asked} {computation : Recorded ω Script α}

/-- The entry of a record that a call stands in. -/
theorem exists_split_of_getElem? {record : List ω} {n : Nat} {one : Asked}
    (asked : (record.filterMap asks)[n]? = some one) :
    ∃ before told after, record = before ++ told :: after ∧
      (before.filterMap asks).length = n ∧ asks told = some one := by
  induction record generalizing n with
  | nil => simp at asked
  | cons entry rest ih =>
      cases call : asks entry with
      | none =>
          rw [List.filterMap_cons_none call] at asked
          obtain ⟨before, told, after, rfl, count, found⟩ := ih asked
          refine ⟨entry :: before, told, after, rfl, ?_, found⟩
          rw [List.filterMap_cons_none call, count]
      | some first =>
          rw [List.filterMap_cons_some call] at asked
          cases n with
          | zero => exact ⟨[], entry, rest, rfl, rfl, call.trans asked⟩
          | succ n =>
              obtain ⟨before, told, after, rfl, count, found⟩ := ih asked
              refine ⟨entry :: before, told, after, rfl, ?_, found⟩
              rw [List.filterMap_cons_some call, List.length_cons, count]

theorem RepeatsOnce.of_outlasts (outlasts : ∀ script, computation.Outlasts asks script)
    {script : Script} {n : Nat} {one : Asked}
    (asked : ((computation.run script).record.filterMap asks)[n]? = some one)
    (restarts : one.call.restarts) :
    RepeatsOnce asks n one (computation.run script) (computation.run (script.interrupted n)) := by
  obtain ⟨before, told, after, split, rfl, call⟩ := exists_split_of_getElem? asked
  obtain ⟨repeated, again, run⟩ := (outlasts script).within split call restarts
  rw [run]
  exact ⟨rfl, rfl, before, repeated, told, after, split, rfl, rfl, call, again⟩

theorem RepeatsOnce.same {n : Nat} {one : Asked} {calm hit : Ran ω Script α}
    (repeats : RepeatsOnce asks n one calm hit) : SameButForSignals asks calm hit := by
  obtain ⟨before, repeated, told, after, first, second, _, call, again⟩ := repeats.record
  have asked : hit.record.filterMap asks =
      before.filterMap asks ++ one.cutShort :: (told :: after).filterMap asks := by
    rw [second, List.filterMap_append, List.filterMap_cons_some again]
  have calmly : calm.record.filterMap asks =
      before.filterMap asks ++ (told :: after).filterMap asks := by
    rw [first, List.filterMap_append]
  refine ⟨repeats.value, repeats.state, ?_, ?_, ?_, ?_⟩
  · rw [first, second, List.filter_append, List.filter_append,
      List.filter_cons_of_neg (by simp [again])]
  · rw [asked, calmly, List.filter_append, List.filter_append,
      List.filter_cons_of_neg (by simp [Asked.errno?_cutShort])]
  · rw [asked, calmly, List.filterMap_append, List.filterMap_append,
      List.filterMap_cons_none one.opened?_cutShort]
  · rw [asked, calmly, List.filterMap_append, List.filterMap_append,
      List.filterMap_cons_none one.written?_cutShort]

theorem SameButForSignals.trans {calm between hit : Ran ω Script α}
    (first : SameButForSignals asks calm between) (second : SameButForSignals asks between hit) :
    SameButForSignals asks calm hit where
  value := second.value.trans first.value
  state := second.state.trans first.state
  told := second.told.trans first.told
  answers := second.answers.trans first.answers
  descriptors := second.descriptors.trans first.descriptors
  bytes := second.bytes.trans first.bytes

theorem IgnoresSignals.of_outlasts (outlasts : ∀ script, computation.Outlasts asks script) :
    computation.IgnoresSignals asks := by
  refine ⟨fun script n one asked restarts => .of_outlasts outlasts asked restarts, ?_⟩
  intro calm hit signalled
  induction signalled with
  | calm => exact ⟨rfl, rfl, rfl, rfl, rfl, rfl⟩
  | hit _ asked restarts ih => exact ih.trans (RepeatsOnce.of_outlasts outlasts asked restarts).same

end Recorded

/-- Seeding, each scenario, the listing check and whole runs take no notice of signals at the calls
that are made again: with any number of them they return the same, say the same, are handed the same
numbers and write the same bytes. -/
theorem signals_invisible :
    (∀ directory, (Fixture.seed directory).run.IgnoresSignals Event.asked?) ∧
    (∀ trigger base privileges,
      (Scenario.exercise trigger base privileges).run.IgnoresSignals Event.asked?) ∧
    (∀ target entry limit,
      (Scenario.Enumeration.run target entry limit).run.IgnoresSignals Event.asked?) ∧
    ∀ host plan, (Suite.conduct host plan).IgnoresSignals Progress.asked? := by
  refine ⟨fun directory => ?_, fun trigger base privileges => ?_, fun target entry limit => ?_,
    fun host plan => ?_⟩
  · have composed : (Fixture.seed (σ := Script) directory).Composed (Call.Names fun _ => True) :=
      Fixture.composed_seed fun _ _ => trivial
    exact .of_outlasts composed.outlasts
  · have composed : (Scenario.exercise (σ := Script) trigger base privileges).Composed
        (Call.Names fun _ => True) :=
      Scenario.composed_exercise privileges trivial fun _ _ _ _ => trivial
    exact .of_outlasts composed.outlasts
  · have composed : (Scenario.Enumeration.run (σ := Script) target entry limit).Composed
        (Call.Observes fun _ => True) :=
      Scenario.Enumeration.composed_run limit trivial trivial
    exact .of_outlasts composed.outlasts
  · exact .of_outlasts (Suite.composed_conduct host plan).outlasts

/-- A signal between the two parts of a write: what is left of the bytes is offered once more. -/
example :
    let script : Script := ⟨[.grant {}, .grant {}, .grant {}, .grant { taken := some 3 }], 1000⟩
    let asked := Trace.asked ((Scenario.exercise .contentWrite "/lower" ⟨0, true, true⟩).exec
      (script.interrupted 4)).record
    asked[4]?.map Asked.cutShort = asked[4]? ∧
      (asked.map Asked.call).take 6 = [
        .stat "/lower/copyup_write_test.txt",
        .stat "/lower/copyup_write_test.txt",
        .openFile "/lower/copyup_write_test.txt" { access := .writeOnly, append := true },
        .write 1000 (.ofText " appended data"),
        .write 1000 (.ofText "pended data"),
        .write 1000 (.ofText "pended data")] :=
  ⟨rfl, rfl⟩

end CopyUp
