import CopyUp.Session

/-!
# Asked calls

What a trace holds beside its log lines: the calls in the order in which they were made, each with
its purpose and its answer. Every law about what a run did to the file system is stated on this
list.
-/

namespace CopyUp

/-- Whatever stands between two parts of a joined list is in the second list or in the first. -/
theorem split_append {α : Type} {left right first rest : List α} {one : α}
    (split : left ++ right = first ++ one :: rest) :
    (∃ between, first = left ++ between ∧ right = between ++ one :: rest) ∨
      ∃ between, left = first ++ one :: between ∧ rest = between ++ right := by
  rcases List.append_eq_append_iff.1 split with ⟨between, same, others⟩ | ⟨between, same, others⟩
  · exact .inl ⟨between, same, others⟩
  · cases between with
    | nil => exact .inl ⟨[], by simp [same], others.symm⟩
    | cons head between =>
        cases others
        exact .inr ⟨between, same, rfl⟩

theorem split_singleton {α : Type} {only one : α} {first rest : List α}
    (split : [only] = first ++ one :: rest) : first = [] ∧ one = only ∧ rest = [] := by
  cases first with
  | nil =>
      cases split
      exact ⟨rfl, rfl, rfl⟩
  | cons => simp at split

/-- What a property holds of first stands at one place only. -/
theorem split_first {α : Type} {holds : α → Prop} {left right first rest : List α} {one other : α}
    (same : left ++ one :: right = first ++ other :: rest) (before : ∀ item ∈ left, ¬ holds item)
    (here : holds one) (earlier : ∀ item ∈ first, ¬ holds item) (there : holds other) :
    left = first ∧ one = other := by
  rcases split_append same with ⟨between, split, behind⟩ | ⟨between, split, _⟩
  · cases between with
    | nil =>
        rw [List.append_nil] at split
        exact ⟨split.symm, (List.cons.inj behind).1⟩
    | cons head tail =>
        cases (List.cons.inj behind).1
        exact absurd here (earlier one (by simp [split]))
  · exact absurd there (before other (by simp [split]))

/-- A question about a name: about the file that it leads to, or about the name itself. -/
inductive Query
  | stat
  | lstat

namespace Query

def name : Query → String
  | stat => "stat"
  | lstat => "lstat"

def exchange (query : Query) (path : Path) (reply : Except Errno Metadata) : Exchange :=
  match query with
  | stat => ⟨.stat path, reply⟩
  | lstat => ⟨.lstat path, reply⟩

end Query

/-- A call that was made for a purpose, with its answer. -/
structure Asked where
  purpose : Purpose
  exchange : Exchange

namespace Asked

def call (asked : Asked) : Call := asked.exchange.call

def errno? (asked : Asked) : Option Errno := asked.exchange.errno?

def metadata? (asked : Asked) : Option Metadata :=
  match asked.exchange with
  | ⟨.stat _, .ok metadata⟩ => some metadata
  | ⟨.lstat _, .ok metadata⟩ => some metadata
  | ⟨.fstat _, .ok metadata⟩ => some metadata
  | _ => none

def taken? (asked : Asked) : Option Nat :=
  match asked.exchange with
  | ⟨.write .., .ok count⟩ => some count
  | ⟨.pwrite .., .ok count⟩ => some count
  | _ => none

def opened? (asked : Asked) : Option Descriptor :=
  match asked.exchange with
  | ⟨.openFile .., .ok fd⟩ => some fd
  | ⟨.dup .., .ok fd⟩ => some fd
  | _ => none

def closed? (asked : Asked) : Option Descriptor :=
  match asked.call with
  | .close fd => some fd
  | _ => none

def firstIdentity? (asked : List Asked) : Option Identity :=
  (asked.head?.bind metadata?).map Metadata.identity

end Asked

def Event.asked? : Event → Option Asked
  | .exchange purpose answered => some ⟨purpose, answered⟩
  | .log _ => none

def Trace.asked (trace : Trace) : List Asked := trace.filterMap Event.asked?

namespace Trace

@[simp] theorem asked_nil : asked [] = [] := rfl

@[simp] theorem asked_append (first second : Trace) :
    asked (first ++ second) = asked first ++ asked second :=
  List.filterMap_append

@[simp] theorem asked_exchange (purpose : Purpose) (exchange : Exchange) (rest : Trace) :
    asked (.exchange purpose exchange :: rest) = ⟨purpose, exchange⟩ :: asked rest := rfl

@[simp] theorem asked_log (line : LogLine) (rest : Trace) :
    asked (.log line :: rest) = asked rest := rfl

theorem map_exchange_asked (trace : Trace) :
    trace.asked.map Asked.exchange = trace.exchanges := by
  simp only [asked, exchanges, List.map_filterMap]
  congr 1
  funext event
  cases event <;> rfl

end Trace

/-- What one call leaves behind: the attempts that were interrupted, if its kind outlasts
interruptions, and then the answer. -/
inductive Answered (purpose : Purpose) (call : Call) (reply : Except Errno call.Reply) :
    List Asked → Prop
  | once (settled : call.restarts → reply ≠ .error .eintr) :
      Answered purpose call reply [⟨purpose, ⟨call, reply⟩⟩]
  | again {rest : List Asked} (restarts : call.restarts)
      (later : Answered purpose call reply rest) :
      Answered purpose call reply (⟨purpose, ⟨call, .error .eintr⟩⟩ :: rest)

namespace Answered

variable {purpose : Purpose} {call : Call} {reply : Except Errno call.Reply} {asked : List Asked}

theorem eq_of_not_restarts (answered : Answered purpose call reply asked)
    (plain : ¬ call.restarts) : asked = [⟨purpose, ⟨call, reply⟩⟩] := by
  cases answered with
  | once => rfl
  | again restarts => exact absurd restarts plain

theorem settled (answered : Answered purpose call reply asked) :
    call.restarts → reply ≠ .error .eintr := by
  induction answered with
  | once settled => exact settled
  | again _ _ ih => exact ih

/-- Every attempt is made for the purpose of the call and is that call. -/
theorem same (answered : Answered purpose call reply asked) {one : Asked} (member : one ∈ asked) :
    one.purpose = purpose ∧ one.call = call := by
  induction answered with
  | once => cases List.mem_singleton.1 member; exact ⟨rfl, rfl⟩
  | again _ _ ih =>
      rcases List.mem_cons.1 member with rfl | later
      · exact ⟨rfl, rfl⟩
      · exact ih later

/-- The answer comes last, after interruptions only. -/
theorem exists_eq_append (answered : Answered purpose call reply asked) :
    ∃ interrupted : List Asked, asked = interrupted ++ [⟨purpose, ⟨call, reply⟩⟩] ∧
      ∀ earlier ∈ interrupted, earlier = ⟨purpose, ⟨call, .error .eintr⟩⟩ := by
  induction answered with
  | once => exact ⟨[], rfl, by simp⟩
  | again _ _ ih =>
      obtain ⟨interrupted, rfl, alike⟩ := ih
      exact ⟨_ :: interrupted, rfl, by simpa using alike⟩

end Answered

namespace Session

variable {σ : Type} [Kernel σ]

/-- As long as the kernel's patience is within the bound, the last answer is no interruption. -/
theorem answered_askWithin (purpose : Purpose) {call : Call} (restarts : call.restarts)
    {more : Nat} {kernel : σ} (enough : Kernel.patience kernel ≤ more) :
    Answered purpose call ((askWithin purpose call more).run kernel).value
      (Trace.asked ((askWithin purpose call more).run kernel).record) := by
  induction more generalizing kernel with
  | zero =>
      show Answered purpose call (Kernel.answer call kernel).1 _
      refine .once fun _ again => ?_
      have less := Kernel.patience_lt_of_interrupted again
      omega
  | succ more ih =>
      rw [run_askWithin_succ]
      by_cases again : interrupted (Kernel.answer call kernel).1
      · have eintr := interrupted_iff.1 again
        have less := Kernel.patience_lt_of_interrupted eintr
        simp only [run_ask, eintr]
        exact .again restarts (ih (by omega))
      · have settled := fun eintr => again (interrupted_iff.2 eintr)
        simp only [run_ask, again, if_false, Bool.false_eq_true]
        exact .once fun _ => settled

theorem answered_perform (purpose : Purpose) (call : Call) (kernel : σ) :
    Answered purpose call ((perform purpose call).run kernel).value
      (Trace.asked ((perform purpose call).run kernel).record) := by
  by_cases restarts : call.restarts
  · rw [perform_of_restarts purpose restarts]
    exact answered_askWithin purpose restarts (Nat.le_refl _)
  · rw [perform_of_not_restarts purpose restarts]
    show Answered purpose call (Kernel.answer call kernel).1 _
    exact .once fun forced => absurd forced restarts

end Session

end CopyUp
