import CopyUp.FileSystem
import Mathlib.Data.List.Forall2

/-!
# Lockstep

Two computations run in lockstep if from any state they come to values that match, leave the same
state behind and put entries on record that match one by one. The rules below follow the ways in
which computations are built, so that two whole runs are compared only where they differ.
-/

namespace CopyUp

/-- The same state is left behind, and values and records match. -/
structure Ran.Matches {ω σ α β : Type} (entries : ω → ω → Prop) (values : α → β → Prop)
    (one : Ran ω σ α) (other : Ran ω σ β) : Prop where
  value : values one.value other.value
  state : one.state = other.state
  record : List.Forall₂ entries one.record other.record

namespace Recorded

variable {ω ψ σ α β γ δ : Type} {entries : ω → ω → Prop} {values : α → β → Prop}
  {first : Recorded ω σ α} {second : Recorded ω σ β}

def Lockstep (entries : ω → ω → Prop) (values : α → β → Prop) (first : Recorded ω σ α)
    (second : Recorded ω σ β) : Prop :=
  ∀ state, (first.run state).Matches entries values (second.run state)

namespace Lockstep

protected theorem refl (same : ∀ entry, entries entry entry) (computation : Recorded ω σ α) :
    computation.Lockstep entries Eq computation :=
  fun _ => ⟨rfl, rfl, List.forall₂_same.2 fun entry _ => same entry⟩

theorem mono {wider : ω → ω → Prop} {others : α → β → Prop}
    (lockstep : first.Lockstep entries values second)
    (records : ∀ one other, entries one other → wider one other)
    (results : ∀ one other, values one other → others one other) :
    first.Lockstep wider others second := by
  intro state
  have matched := lockstep state
  exact ⟨results _ _ matched.value, matched.state, matched.record.imp records⟩

protected theorem pure {one : α} {other : β} (same : values one other) :
    (pure one : Recorded ω σ α).Lockstep entries values (pure other) :=
  fun _ => ⟨same, rfl, .nil⟩

protected theorem tell {one other : ω} (same : entries one other) :
    (tell one : Recorded ω σ Unit).Lockstep entries Eq (tell other) :=
  fun _ => ⟨rfl, rfl, .cons same .nil⟩

/-- Matching values are gone on with in lockstep. -/
protected theorem bind {further : γ → δ → Prop} {next : α → Recorded ω σ γ}
    {follow : β → Recorded ω σ δ} (begins : first.Lockstep entries values second)
    (goes : ∀ one other, values one other →
      (next one).Lockstep entries further (follow other)) :
    (first >>= next).Lockstep entries further (second >>= follow) := by
  intro state
  have front := begins state
  have back := goes _ _ front.value (first.run state).state
  have both : ((follow (second.run state).value).run (first.run state).state) =
      (follow (second.run state).value).run (second.run state).state := by
    rw [front.state]
  rw [both] at back
  exact ⟨back.value, back.state, List.rel_append front.record back.record⟩

protected theorem map {further : γ → δ → Prop} {f : α → γ} {g : β → δ}
    (lockstep : first.Lockstep entries values second)
    (results : ∀ one other, values one other → further (f one) (g other)) :
    (f <$> first).Lockstep entries further (g <$> second) := by
  intro state
  have matched := lockstep state
  rw [run_map, run_map]
  exact ⟨results _ _ matched.value, matched.state, matched.record⟩

protected theorem mapRecord {shown : ψ → ψ → Prop} {translate : ω → ψ}
    (lockstep : first.Lockstep entries values second)
    (records : ∀ one other, entries one other → shown (translate one) (translate other)) :
    (first.mapRecord translate).Lockstep shown values (second.mapRecord translate) := by
  intro state
  have matched := lockstep state
  refine ⟨matched.value, matched.state, ?_⟩
  rw [run_mapRecord, run_mapRecord, List.forall₂_map_left_iff, List.forall₂_map_right_iff]
  exact matched.record.imp records

end Lockstep

end Recorded

/-! ## Attempts -/

inductive Matched {ε δ α β : Type} (errors : ε → δ → Prop) (values : α → β → Prop) :
    Except ε α → Except δ β → Prop
  | error {one : ε} {other : δ} (same : errors one other) :
      Matched errors values (.error one) (.error other)
  | ok {one : α} {other : β} (same : values one other) :
      Matched errors values (.ok one) (.ok other)

theorem Matched.refl {ε α : Type} {errors : ε → ε → Prop} (same : ∀ error, errors error error)
    (result : Except ε α) : Matched errors Eq result result := by
  cases result with
  | error error => exact .error (same error)
  | ok value => exact .ok rfl

namespace Attempt

variable {σ ε δ α β γ κ : Type} {entries : Event → Event → Prop}

def Lockstep (entries : Event → Event → Prop) (errors : ε → δ → Prop) (values : α → β → Prop)
    (first : Attempt σ ε α) (second : Attempt σ δ β) : Prop :=
  first.run.Lockstep entries (Matched errors values) second.run

namespace Lockstep

section

variable {errors : ε → δ → Prop} {values : α → β → Prop} {first : Attempt σ ε α}
  {second : Attempt σ δ β}

protected theorem pure {one : α} {other : β} (same : values one other) :
    (pure one : Attempt σ ε α).Lockstep entries errors values (pure other : Attempt σ δ β) :=
  Recorded.Lockstep.pure (.ok same)

protected theorem throw {one : ε} {other : δ} (same : errors one other) :
    (throw one : Attempt σ ε α).Lockstep entries errors values (throw other : Attempt σ δ β) :=
  Recorded.Lockstep.pure (.error same)

protected theorem conclude {one : Except ε α} {other : Except δ β}
    (same : Matched errors values one other) :
    (conclude one).Lockstep (σ := σ) entries errors values (conclude other) :=
  Recorded.Lockstep.pure same

protected theorem log {severity : Severity} {one other : String}
    (same : entries (.log ⟨severity, one⟩) (.log ⟨severity, other⟩)) :
    (log severity one : Attempt σ ε Unit).Lockstep entries errors Eq
      (log severity other : Attempt σ δ Unit) :=
  fun _ => ⟨.ok rfl, rfl, .cons same .nil⟩

protected theorem bind {further : γ → κ → Prop} {next : α → Attempt σ ε γ}
    {follow : β → Attempt σ δ κ} (begins : first.Lockstep entries errors values second)
    (goes : ∀ one other, values one other →
      (next one).Lockstep entries errors further (follow other)) :
    (first >>= next).Lockstep entries errors further (second >>= follow) := by
  unfold Lockstep
  rw [ExceptT.run_bind, ExceptT.run_bind]
  apply Recorded.Lockstep.bind begins
  intro one other matched
  cases matched with
  | error same => exact .pure (.error same)
  | ok same => exact goes _ _ same

protected theorem explain {ε' δ' : Type} {reasons : ε' → δ' → Prop} {translate : ε → ε'}
    {express : δ → δ'} (lockstep : first.Lockstep entries errors values second)
    (same : ∀ one other, errors one other → reasons (translate one) (express other)) :
    (first.explain translate).Lockstep entries reasons values (second.explain express) := by
  apply Recorded.Lockstep.map lockstep
  intro one other matched
  cases matched with
  | error alike => exact .error (same _ _ alike)
  | ok alike => exact .ok alike

/-- A result that is kept as a value matches as a value. -/
protected theorem settle {reasons : γ → κ → Prop}
    (lockstep : first.Lockstep entries errors values second) :
    (first.settle : Attempt σ γ _).Lockstep entries reasons (Matched errors values)
      (second.settle : Attempt σ κ _) :=
  Recorded.Lockstep.map lockstep fun _ _ => .ok

end

/-! ### Where both begin in the same way -/

section

variable {errors : ε → ε → Prop} {first : Attempt σ ε α}
  (still : ∀ event, entries event event) (same : ∀ error, errors error error)

include still same

protected theorem refl (attempt : Attempt σ ε α) : attempt.Lockstep entries errors Eq attempt := by
  apply (Recorded.Lockstep.refl still attempt.run).mono (fun _ _ alike => alike)
  intro one other equal
  exact equal ▸ .refl same one

theorem bind_same {further : β → γ → Prop} {next : α → Attempt σ ε β}
    {follow : α → Attempt σ ε γ}
    (goes : ∀ value, (next value).Lockstep entries errors further (follow value)) :
    (first >>= next).Lockstep entries errors further (first >>= follow) := by
  apply (Lockstep.refl still same first).bind
  intro one other equal
  exact equal ▸ goes one

/-- A file that both open is used in lockstep and released in lockstep. -/
theorem withFile [Kernel σ] {acquire : Attempt σ ε Descriptor}
    {body other : Descriptor → Attempt σ ε α}
    (used : ∀ fd, (body fd).Lockstep entries errors Eq (other fd)) :
    (FileSystem.withFile acquire body).Lockstep entries errors Eq
      (FileSystem.withFile acquire other) := by
  apply bind_same still same
  intro fd
  apply (used fd).settle.bind
  intro result answer matched
  apply bind_same still same
  intro _
  exact .conclude matched

omit still same in
theorem forM {items : List γ} {body other : γ → Attempt σ ε PUnit}
    (each : ∀ item ∈ items, (body item).Lockstep entries errors Eq (other item)) :
    (items.forM body).Lockstep entries errors Eq (items.forM other) := by
  induction items with
  | nil => exact .pure rfl
  | cons item rest ih =>
      apply (each item List.mem_cons_self).bind
      intro _ _ _
      exact ih fun later member => each later (List.mem_cons_of_mem _ member)

end

end Lockstep

end Attempt

end CopyUp
