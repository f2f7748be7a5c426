/-!
# Recorded computations

A recorded computation works on a state and leaves a record. Running it yields its value, the state
afterwards and what was recorded on the way; records of consecutive computations are joined, and
nothing recorded is ever taken back.
-/

namespace CopyUp

/-- What a computation leaves behind. -/
structure Ran (ω σ α : Type) where
  value : α
  state : σ
  record : List ω

def Recorded (ω σ α : Type) := σ → Ran ω σ α

namespace Recorded

variable {ω σ α β : Type}

def run (computation : Recorded ω σ α) (state : σ) : Ran ω σ α := computation state

instance : Monad (Recorded ω σ) where
  pure value := fun state => ⟨value, state, []⟩
  bind computation next := fun state =>
    let first := computation state
    let second := next first.value first.state
    ⟨second.value, second.state, first.record ++ second.record⟩

@[ext] theorem ext {first second : Recorded ω σ α}
    (same : ∀ state, first.run state = second.run state) : first = second :=
  funext same

@[simp] theorem run_pure (value : α) (state : σ) :
    (pure value : Recorded ω σ α).run state = ⟨value, state, []⟩ := rfl

theorem run_bind (computation : Recorded ω σ α) (next : α → Recorded ω σ β) (state : σ) :
    (computation >>= next).run state =
      let first := computation.run state
      let second := (next first.value).run first.state
      ⟨second.value, second.state, first.record ++ second.record⟩ := rfl

@[simp] theorem value_bind (computation : Recorded ω σ α) (next : α → Recorded ω σ β) (state : σ) :
    ((computation >>= next).run state).value =
      ((next (computation.run state).value).run (computation.run state).state).value := rfl

@[simp] theorem state_bind (computation : Recorded ω σ α) (next : α → Recorded ω σ β) (state : σ) :
    ((computation >>= next).run state).state =
      ((next (computation.run state).value).run (computation.run state).state).state := rfl

@[simp] theorem record_bind (computation : Recorded ω σ α) (next : α → Recorded ω σ β)
    (state : σ) :
    ((computation >>= next).run state).record =
      (computation.run state).record ++
        ((next (computation.run state).value).run (computation.run state).state).record := rfl

@[simp] theorem run_map (f : α → β) (computation : Recorded ω σ α) (state : σ) :
    (f <$> computation).run state =
      ⟨f (computation.run state).value, (computation.run state).state,
        (computation.run state).record⟩ :=
  congrArg (Ran.mk _ _) (List.append_nil _)

instance : LawfulMonad (Recorded ω σ) :=
  LawfulMonad.mk' (Recorded ω σ)
    (fun computation => by ext state; simp)
    (fun value next => by ext state; simp [run_bind])
    (fun first second third => by ext state; simp [run_bind, List.append_assoc])

/-- Records one thing. -/
def tell (entry : ω) : Recorded ω σ Unit := fun state => ⟨(), state, [entry]⟩

@[simp] theorem run_tell (entry : ω) (state : σ) :
    (tell entry : Recorded ω σ Unit).run state = ⟨(), state, [entry]⟩ := rfl

/-- Records in other terms. -/
def mapRecord {ψ : Type} (translate : ω → ψ) (computation : Recorded ω σ α) : Recorded ψ σ α :=
  fun state =>
    let ran := computation state
    ⟨ran.value, ran.state, ran.record.map translate⟩

@[simp] theorem run_mapRecord {ψ : Type} (translate : ω → ψ) (computation : Recorded ω σ α)
    (state : σ) :
    (computation.mapRecord translate).run state =
      ⟨(computation.run state).value, (computation.run state).state,
        (computation.run state).record.map translate⟩ := rfl

end Recorded

end CopyUp
