import CopyUp.Proofs.Asked

/-!
# What attempts ensure

An attempt ensures a relation between its result and its asked calls if the relation holds over
every kernel, whatever it answers. The rules below follow the ways in which attempts are built; a
law about a scenario is proved by them from the laws about its single operations.
-/

namespace CopyUp

/-- The calls are answered by the kernel, one after another. -/
inductive Served {σ : Type} [Kernel σ] : σ → List Asked → σ → Prop
  | nil {kernel : σ} : Served kernel [] kernel
  | cons {purpose : Purpose} {call : Call} {kernel after : σ} {rest : List Asked}
      (later : Served (Kernel.answer call kernel).2 rest after) :
      Served kernel (⟨purpose, ⟨call, (Kernel.answer call kernel).1⟩⟩ :: rest) after

namespace Served

variable {σ : Type} [Kernel σ] {kernel between after : σ} {first second : List Asked}

theorem trans (left : Served kernel first between) (right : Served between second after) :
    Served kernel (first ++ second) after := by
  induction left with
  | nil => exact right
  | cons _ ih => exact .cons (ih right)

theorem exists_between (served : Served kernel (first ++ second) after) :
    ∃ between, Served kernel first between ∧ Served between second after := by
  induction first generalizing kernel with
  | nil => exact ⟨kernel, .nil, served⟩
  | cons one rest ih =>
      cases served with
      | cons later =>
          obtain ⟨between, left, right⟩ := ih later
          exact ⟨between, .cons left, right⟩

theorem single (purpose : Purpose) (call : Call) (kernel : σ) :
    Served kernel [⟨purpose, ⟨call, (Kernel.answer call kernel).1⟩⟩]
      (Kernel.answer call kernel).2 :=
  .cons .nil

end Served

namespace Attempt

variable {σ ε δ α β : Type}

/-- The result is fixed, and nothing is asked on the way to it. -/
def Silent (attempt : Attempt σ ε α) (result : Except ε α) : Prop :=
  ∀ kernel, (attempt.exec kernel).value = result ∧ (attempt.exec kernel).state = kernel ∧
    Trace.asked (attempt.exec kernel).record = []

namespace Silent

protected theorem pure (value : α) : (pure value : Attempt σ ε α).Silent (.ok value) :=
  fun _ => ⟨rfl, rfl, rfl⟩

protected theorem throw (error : ε) : (throw error : Attempt σ ε α).Silent (.error error) :=
  fun _ => ⟨rfl, rfl, rfl⟩

theorem after_log {attempt : Attempt σ ε α} {result : Except ε α} (silent : attempt.Silent result)
    (severity : Severity) (text : String) :
    (log severity text >>= fun _ => attempt).Silent result := by
  intro kernel
  obtain ⟨same, kept, none⟩ := silent kernel
  rw [exec_bind, exec_log]
  exact ⟨same, kept, by simpa using none⟩

protected theorem log (severity : Severity) (text : String) :
    (log severity text : Attempt σ ε Unit).Silent (.ok ()) :=
  fun _ => ⟨rfl, rfl, rfl⟩

end Silent

variable [Kernel σ]

/-- Over every kernel the calls are the ones that it answers, and the result and the asked calls are
related. -/
structure Ensures (attempt : Attempt σ ε α) (post : Except ε α → List Asked → Prop) : Prop where
  post : ∀ kernel, post (attempt.exec kernel).value (Trace.asked (attempt.exec kernel).record)
  served : ∀ kernel,
    Served kernel (Trace.asked (attempt.exec kernel).record) (attempt.exec kernel).state

namespace Ensures

variable {attempt : Attempt σ ε α} {post weaker : Except ε α → List Asked → Prop}

theorem mono (ensured : attempt.Ensures post)
    (implies : ∀ result asked, post result asked → weaker result asked) :
    attempt.Ensures weaker :=
  ⟨fun kernel => implies _ _ (ensured.post kernel), ensured.served⟩

protected theorem pure {value : α} (holds : post (.ok value) []) :
    (pure value : Attempt σ ε α).Ensures post :=
  ⟨fun _ => holds, fun _ => .nil⟩

protected theorem throw {error : ε} (holds : post (.error error) []) :
    (throw error : Attempt σ ε α).Ensures post :=
  ⟨fun _ => holds, fun _ => .nil⟩

protected theorem conclude {result : Except ε α} (holds : post result []) :
    (conclude result : Attempt σ ε α).Ensures post :=
  ⟨fun _ => holds, fun _ => .nil⟩

protected theorem log {severity : Severity} {text : String}
    {post : Except ε Unit → List Asked → Prop} (holds : post (.ok ()) []) :
    (log severity text : Attempt σ ε Unit).Ensures post :=
  ⟨fun _ => holds, fun _ => .nil⟩

/-- An error ends the attempt with what was asked so far; after a value more may be asked. -/
protected theorem bind {next : α → Attempt σ ε β} {after : Except ε β → List Asked → Prop}
    (first : attempt.Ensures post)
    (stops : ∀ error asked, post (.error error) asked → after (.error error) asked)
    (goes : ∀ value asked, post (.ok value) asked →
      (next value).Ensures fun result more => after result (asked ++ more)) :
    (attempt >>= next).Ensures after := by
  constructor <;> intro kernel
  · have holds := first.post kernel
    rw [exec_bind]
    rcases ran : attempt.exec kernel with ⟨error | value, reached, trace⟩ <;> rw [ran] at holds
    · exact stops error _ holds
    · simpa using (goes value _ holds).post reached
  · have holds := first.post kernel
    have served := first.served kernel
    rw [exec_bind]
    rcases ran : attempt.exec kernel with ⟨error | value, reached, trace⟩ <;>
      rw [ran] at holds served
    · exact served
    · simpa using served.trans ((goes value _ holds).served reached)

protected theorem map {f : α → β} {after : Except ε β → List Asked → Prop}
    (ensured : attempt.Ensures fun result asked => after (f <$> result) asked) :
    (f <$> attempt).Ensures after := by
  constructor <;> intro kernel
  · simpa using ensured.post kernel
  · simpa using ensured.served kernel

protected theorem discard {after : Except ε PUnit → List Asked → Prop}
    (ensured : attempt.Ensures fun result asked => after ((fun _ => ⟨⟩) <$> result) asked) :
    (discard attempt).Ensures after :=
  Ensures.map ensured

protected theorem explain {translate : ε → δ} {after : Except δ α → List Asked → Prop}
    (ensured : attempt.Ensures fun result asked => after (result.mapError translate) asked) :
    (attempt.explain translate).Ensures after := by
  constructor <;> intro kernel
  · simpa using ensured.post kernel
  · simpa using ensured.served kernel

/-- After an attempt whose result is kept as a value there is only one way on. -/
theorem bind_settle {next : Except ε α → Attempt σ δ β} {after : Except δ β → List Asked → Prop}
    (goes : attempt.Ensures fun result asked =>
      (next result).Ensures fun final more => after final (asked ++ more)) :
    (attempt.settle >>= next).Ensures after := by
  constructor <;> intro kernel
  · rw [exec_bind, exec_settle]
    simpa using (goes.post kernel).post (attempt.exec kernel).state
  · rw [exec_bind, exec_settle]
    simpa using (goes.served kernel).trans ((goes.post kernel).served (attempt.exec kernel).state)

end Ensures

/-! ## Attempts that ask nothing, or one call -/

protected theorem Silent.ensures {attempt : Attempt σ ε α} {result : Except ε α}
    (silent : attempt.Silent result) :
    attempt.Ensures fun value asked => value = result ∧ asked = [] := by
  refine ⟨fun kernel => ⟨(silent kernel).1, (silent kernel).2.2⟩, fun kernel => ?_⟩
  rw [(silent kernel).2.1, (silent kernel).2.2]
  exact .nil

theorem Silent.ensures_of {attempt : Attempt σ ε α} {result : Except ε α}
    {post : Except ε α → List Asked → Prop} (silent : attempt.Silent result)
    (holds : post result []) : attempt.Ensures post := by
  refine silent.ensures.mono fun value asked told => ?_
  rw [told.1, told.2]
  exact holds

/-- One call is asked, and its answer alone makes the result. -/
def AsksOnce (attempt : Attempt σ ε α) (purpose : Purpose) (call : Call)
    (outcome : Except Errno call.Reply → Except ε α) : Prop :=
  ∀ kernel, (attempt.exec kernel).value = outcome (Kernel.answer call kernel).1 ∧
    (attempt.exec kernel).state = (Kernel.answer call kernel).2 ∧
    Trace.asked (attempt.exec kernel).record = [⟨purpose, ⟨call, (Kernel.answer call kernel).1⟩⟩]

namespace AsksOnce

variable {attempt : Attempt σ ε α} {purpose : Purpose} {call : Call}
  {outcome : Except Errno call.Reply → Except ε α}

protected theorem ensures (asks : attempt.AsksOnce purpose call outcome) :
    attempt.Ensures fun result asked =>
      ∃ reply, result = outcome reply ∧ asked = [⟨purpose, ⟨call, reply⟩⟩] := by
  refine ⟨fun kernel => ⟨_, (asks kernel).1, (asks kernel).2.2⟩, fun kernel => ?_⟩
  rw [(asks kernel).2.1, (asks kernel).2.2]
  exact .single purpose call kernel

/-- What is ensured is judged answer by answer. -/
theorem ensures_each {post : Except ε α → List Asked → Prop}
    (asks : attempt.AsksOnce purpose call outcome)
    (each : ∀ reply, post (outcome reply) [⟨purpose, ⟨call, reply⟩⟩]) : attempt.Ensures post := by
  refine asks.ensures.mono fun result asked told => ?_
  obtain ⟨reply, rfl, rfl⟩ := told
  exact each reply

/-- The answer decides whether more is asked. -/
theorem ensures_bind {next : α → Attempt σ ε β} {post : Except ε β → List Asked → Prop}
    (asks : attempt.AsksOnce purpose call outcome)
    (stops : ∀ reply error, outcome reply = .error error →
      post (.error error) [⟨purpose, ⟨call, reply⟩⟩])
    (goes : ∀ reply value, outcome reply = .ok value → (next value).Ensures
      fun result more => post result (⟨purpose, ⟨call, reply⟩⟩ :: more)) :
    (attempt >>= next).Ensures post := by
  refine asks.ensures.bind ?_ ?_
  · intro error asked told
    obtain ⟨reply, same, rfl⟩ := told
    exact stops reply error same.symm
  · intro value asked told
    obtain ⟨reply, same, rfl⟩ := told
    exact goes reply value same.symm

theorem congr {other : Except Errno call.Reply → Except ε α}
    (asks : attempt.AsksOnce purpose call outcome) (same : ∀ reply, outcome reply = other reply) :
    attempt.AsksOnce purpose call other :=
  funext same ▸ asks

/-- What is done with the value may ask nothing more. -/
protected theorem bind {next : α → Attempt σ ε β} (judgement : α → Except ε β)
    (asks : attempt.AsksOnce purpose call outcome)
    (silent : ∀ value, (next value).Silent (judgement value)) :
    (attempt >>= next).AsksOnce purpose call fun reply => outcome reply >>= judgement := by
  intro kernel
  obtain ⟨same, kept, once⟩ := asks kernel
  rw [exec_bind]
  rcases ran : attempt.exec kernel with ⟨error | value, reached, trace⟩ <;>
    simp only [ran, ← same] at same kept once ⊢
  · exact ⟨rfl, kept, once⟩
  · obtain ⟨judged, stayed, none⟩ := silent value reached
    exact ⟨judged, stayed.trans kept, by simpa [none] using once⟩

/-- What is done with a result that is kept as a value may ask nothing more. -/
theorem bind_settle {next : Except ε α → Attempt σ δ β} (judgement : Except ε α → Except δ β)
    (asks : attempt.AsksOnce purpose call outcome)
    (silent : ∀ result, (next result).Silent (judgement result)) :
    (attempt.settle >>= next).AsksOnce purpose call fun reply => judgement (outcome reply) := by
  intro kernel
  have ⟨same, kept, once⟩ := asks kernel
  have ⟨judged, stayed, quiet⟩ := silent (attempt.exec kernel).value (attempt.exec kernel).state
  rw [exec_bind, exec_settle]
  exact ⟨judged.trans (congrArg judgement same), stayed.trans kept, by simp [quiet, once]⟩

protected theorem map (f : α → β) (asks : attempt.AsksOnce purpose call outcome) :
    (f <$> attempt).AsksOnce purpose call fun reply => (outcome reply).map f := by
  intro kernel
  obtain ⟨same, kept, once⟩ := asks kernel
  rw [exec_map, same]
  exact ⟨rfl, kept, once⟩

protected theorem discard (asks : attempt.AsksOnce purpose call outcome) :
    (discard attempt).AsksOnce purpose call fun reply => (outcome reply).map fun _ => ⟨⟩ :=
  asks.map _

protected theorem explain (translate : ε → δ) (asks : attempt.AsksOnce purpose call outcome) :
    (attempt.explain translate).AsksOnce purpose call
      fun reply => (outcome reply).mapError translate := by
  intro kernel
  obtain ⟨same, kept, once⟩ := asks kernel
  rw [exec_explain, same]
  exact ⟨rfl, kept, once⟩

end AsksOnce

end Attempt

end CopyUp
