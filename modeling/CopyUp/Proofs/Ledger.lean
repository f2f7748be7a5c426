import CopyUp.Proofs.Operations

/-!
# Ledgers of open files

A ledger says which numbers are in use. A call that works through an open file has to name one of
them, and a number that is closed goes out of use. The rules below tell how attempts move a ledger:
most leave it as it was, and a file is worked with while its number is the first on it.
-/

namespace CopyUp

/-- The numbers in use, the latest first, and the number that the last call closed on purpose. -/
structure Ledger where
  held : List Descriptor := []
  relinquished : Option Descriptor := none

namespace Ledger

def after (ledger : Ledger) (one : Asked) : Ledger where
  held :=
    match one.opened?, one.closed? with
    | some fd, _ => fd :: ledger.held
    | none, some fd => ledger.held.erase fd
    | none, none => ledger.held
  relinquished := if one.purpose = .relinquish then one.closed? else none

/-- The number that a call works through is in use. Where probing is allowed the call may also be
the probe of a number that was closed for it just before. -/
def Allows (probing : Bool) (ledger : Ledger) (one : Asked) : Prop :=
  ∀ fd, one.call.descriptor? = some fd → fd ∈ ledger.held ∨
    (probing = true ∧ one.purpose = .probe ∧ ledger.relinquished = some fd ∧
      ∃ capacity, one.call = .getdents64 fd capacity)

/-- All calls are allowed, one after another. -/
def Accepts (probing : Bool) : Ledger → List Asked → Prop
  | _, [] => True
  | ledger, one :: rest => ledger.Allows probing one ∧ (ledger.after one).Accepts probing rest

def afterAll (ledger : Ledger) (asked : List Asked) : Ledger := asked.foldl after ledger

@[simp] theorem afterAll_nil (ledger : Ledger) : ledger.afterAll [] = ledger := rfl

@[simp] theorem afterAll_cons (ledger : Ledger) (one : Asked) (rest : List Asked) :
    ledger.afterAll (one :: rest) = (ledger.after one).afterAll rest := rfl

@[simp] theorem afterAll_append (ledger : Ledger) (first second : List Asked) :
    ledger.afterAll (first ++ second) = (ledger.afterAll first).afterAll second :=
  List.foldl_append

theorem accepts_append {probing : Bool} {ledger : Ledger} {first second : List Asked} :
    ledger.Accepts probing (first ++ second) ↔
      ledger.Accepts probing first ∧ (ledger.afterAll first).Accepts probing second := by
  induction first generalizing ledger with
  | nil => simp [Accepts]
  | cons one rest ih => simp [Accepts, ih, and_assoc]

/-- Each call is allowed by the ledger that the calls before it leave. -/
theorem allows_of_split {probing : Bool} {ledger : Ledger} {before after : List Asked}
    {one : Asked} (accepts : ledger.Accepts probing (before ++ one :: after)) :
    (ledger.afterAll before).Allows probing one :=
  (accepts_append.1 accepts).2.1

theorem accepts_of_append {probing : Bool} {ledger : Ledger} {first second : List Asked}
    (accepts : ledger.Accepts probing (first ++ second)) : ledger.Accepts probing first :=
  (accepts_append.1 accepts).1

/-! ## Calls that leave the numbers as they are -/

def Quiet (ledger : Ledger) (one : Asked) : Prop :=
  one.opened? = none ∧ one.closed? = none ∧ ∀ fd, one.call.descriptor? = some fd → fd ∈ ledger.held

theorem Quiet.held {ledger : Ledger} {one : Asked} (quiet : ledger.Quiet one) :
    (ledger.after one).held = ledger.held := by
  simp only [after, quiet.1, quiet.2.1]

theorem Quiet.of_held {ledger other : Ledger} {one : Asked} (quiet : ledger.Quiet one)
    (same : other.held = ledger.held) : other.Quiet one :=
  ⟨quiet.1, quiet.2.1, fun fd through => same ▸ quiet.2.2 fd through⟩

theorem accepts_of_quiet {probing : Bool} {ledger : Ledger} {asked : List Asked}
    (quiet : ∀ one ∈ asked, ledger.Quiet one) :
    ledger.Accepts probing asked ∧ (ledger.afterAll asked).held = ledger.held := by
  induction asked generalizing ledger with
  | nil => exact ⟨trivial, rfl⟩
  | cons one rest ih =>
      have first := quiet one (by simp)
      obtain ⟨accepts, same⟩ := @ih (ledger.after one) fun later member =>
        (quiet later (by simp [member])).of_held first.held
      exact ⟨⟨fun fd through => .inl (first.2.2 fd through), accepts⟩, same.trans first.held⟩

/-! ## Counting -/

def openings (fd : Descriptor) (asked : List Asked) : Nat :=
  asked.countP fun one => one.opened? = some fd

def closings (fd : Descriptor) (asked : List Asked) : Nat :=
  asked.countP fun one => one.closed? = some fd

theorem closings_append (fd : Descriptor) (first second : List Asked) :
    closings fd (first ++ second) = closings fd first + closings fd second :=
  List.countP_append

theorem descriptor?_of_closed? {one : Asked} {fd : Descriptor} (closed : one.closed? = some fd) :
    one.call.descriptor? = some fd ∧ one.opened? = none := by
  obtain ⟨purpose, call, reply⟩ := one
  cases call with
  | close other => exact ⟨closed, rfl⟩
  | _ => cases closed

theorem Allows.mem_of_closed? {probing : Bool} {ledger : Ledger} {one : Asked} {fd : Descriptor}
    (allows : ledger.Allows probing one) (closed : one.closed? = some fd) : fd ∈ ledger.held := by
  rcases allows fd (descriptor?_of_closed? closed).1 with member | ⟨_, _, _, capacity, call⟩
  · exact member
  · simp [Asked.closed?, call] at closed

theorem count_after {probing : Bool} {ledger : Ledger} {one : Asked} (fd : Descriptor)
    (allows : ledger.Allows probing one) :
    (ledger.after one).held.count fd + (if one.closed? = some fd then 1 else 0) =
      ledger.held.count fd + if one.opened? = some fd then 1 else 0 := by
  cases closed : one.closed? with
  | some gone =>
      have member := allows.mem_of_closed? closed
      have opened := (descriptor?_of_closed? closed).2
      by_cases same : gone = fd
      · subst same
        have positive := List.count_pos_iff.2 member
        simp only [after, opened, closed, List.count_erase_self, if_true, reduceCtorEq, if_false]
        omega
      · simp [after, opened, closed, List.count_erase_of_ne (Ne.symm same), same]
  | none =>
      cases opened : one.opened? with
      | some fresh => simp [after, opened, List.count_cons]
      | none => simp [after, opened, closed]

/-- Every number in use, and every number closed, was in use before or has been handed out. -/
theorem count_held {probing : Bool} {ledger : Ledger} {asked : List Asked} (fd : Descriptor)
    (accepts : ledger.Accepts probing asked) :
    (ledger.afterAll asked).held.count fd + closings fd asked =
      ledger.held.count fd + openings fd asked := by
  induction asked generalizing ledger with
  | nil => rfl
  | cons one rest ih =>
      have now := count_after fd accepts.1
      have later := ih accepts.2
      simp only [openings, closings, afterAll_cons, List.countP_cons, decide_eq_true_eq] at later ⊢
      omega

end Ledger

namespace Attempt

variable {σ ε δ α β : Type} [Kernel σ] {probing : Bool}

/-- From a ledger on all calls are allowed, and the result and the ledger that they leave are
related. -/
def Moves (probing : Bool) (attempt : Attempt σ ε α) (before : Ledger)
    (post : Except ε α → Ledger → Prop) : Prop :=
  attempt.Ensures fun result asked =>
    before.Accepts probing asked ∧ post result (before.afterAll asked)

namespace Moves

variable {attempt : Attempt σ ε α} {before : Ledger} {post weaker : Except ε α → Ledger → Prop}

theorem mono (moves : attempt.Moves probing before post)
    (implies : ∀ result ledger, post result ledger → weaker result ledger) :
    attempt.Moves probing before weaker :=
  Ensures.mono moves fun _ _ ⟨accepts, holds⟩ => ⟨accepts, implies _ _ holds⟩

protected theorem pure {value : α} (holds : post (.ok value) before) :
    (pure value : Attempt σ ε α).Moves probing before post :=
  Ensures.pure ⟨trivial, holds⟩

protected theorem throw {error : ε} (holds : post (.error error) before) :
    (throw error : Attempt σ ε α).Moves probing before post :=
  Ensures.throw ⟨trivial, holds⟩

protected theorem conclude {result : Except ε α} (holds : post result before) :
    (conclude result : Attempt σ ε α).Moves probing before post :=
  Ensures.conclude ⟨trivial, holds⟩

protected theorem bind {next : α → Attempt σ ε β} {after : Except ε β → Ledger → Prop}
    (first : attempt.Moves probing before post)
    (stops : ∀ error ledger, post (.error error) ledger → after (.error error) ledger)
    (goes : ∀ value ledger, post (.ok value) ledger → (next value).Moves probing ledger after) :
    (attempt >>= next).Moves probing before after := by
  refine Ensures.bind first ?_ ?_
  · intro error asked told
    exact ⟨told.1, stops _ _ told.2⟩
  · intro value asked told
    refine Ensures.mono (goes value _ told.2) fun result more final => ?_
    exact ⟨Ledger.accepts_append.2 ⟨told.1, final.1⟩, by simpa using final.2⟩

protected theorem explain {translate : ε → δ} {after : Except δ α → Ledger → Prop}
    (moves : attempt.Moves probing before fun result => after (result.mapError translate)) :
    (attempt.explain translate).Moves probing before after :=
  Ensures.explain moves

protected theorem discard {after : Except ε PUnit → Ledger → Prop}
    (moves : attempt.Moves probing before fun result => after ((fun _ => ⟨⟩) <$> result)) :
    (discard attempt).Moves probing before after :=
  Ensures.discard moves

protected theorem log {severity : Severity} {text : String}
    {post : Except ε Unit → Ledger → Prop} (holds : post (.ok ()) before) :
    (log severity text : Attempt σ ε Unit).Moves probing before post :=
  Ensures.log ⟨trivial, holds⟩

theorem bind_sure {next : α → Attempt σ ε β} {value : α} {between : Ledger → Prop}
    {after : Except ε β → Ledger → Prop}
    (first : attempt.Moves probing before fun result ledger => result = .ok value ∧ between ledger)
    (goes : ∀ ledger, between ledger → (next value).Moves probing ledger after) :
    (attempt >>= next).Moves probing before after := by
  refine first.bind ?_ ?_
  · intro error ledger told
    exact absurd told.1 (by simp)
  · intro other ledger told
    cases told.1
    exact goes ledger told.2

theorem bind_settle {next : Except ε α → Attempt σ δ β} {after : Except δ β → Ledger → Prop}
    (first : attempt.Moves probing before post)
    (goes : ∀ result ledger, post result ledger → (next result).Moves probing ledger after) :
    (attempt.settle >>= next).Moves probing before after := by
  refine Ensures.bind_settle (Ensures.mono first fun result asked told => ?_)
  refine Ensures.mono (goes result _ told.2) fun final more done => ?_
  exact ⟨Ledger.accepts_append.2 ⟨told.1, done.1⟩, by simpa using done.2⟩

end Moves

/-! ## Attempts that leave the ledger as it was -/

/-- As long as some numbers are in use, all calls are allowed, and the same numbers are in use
afterwards. -/
def Keeps (probing : Bool) (needs : List Descriptor) (attempt : Attempt σ ε α) : Prop :=
  ∀ ledger : Ledger, (∀ fd ∈ needs, fd ∈ ledger.held) →
    attempt.Moves probing ledger fun _ after => after.held = ledger.held

namespace Keeps

variable {needs : List Descriptor} {attempt : Attempt σ ε α}

protected theorem pure (value : α) : (pure value : Attempt σ ε α).Keeps probing needs :=
  fun _ _ => .pure rfl

protected theorem throw (error : ε) : (throw error : Attempt σ ε α).Keeps probing needs :=
  fun _ _ => .throw rfl

protected theorem conclude (result : Except ε α) :
    (conclude result : Attempt σ ε α).Keeps probing needs :=
  fun _ _ => .conclude rfl

protected theorem log (severity : Severity) (text : String) :
    (log severity text : Attempt σ ε Unit).Keeps probing needs :=
  fun _ _ => .log rfl

protected theorem bind {next : α → Attempt σ ε β} (first : attempt.Keeps probing needs)
    (rest : ∀ value, (next value).Keeps probing needs) :
    (attempt >>= next).Keeps probing needs := by
  intro ledger enough
  refine (first ledger enough).bind (fun _ _ same => same) fun value between same => ?_
  refine (rest value between (by rw [same]; exact enough)).mono fun _ _ again => ?_
  exact again.trans same

theorem bind_settle {next : Except ε α → Attempt σ δ β} (first : attempt.Keeps probing needs)
    (rest : ∀ result, (next result).Keeps probing needs) :
    (attempt.settle >>= next).Keeps probing needs := by
  intro ledger enough
  refine (first ledger enough).bind_settle fun result between same => ?_
  refine (rest result between (by rw [same]; exact enough)).mono fun _ _ again => ?_
  exact again.trans same

protected theorem explain (translate : ε → δ) (keeps : attempt.Keeps probing needs) :
    (attempt.explain translate).Keeps probing needs :=
  fun ledger enough => .explain (keeps ledger enough)

protected theorem discard (keeps : attempt.Keeps probing needs) :
    (discard attempt).Keeps probing needs :=
  fun ledger enough => .discard (keeps ledger enough)

protected theorem map (f : α → β) (keeps : attempt.Keeps probing needs) :
    (f <$> attempt).Keeps probing needs :=
  fun ledger enough => Ensures.map (keeps ledger enough)

protected theorem forM {items : List β} {body : β → Attempt σ ε PUnit}
    (each : ∀ item ∈ items, (body item).Keeps probing needs) :
    (items.forM body).Keeps probing needs := by
  induction items with
  | nil => exact .pure _
  | cons item rest ih =>
      rw [List.forM_eq_forM, List.forM_cons]
      exact (each item (by simp)).bind fun _ => ih fun later member => each later (by simp [member])

end Keeps

/-! ## Attempts that obtain a number -/

/-- As long as some numbers are in use, all calls are allowed, and the number that is obtained is
the only new one in use. -/
def Acquires (probing : Bool) (needs : List Descriptor) (attempt : Attempt σ ε Descriptor) : Prop :=
  ∀ ledger : Ledger, (∀ fd ∈ needs, fd ∈ ledger.held) →
    attempt.Moves probing ledger fun result after =>
      after.held = result.toOption.toList ++ ledger.held

protected theorem Acquires.explain {needs : List Descriptor} {attempt : Attempt σ ε Descriptor}
    (translate : ε → δ) (acquires : attempt.Acquires probing needs) :
    (attempt.explain translate).Acquires probing needs := by
  intro ledger enough
  refine .explain ((acquires ledger enough).mono fun result after same => ?_)
  cases result <;> exact same

end Attempt

end CopyUp
