import CopyUp.Kernel.Script
import CopyUp.Proofs.Purposes
import Mathlib.Tactic.MkIffOfInductiveProp

/-!
# When a scenario passes

A scenario passes exactly if every call that it recorded was faultless: no answer was swallowed, no
query was left uncompared, and no error was taken for a reason to stop without saying so. The main
statement is the equivalence, over every kernel; its two sides are the outcome of the run and a
property of the single recorded calls.
-/

namespace CopyUp

/-! ## Faultless calls -/

namespace Asked

/-- What a call of a passing run is like, given the identity that was seen first. -/
@[mk_iff]
structure Faultless (first : Option Identity) (one : Asked) : Prop where
  /-- Errors are interruptions that are outlasted, or say that a leftover or a vacated name is not
  there. -/
  granted : ∀ errno, one.errno? = some errno →
    (one.call.restarts ∧ errno = .eintr) ∨
      ((one.purpose = .stale ∨ one.purpose = .absence) ∧ errno = .enoent)
  /-- A vacated name is not there. -/
  vacated : one.purpose = .absence → one.errno? = some .enoent
  /-- A write takes something. -/
  taken : ∀ count, one.taken? = some count → 0 < count
  /-- Every query about the identity reports the one that was seen first. -/
  stable : one.purpose = .snapshot ∨ one.purpose = .identity →
    ∀ metadata, one.metadata? = some metadata → some metadata.identity = first
  /-- Every query for the number of names reports two at least. -/
  linked : one.purpose = .linkCount →
    ∀ metadata, one.metadata? = some metadata → 2 ≤ metadata.linkCount

end Asked

/-- Every call of the record is faultless, the closing of files that are no longer needed apart. -/
def Faultless (asked : List Asked) : Prop :=
  ∀ one ∈ asked, one.purpose ≠ .release → one.Faultless (Asked.firstIdentity? asked)

/-! ## The calls of a scenario -/

namespace Asked

/-- What is asked of the calls of a run whose snapshot shows `expected`. -/
def Fits (expected : Identity) (one : Asked) : Prop :=
  one.purpose ≠ .release → one.Faultless (some expected)

/-- A purpose that asks for nothing but success. -/
def Plain (purpose : Purpose) : Prop :=
  purpose = .change ∨ purpose = .acquire ∨ purpose = .cleanUp ∨ purpose = .owner

variable {expected : Identity}

/-- A call of such a purpose fits as soon as it is granted, or interrupted and outlasted. -/
theorem fits_plain_iff {purpose : Purpose} (plain : Plain purpose) {call : Call}
    {reply : Except Errno call.Reply} (settled : call.restarts → reply ≠ .error .eintr) :
    Fits expected ⟨purpose, ⟨call, reply⟩⟩ ↔ (∃ value, reply = .ok value) ∧
      ∀ count, taken? ⟨purpose, ⟨call, reply⟩⟩ = some count → 0 < count := by
  have others : purpose ≠ .release ∧ purpose ≠ .stale ∧ purpose ≠ .absence ∧
      purpose ≠ .snapshot ∧ purpose ≠ .identity ∧ purpose ≠ .linkCount := by
    rcases plain with rfl | rfl | rfl | rfl <;> decide
  obtain ⟨release, stale, absence, snapshot, identity, linkCount⟩ := others
  constructor
  · intro fits
    have faultless := fits release
    refine ⟨?_, faultless.taken⟩
    cases reply with
    | ok value => exact ⟨value, rfl⟩
    | error errno =>
        rcases faultless.granted errno rfl with ⟨restarts, rfl⟩ | ⟨leftover, _⟩
        · exact absurd rfl (settled restarts)
        · rcases leftover with h | h
          · exact absurd h stale
          · exact absurd h absence
  · rintro ⟨⟨value, rfl⟩, taken⟩ _
    exact ⟨by simp [errno?, Exchange.errno?], fun h => absurd h absence, taken,
      fun h => absurd h (by simp [snapshot, identity]), fun h => absurd h linkCount⟩

theorem fits_query_iff (query : Query) {path : Path} {reply : Except Errno Metadata} :
    Fits expected ⟨.identity, query.exchange path reply⟩ ↔
      ∃ metadata, reply = .ok metadata ∧ metadata.identity = expected := by
  cases query <;> cases reply <;> simp [Fits, faultless_iff, errno?, Exchange.errno?,
    Query.exchange, metadata?, taken?, call, Call.restarts]

theorem fits_fstat_iff {fd : Descriptor} {reply : Except Errno Metadata} :
    Fits expected ⟨.identity, ⟨.fstat fd, reply⟩⟩ ↔
      ∃ metadata, reply = .ok metadata ∧ metadata.identity = expected := by
  cases reply <;> simp [Fits, faultless_iff, errno?, Exchange.errno?, metadata?, taken?, call,
    Call.restarts]

theorem fits_snapshot {path : Path} {metadata : Metadata} :
    Fits metadata.identity ⟨.snapshot, ⟨.stat path, .ok metadata⟩⟩ := by
  simp [Fits, faultless_iff, errno?, Exchange.errno?, metadata?, taken?]

theorem fits_absence_iff {path : Path} {reply : Except Errno Metadata} :
    Fits expected ⟨.absence, ⟨.stat path, reply⟩⟩ ↔ reply = .error .enoent := by
  cases reply <;> simp [Fits, faultless_iff, errno?, Exchange.errno?, metadata?, taken?, call,
    Call.restarts]

theorem fits_linkCount_iff {path : Path} {reply : Except Errno Metadata} :
    Fits expected ⟨.linkCount, ⟨.stat path, reply⟩⟩ ↔
      ∃ metadata, reply = .ok metadata ∧ 2 ≤ metadata.linkCount := by
  cases reply <;> simp [Fits, faultless_iff, errno?, Exchange.errno?, metadata?, taken?, call,
    Call.restarts]

theorem fits_stale_iff {path : Path} {reply : Except Errno Unit} :
    Fits expected ⟨.stale, ⟨.unlink path, reply⟩⟩ ↔
      ∀ errno, reply = .error errno → errno = .enoent := by
  cases reply <;> simp [Fits, faultless_iff, errno?, Exchange.errno?, metadata?, taken?, call,
    Call.restarts]

theorem fits_release {call : Call} {reply : Except Errno call.Reply} :
    Fits expected ⟨.release, ⟨call, reply⟩⟩ :=
  fun other => absurd rfl other

/-- An interruption that is outlasted does no harm. -/
theorem fits_interrupted {purpose : Purpose} (plain : Plain purpose) {call : Call}
    (restarts : call.restarts) : Fits expected ⟨purpose, ⟨call, .error .eintr⟩⟩ := by
  rcases plain with rfl | rfl | rfl | rfl <;>
    simp [Fits, faultless_iff, errno?, Exchange.errno?, metadata?, taken?, Asked.call, restarts]

/-- Of the attempts at a call only the answered one decides. -/
theorem forall_fits_answered_iff {purpose : Purpose} (plain : Plain purpose) {call : Call}
    {reply : Except Errno call.Reply} {asked : List Asked}
    (answered : Answered purpose call reply asked) :
    (∀ one ∈ asked, Fits expected one) ↔ Fits expected ⟨purpose, ⟨call, reply⟩⟩ := by
  induction answered with
  | once => simp
  | again restarts later ih =>
      have outlasted : Fits expected ⟨purpose, ⟨call, .error .eintr⟩⟩ :=
        fits_interrupted plain restarts
      simp [outlasted, ih]

end Asked

open Asked (Fits)

/-! ## Verdicts that are honest about their calls -/

/-- The result is a success exactly if all calls fit. -/
def Honest {ε α : Type} (expected : Identity) (result : Except ε α) (asked : List Asked) : Prop :=
  (∃ value, result = .ok value) ↔ ∀ one ∈ asked, Fits expected one

namespace Honest

variable {ε δ α β : Type} {expected : Identity} {result : Except ε α} {first asked : List Asked}

/-- Only the success of a result matters. -/
theorem congr {other : Except δ β} (honest : Honest expected result asked)
    (same : (∃ value, other = .ok value) ↔ ∃ value, result = .ok value) :
    Honest expected other asked :=
  same.trans honest

theorem mapError (translate : ε → δ) (honest : Honest expected result asked) :
    Honest expected (result.mapError translate) asked :=
  honest.congr (by cases result <;> simp)

theorem single {one : Asked} (judged : (∃ value, result = .ok value) ↔ Fits expected one) :
    Honest expected result [one] := by
  rw [Honest, judged, List.forall_mem_singleton]

/-- What worked decides nothing, so what follows it does. -/
theorem append {value : β} (worked : Honest expected (.ok value : Except δ β) first)
    (later : Honest expected result asked) : Honest expected result (first ++ asked) := by
  have before : ∀ one ∈ first, Fits expected one := worked.1 ⟨value, rfl⟩
  refine Iff.trans later ?_
  rw [List.forall_mem_append]
  exact ⟨fun all => ⟨before, all⟩, fun all => all.2⟩

/-- Closing a file that is no longer needed may go wrong. -/
theorem release (honest : Honest expected result asked) (fd : Descriptor)
    (closed : Except Errno Unit) :
    Honest expected result (asked ++ [⟨.release, ⟨.close fd, closed⟩⟩]) := by
  have released : Fits expected ⟨.release, ⟨.close fd, closed⟩⟩ := Asked.fits_release
  refine Iff.trans honest ?_
  rw [List.forall_mem_append, List.forall_mem_singleton]
  exact ⟨fun all => ⟨all, released⟩, fun all => all.1⟩

end Honest

/-- A call whose answer is passed on succeeds exactly if it is granted in the end. -/
theorem Answered.honest {expected : Identity} {purpose : Purpose} {call : Call}
    {reply : Except Errno call.Reply} {asked : List Asked}
    (answered : Answered purpose call reply asked) (plain : Asked.Plain purpose)
    (whole : ∀ value, Asked.taken? ⟨purpose, ⟨call, .ok value⟩⟩ = none) :
    Honest expected reply asked := by
  rw [Honest, Asked.forall_fits_answered_iff plain answered,
    Asked.fits_plain_iff plain answered.settled]
  cases reply with
  | ok value => simp [whole]
  | error errno => simp

theorem InTurn.honest {ε α : Type} {expected : Identity}
    {does : α → Except ε Unit → List Asked → Prop} {items : List α} {result : Except ε Unit}
    {asked : List Asked} (inTurn : InTurn does items result asked)
    (each : ∀ item ∈ items, ∀ result asked, does item result asked →
      Honest expected result asked) : Honest expected result asked := by
  induction inTurn with
  | done => simp [Honest]
  | stops failed => exact each _ (by simp) _ _ failed
  | goes worked _ ih =>
      have rest := ih fun later member => each later (by simp [member])
      exact (each _ (by simp) _ _ worked).append rest

namespace Snapshot

variable {snapshot : Snapshot} {after : String} {path : Path} {fd : Descriptor}
  {reply : Except Errno Metadata}

theorem honest_query (query : Query) {word : String} {result : Except Failure Unit}
    (judged : snapshot.named word path after reply = result) :
    Honest snapshot.expected result [⟨.identity, query.exchange path reply⟩] :=
  judged ▸ .single (named_eq_ok_iff.trans (Asked.fits_query_iff query).symm)

theorem honest_fstat : Honest snapshot.expected (snapshot.handled after reply)
    [⟨.identity, ⟨.fstat fd, reply⟩⟩] :=
  .single (handled_eq_ok_iff.trans Asked.fits_fstat_iff.symm)

end Snapshot

/-! ## Writing -/

namespace FileSystem

variable {expected : Identity}

theorem forall_fits_offered_iff {fd : Descriptor} {bytes : Bytes} {place : Placement}
    {reply : Except Errno Nat} {asked : List Asked}
    (offered : Offered .change fd bytes place reply asked) :
    (∀ one ∈ asked, Fits expected one) ↔ ∃ count, reply = .ok count ∧ 0 < count := by
  have plain : Asked.Plain .change := .inl rfl
  cases offered with
  | next answered bounded =>
      rw [Asked.forall_fits_answered_iff plain answered,
        Asked.fits_plain_iff plain answered.settled]
      cases reply <;> simp [Asked.taken?]
  | «at» answered bounded =>
      rw [Asked.forall_fits_answered_iff plain answered,
        Asked.fits_plain_iff plain answered.settled]
      cases reply <;> simp [Asked.taken?]

theorem Written.honest {fd : Descriptor} {place : Placement} {bytes : Bytes}
    {result : Except IoError Unit} {asked : List Asked}
    (written : Written .change fd place bytes result asked) :
    Honest expected result asked := by
  induction written with
  | done => simp [Honest]
  | refused more offered =>
      rw [Honest, forall_fits_offered_iff offered]
      simp
  | stuck more offered =>
      rw [Honest, forall_fits_offered_iff offered]
      simp
  | @took _ _ count _ first _ more positive offered later ih =>
      have fits : ∀ one ∈ first, Fits expected one :=
        (forall_fits_offered_iff offered).2 ⟨_, rfl, positive⟩
      have worked : Honest expected (.ok () : Except IoError Unit) first :=
        ⟨fun _ => fits, fun _ => ⟨(), rfl⟩⟩
      exact worked.append ih

end FileSystem

/-! ## Steps -/

namespace Scenario

variable {asked : List Asked}

theorem PathChange.taken?_call (path : Role → Path) (owner : Owner) (file : Role)
    (change : PathChange) {purpose : Purpose}
    (reply : Except Errno (change.call path owner file).Reply) :
    Asked.taken? ⟨purpose, ⟨change.call path owner file, reply⟩⟩ = none := by
  cases change <;> rfl

theorem OpenChange.Applied.honest {expected : Identity} {owner : Owner} {fd : Descriptor}
    {change : OpenChange} {result : Except IoError Unit}
    (applied : change.Applied owner fd result asked) : Honest expected result asked := by
  cases applied with
  | wrote written | overwrote written => exact written.honest
  | @called _ call reply _ made answered =>
      have whole : ∀ value, Asked.taken? ⟨.change, ⟨call, .ok value⟩⟩ = none := by
        cases change <;> cases made <;> exact fun _ => rfl
      exact (answered.honest (.inl rfl) whole).congr (by cases reply <;> simp)

theorem honest_judged {expected : Identity} {privileges : Privileges} {trigger : Trigger}
    {operation : String} {result : Except IoError Unit} (honest : Honest expected result asked) :
    Honest expected (judged privileges trigger operation result) asked := by
  refine honest.congr ?_
  constructor
  · rintro ⟨⟨⟩, worked⟩
    exact ⟨(), judged_eq_ok_iff.1 worked⟩
  · rintro ⟨⟨⟩, rfl⟩
    exact ⟨(), judged_eq_ok_iff.2 rfl⟩

theorem honest_opening {expected : Identity} {path : Path} {flags : OpenFlags}
    {reply : Except Errno Descriptor}
    (answered : Answered .acquire (.openFile path flags) reply asked) :
    Honest expected reply asked :=
  answered.honest (.inr (.inl rfl)) fun _ => rfl

/-- The counts of names are honest about two names, and all other checks about what they ask. -/
theorem Checked.honest {snapshot : Snapshot} {path : Path} {after : String} {check : Check}
    {result : Except Failure Unit} (checked : Checked snapshot path after check result asked)
    (two : ∀ minimum, check = .linkCount minimum → minimum = 2) :
    Honest snapshot.expected result asked := by
  cases checked with
  | stable => exact Snapshot.honest_query .stat rfl
  | stableLink => exact Snapshot.honest_query .lstat rfl
  | notByPath judged => exact Snapshot.honest_query .stat judged
  | notByLink judged linked =>
      exact (Snapshot.honest_query .stat judged).append (Snapshot.honest_query .lstat linked)
  | notOpened judged linked answered =>
      have byLink := Snapshot.honest_query .lstat linked
      refine (Snapshot.honest_query .stat judged).append (byLink.append ?_)
      exact (honest_opening answered).congr (by simp)
  | @byHandle _ _ handle fd closed _ judged linked answered =>
      have told : Honest snapshot.expected (snapshot.handled after handle)
          ([⟨.identity, ⟨.fstat fd, handle⟩⟩] ++ [⟨.release, ⟨.close fd, closed⟩⟩]) :=
        Snapshot.honest_fstat.release fd closed
      have byLink := Snapshot.honest_query .lstat linked
      have opened := byLink.append ((honest_opening answered).append told)
      simpa [Query.exchange] using (Snapshot.honest_query .stat judged).append opened
  | absent => exact .single (Snapshot.vacated_eq_ok_iff.trans Asked.fits_absence_iff.symm)
  | linkCount =>
      cases two _ rfl
      exact .single (Snapshot.counted_eq_ok_iff.trans Asked.fits_linkCount_iff.symm)

theorem OpenPerformed.honest {scene : Scene} {fd : Descriptor} {step : OpenStep}
    {result : Except Interrupt Unit} (performed : OpenPerformed scene fd step result asked) :
    Honest scene.snapshot.expected result asked := by
  cases performed with
  | change applied => exact honest_judged applied.honest
  | stable => exact Snapshot.honest_fstat.mapError _

theorem Performed.honest {scene : Scene} {step : Step} {result : Except Interrupt Unit}
    (performed : Performed scene step result asked)
    (two : ∀ minimum file after, step = .check (.linkCount minimum) file after → minimum = 2) :
    Honest scene.snapshot.expected result asked := by
  cases performed with
  | @removeStale file reply =>
      have removes : Honest scene.snapshot.expected (FileSystem.removed reply)
          [⟨.stale, ⟨.unlink (scene.path file), reply⟩⟩] := by
        refine .single ?_
        rw [Asked.fits_stale_iff]
        cases reply with
        | ok => simp [FileSystem.removed]
        | error errno =>
            by_cases missing : errno = .enoent <;> simp [FileSystem.removed, missing]
      exact (removes.mapError _).mapError _
  | @change change file reply _ answered =>
      have granted : Honest scene.snapshot.expected reply asked :=
        answered.honest (.inl rfl) fun value => change.taken?_call _ _ _ (.ok value)
      exact honest_judged (granted.congr (by cases reply <;> simp))
  | check checked =>
      refine (checked.honest ?_).mapError _
      rintro minimum rfl
      exact two minimum _ _ rfl
  | notOpened answered => exact (honest_opening answered).congr (by simp)
  | opened answered inTurn =>
      have used := inTurn.honest fun _ _ _ _ performed => performed.honest
      exact ((honest_opening answered).append used).release _ _
  | @cleanUp file reply =>
      have removes : Honest scene.snapshot.expected (succeeded reply)
          [⟨.cleanUp, ⟨.unlink (scene.path file), reply⟩⟩] := by
        refine .single ?_
        rw [Asked.fits_plain_iff (.inr (.inr (.inl rfl))) (by simp [Call.restarts])]
        cases reply <;> simp [Asked.taken?]
      exact (removes.mapError _).mapError _

theorem linkCount_mem_steps {trigger : Trigger} {minimum : UInt64} {file : Role} {after : String}
    (member : .check (.linkCount minimum) file after ∈ steps trigger) : minimum = 2 := by
  cases trigger <;>
    simp [steps, writeSteps, truncateSteps, chmodSteps, chownSteps, renameSteps, linkSteps,
      utimesSteps, xattrSteps, fallocateSteps] at member
  rcases member with ⟨rfl, _⟩ | ⟨rfl, _⟩ | ⟨rfl, _⟩ <;> rfl

/-! ## Whole scenarios -/

theorem not_faultless_of_refused {path : Path} {errno : Errno} {more : List Asked} :
    ¬ Faultless (⟨.snapshot, ⟨.stat path, .error errno⟩⟩ :: more) := by
  intro faultless
  have one := faultless ⟨.snapshot, ⟨.stat path, .error errno⟩⟩ List.mem_cons_self (by simp)
  have granted := one.granted errno rfl
  simp [Asked.call, Call.restarts] at granted

/-- A run up to its snapshot is faultless if the first look at the fixture is answered and the
second one agrees with it. -/
theorem faultless_resolved_iff {base : Path} {trigger : Trigger}
    {result : Except Interrupt Snapshot} {asked : List Asked}
    (resolved : Fixture.Resolved base trigger result asked) (more : List Asked) :
    Faultless (asked ++ more) ↔
      ∃ snapshot, result = .ok snapshot ∧ ∀ one ∈ more, Fits snapshot.expected one := by
  cases resolved with
  | missing =>
      constructor
      · exact fun faultless => absurd faultless not_faultless_of_refused
      · rintro ⟨_, impossible, _⟩
        contradiction
  | refused other =>
      constructor
      · exact fun faultless => absurd faultless not_faultless_of_refused
      · rintro ⟨_, impossible, _⟩
        contradiction
  | @drifted metadata again failure judged =>
      constructor
      · intro faultless
        have fits : Fits metadata.identity
            ⟨.identity, ⟨.stat (base.join trigger.fixture), again⟩⟩ := faultless _ (by simp)
        obtain ⟨seen, rfl, same⟩ := (Asked.fits_query_iff .stat).1 fits
        simp [Snapshot.named, Snapshot.sought, Snapshot.compared, same] at judged
      · rintro ⟨_, impossible, _⟩
        contradiction
  | @confirmed metadata again judged =>
      have second : Fits metadata.identity
          ⟨.identity, ⟨.stat (base.join trigger.fixture), again⟩⟩ :=
        (Asked.fits_query_iff .stat).2 (Snapshot.named_eq_ok_iff.1 ⟨(), judged⟩)
      constructor
      · intro faultless
        exact ⟨_, rfl, fun one member => faultless one (by simp [member])⟩
      · rintro ⟨snapshot, same, fits⟩ one member
        cases same
        simp only [List.cons_append, List.nil_append, List.mem_cons] at member
        rcases member with rfl | rfl | member
        · exact Asked.fits_snapshot
        · exact second
        · exact fits one member

theorem faultless_of_honest {trigger : Trigger} {base : Path} {snapshot : Snapshot}
    {result : Except Interrupt Unit} {more : List Asked}
    (resolved : Fixture.Resolved base trigger (.ok snapshot) asked)
    (honest : Honest snapshot.expected result more) :
    (∃ value, result = .ok value) ↔ Faultless (asked ++ more) := by
  rw [faultless_resolved_iff resolved more]
  refine Iff.trans honest ?_
  simp

theorem honest_owner {expected : Identity} {path : Path} {reply : Except Errno Metadata} :
    Honest expected (owned path reply) [⟨.owner, ⟨.stat path, reply⟩⟩] := by
  refine .single ?_
  have fits : Fits expected ⟨.owner, ⟨.stat path, reply⟩⟩ ↔ _ :=
    Asked.fits_plain_iff (.inr (.inr (.inr rfl))) (by simp [Call.restarts])
  rw [fits]
  cases reply with
  | ok metadata => simp [owned, Snapshot.sought, Asked.taken?]
  | error errno =>
      by_cases missing : errno = .enoent <;> simp [owned, Snapshot.sought, missing]

theorem Exercised.ok_iff_faultless {trigger : Trigger} {base : Path} {privileges : Privileges}
    {result : Except Interrupt Unit}
    (exercised : Exercised trigger base privileges result asked) :
    (∃ value, result = .ok value) ↔ Faultless asked := by
  cases exercised with
  | unresolved resolved =>
      have same := faultless_resolved_iff resolved []
      rw [List.append_nil] at same
      simp [same]
  | @ownerless snapshot failure _ reply resolved failed =>
      have asking : Honest snapshot.expected (.error failure)
          [⟨.owner, ⟨.stat (base.join trigger.fixture), reply⟩⟩] := failed ▸ honest_owner
      exact faultless_of_honest resolved (asking.congr (by simp))
  | @steps snapshot owner _ _ asking _ resolved known inTurn =>
      have stepwise := inTurn.honest fun step member _ _ performed =>
        performed.honest fun minimum file after same => linkCount_mem_steps (same ▸ member)
      have asked : Honest snapshot.expected (.ok owner : Except Failure Owner) asking := by
        rcases known with rfl | ⟨reply, rfl, found, _⟩
        · simp [Honest]
        · exact found ▸ honest_owner
      rw [List.append_assoc]
      exact faultless_of_honest resolved (asked.append stepwise)

variable {σ : Type} [Kernel σ]

/-- A scenario passes exactly if its record is faultless, and the record holds only calls that
their purposes allow. -/
theorem exercise_passed_iff_faultless (trigger : Trigger) {base : Path} (privileges : Privileges)
    (clean : ¬ base.HasNul) (kernel : σ) :
    let ran := (exercise trigger base privileges).exec kernel
    (Outcome.ofResult ran.value = .passed ↔ Faultless (Trace.asked ran.record)) ∧
      ∀ one ∈ Trace.asked ran.record, one.Apt trigger (rolePath base trigger) := by
  intro ran
  rw [Outcome.ofResult_eq_passed_iff]
  have exercised := (ensures_exercised trigger privileges clean).post kernel
  exact ⟨exercised.ok_iff_faultless, exercised.apt⟩

/-- An interrupted opening and a write that takes three bytes at first do no harm. -/
theorem faultless_of_obliging_script : ¬ Path.HasNul "/lower" ∧
    Faultless (Trace.asked ((exercise .contentWrite "/lower" ⟨1000, false, false⟩).exec
      (Script.mk [.grant {}, .grant {}, .refuse .eintr, .grant {}, .grant { taken := some 3 }]
        1000)).record) :=
  ⟨by decide,
    (exercise_passed_iff_faultless .contentWrite ⟨1000, false, false⟩ (by decide) _).1.1 (by rfl)⟩

end Scenario

end CopyUp
