import CopyUp.Proofs.Labels

/-!
# How scenarios end

A scenario that does not pass is ended by one call, the last that is no close. All calls before it
were faultless, and what the scenario reports is read off this call and its answer. So a run that
breaks off is told apart from a run that passes, and a skip from a failure, by a single answer of
the kernel.
-/

namespace CopyUp

/-! ## What a call tells -/

/-- The error of an operation is the answer to its call, or the call wrote nothing. -/
def IoError.ComesFrom (source : IoError) (last : Asked) : Prop :=
  (∃ errno, source = .os errno ∧ last.errno? = some errno) ∨
    (source = .nothingWritten ∧ last.taken? = some 0)

structure Asked.BreaksOff (operation : String) (source : IoError) (last : Asked) : Prop where
  purpose : last.purpose = .change
  name : last.call.name = operation
  source : source.ComesFrom last

/-- The label speaks of the latest change, or there was none and the fixture was looked at again. -/
def SpeaksOf (label : String) (latest : Option String) : Prop :=
  latest = some (firstWord label) ∨ (latest = none ∧ label = "repeated stat")

theorem SpeaksOf.of_firstWord {label : String} {latest : Option String}
    (same : decide (latest = some (firstWord label))) : SpeaksOf label latest :=
  .inl (of_decide_eq_true same)

/-- What the failure says is what the last call was told. -/
def Failure.ToldBy (failure : Failure) (first : Option Identity) (latest : Option String)
    (last : Asked) : Prop :=
  match failure with
  | identityChanged operation expected observed =>
    (∃ metadata, last.metadata? = some metadata ∧ metadata.identity = observed) ∧
      first = some expected ∧ observed ≠ expected ∧ SpeaksOf operation latest
  | vanished _ path =>
    last.exchange = ⟨.stat path, .error .enoent⟩ ∨ last.exchange = ⟨.lstat path, .error .enoent⟩
  | stillPresent _ path identity =>
    ∃ metadata, last.exchange = ⟨.stat path, .ok metadata⟩ ∧ metadata.identity = identity
  | linkCount _ path minimum observed =>
    ∃ metadata, last.exchange = ⟨.stat path, .ok metadata⟩ ∧ metadata.linkCount = observed ∧
      observed < minimum
  | call operation source => last.call.name = callWord operation ∧ source.ComesFrom last
  | _ => False

/-- The errors that a change may meet without a failure. -/
def Trigger.Tolerates (trigger : Trigger) (errno : Errno) : Prop :=
  errno = .enosys ∨ errno = .eopnotsupp ∨
    (errno = .eperm ∧ (trigger = .ownershipChange ∨ trigger = .attributeSet))

def Asked.Tolerated (trigger : Trigger) (one : Asked) : Prop :=
  one.purpose = .change ∧ ∃ errno, one.errno? = some errno ∧ trigger.Tolerates errno

/-- A skip is told by a change that the trigger tolerates to be refused, a failure by any other
call. -/
def Interrupt.ToldBy (interrupt : Interrupt) (trigger : Trigger) (first : Option Identity)
    (latest : Option String) (last : Asked) : Prop :=
  match interrupt with
  | skip _ => last.Tolerated trigger
  | fail failure => failure.ToldBy first latest last ∧ ¬ last.Tolerated trigger

/-! ## Endings -/

/-- Faultless calls, a call that decides, and closes. What the deciding call has to tell may depend
on the latest change before it; `name` is the latest one before all these calls. -/
inductive Ends (first : Option Identity) (name : Option String)
    (told : Option String → Asked → Prop) : List Asked → Prop
  | intro {earlier closes : List Asked} {last : Asked}
      (faultless : ∀ one ∈ earlier, one.purpose ≠ .release → one.Faultless first)
      (decides : last.closed? = none)
      (closing : ∀ one ∈ closes, one.purpose = .release ∧ ∃ fd, one.call = .close fd)
      (tells : told ((Asked.latestName? earlier).or name) last) :
      Ends first name told (earlier ++ last :: closes)

namespace Ends

variable {first : Option Identity} {name : Option String}
  {told other : Option String → Asked → Prop} {asked : List Asked}

theorem mono (ends : Ends first name told asked)
    (implies : ∀ latest last, told latest last → other latest last) :
    Ends first name other asked := by
  cases ends with
  | intro faultless decides closing tells =>
      exact .intro faultless decides closing (implies _ _ tells)

theorem single {one : Asked} (decides : one.closed? = none) (tells : told name one) :
    Ends first name told [one] := by
  have ends : Ends first name told ([] ++ one :: []) :=
    .intro (by simp) decides (by simp) (by simpa [Asked.latestName?, Asked.latestMutation?])
  exact ends

/-- What worked before comes before. -/
theorem prepend {worked : List Asked}
    (faultless : ∀ one ∈ worked, one.purpose ≠ .release → one.Faultless first)
    (ends : Ends first ((Asked.latestName? worked).or name) told asked) :
    Ends first name told (worked ++ asked) := by
  cases ends with
  | intro earlier decides closing tells =>
      rw [← List.append_assoc]
      apply Ends.intro (List.forall_mem_append.2 ⟨faultless, earlier⟩) decides closing
      rw [Asked.latestName?_append, Option.or_assoc]
      exact tells

theorem prepend_of_still {worked : List Asked}
    (faultless : ∀ one ∈ worked, one.purpose ≠ .release → one.Faultless first)
    (still : ∀ one ∈ worked, one.call.mutates = false) (ends : Ends first name told asked) :
    Ends first name told (worked ++ asked) := by
  apply Ends.prepend faultless
  rw [Asked.latestName?_of_still still]
  exact ends

theorem close (ends : Ends first name told asked) (fd : Descriptor) (closed : Except Errno Unit) :
    Ends first name told (asked ++ [⟨.release, ⟨.close fd, closed⟩⟩]) := by
  cases ends with
  | intro faultless decides closing tells =>
      rw [List.append_assoc, List.cons_append]
      apply Ends.intro faultless decides _ tells
      have last : ∀ one ∈ [(⟨.release, ⟨.close fd, closed⟩⟩ : Asked)],
          one.purpose = .release ∧ ∃ fd, one.call = .close fd := by
        simp [Asked.call]
      exact List.forall_mem_append.2 ⟨closing, last⟩

end Ends

/-- A call that is refused in the end decides, and the attempts before it are interruptions. -/
theorem Answered.ends {first : Identity} {purpose : Purpose} {call : Call} {errno : Errno}
    {asked : List Asked} (answered : Answered purpose call (.error errno) asked)
    (plain : Asked.Plain purpose) (decides : Asked.closed? ⟨purpose, ⟨call, .error errno⟩⟩ = none)
    (name : Option String) :
    Ends (some first) name (fun _ last => last = ⟨purpose, ⟨call, .error errno⟩⟩) asked := by
  induction answered generalizing name with
  | once => exact .single decides rfl
  | again restarts later ih =>
      have outlasted : Asked.Fits first ⟨purpose, ⟨call, .error .eintr⟩⟩ :=
        Asked.fits_interrupted plain restarts
      rw [← List.singleton_append]
      exact .prepend (List.forall_mem_singleton.2 outlasted) (ih _)

/-! ## Changes -/

namespace FileSystem

variable {first : Identity} {fd : Descriptor} {place : Placement} {bytes : Bytes}
  {asked : List Asked}

theorem Offered.ends_of_error {errno : Errno}
    (offered : Offered .change fd bytes place (.error errno) asked) (name : Option String) :
    Ends (some first) name (fun _ last => last.BreaksOff place.operation (.os errno)) asked := by
  cases offered with
  | next answered | «at» answered =>
      apply (answered.ends (.inl rfl) rfl name).mono
      rintro _ _ rfl
      exact ⟨rfl, rfl, .inl ⟨errno, rfl, rfl⟩⟩

/-- An offer of which nothing is taken decides. -/
theorem Offered.ends_of_nothing (offered : Offered .change fd bytes place (.ok 0) asked)
    (name : Option String) :
    Ends (some first) name (fun _ last => last.BreaksOff place.operation .nothingWritten)
      asked := by
  cases offered with
  | next answered | «at» answered =>
      obtain ⟨interrupted, rfl, alike⟩ := answered.exists_eq_append
      apply Ends.prepend
      · intro one member
        rw [alike one member]
        exact Asked.fits_interrupted (.inl rfl) rfl
      · exact .single rfl ⟨rfl, rfl, .inr ⟨rfl, rfl⟩⟩

theorem Written.ends {result : Except IoError Unit} {source : IoError}
    (written : Written .change fd place bytes result asked) (failed : result = .error source)
    (name : Option String) :
    Ends (some first) name (fun _ last => last.BreaksOff place.operation source) asked := by
  induction written generalizing name with
  | done => contradiction
  | refused _ offered =>
      cases failed
      exact offered.ends_of_error name
  | stuck _ offered =>
      cases failed
      exact offered.ends_of_nothing name
  | @took _ _ _ _ before _ _ positive offered _ ih =>
      rw [Placement.operation_advance] at ih
      have faultless : ∀ one ∈ before, Asked.Fits first one :=
        (forall_fits_offered_iff offered).2 ⟨_, rfl, positive⟩
      exact .prepend faultless (ih failed _)

end FileSystem

theorem Asked.errno?_of_taken? {one : Asked} {count : Nat} (taken : one.taken? = some count) :
    one.errno? = none := by
  obtain ⟨purpose, call, reply⟩ := one
  cases reply with
  | ok => rfl
  | error => cases call <;> contradiction

theorem Trigger.toleratesDenial_iff {trigger : Trigger} :
    trigger.toleratesDenial ↔ trigger = .ownershipChange ∨ trigger = .attributeSet := by
  cases trigger <;> decide

namespace Scenario

section Changes

variable {first : Identity} {asked : List Asked} {name : Option String}

theorem OpenChange.Applied.ends {owner : Owner} {fd : Descriptor} {change : OpenChange}
    {source : IoError} (applied : change.Applied owner fd (.error source) asked) :
    Ends (some first) name (fun _ last => last.BreaksOff change.operation source) asked := by
  generalize failed : (Except.error source : Except IoError Unit) = result at applied
  cases applied with
  | wrote written | overwrote written => exact written.ends failed.symm name
  | @called _ call reply _ made answered =>
      cases reply with
      | ok => contradiction
      | error errno =>
          cases failed
          have decides : Asked.closed? ⟨.change, ⟨call, .error errno⟩⟩ = none := by
            cases change <;> cases made <;> rfl
          apply (answered.ends (.inl rfl) decides name).mono
          rintro _ _ rfl
          exact ⟨rfl, (OpenChange.name_of_call? made).2, .inl ⟨errno, rfl, rfl⟩⟩

theorem PathChange.ends {path : Role → Path} {owner : Owner} {file : Role} {change : PathChange}
    {errno : Errno}
    (answered : Answered .change (change.call path owner file) (.error errno) asked) :
    Ends (some first) name (fun _ last => last.BreaksOff change.operation (.os errno)) asked := by
  have decides : Asked.closed? ⟨.change, ⟨change.call path owner file, .error errno⟩⟩ = none := by
    cases change <;> rfl
  apply (answered.ends (.inl rfl) decides name).mono
  rintro _ _ rfl
  exact ⟨rfl, change.name_call .., .inl ⟨errno, rfl, rfl⟩⟩

/-- An error of a change is a reason to skip if the trigger tolerates it, and else a failure. -/
theorem judged_eq_error {privileges : Privileges} {trigger : Trigger} {operation : String}
    {source : IoError} {interrupt : Interrupt}
    (failed : judged privileges trigger operation (.error source) = .error interrupt) :
    (∃ reason errno, interrupt = .skip reason ∧ source = .os errno ∧ trigger.Tolerates errno) ∨
      (interrupt = .fail (.call operation source) ∧
        ∀ errno, source = .os errno → ¬ trigger.Tolerates errno) := by
  cases source with
  | custom kind text =>
      cases failed
      exact .inr ⟨rfl, by simp⟩
  | os errno =>
      simp only [judged, Effect.ofResult, Trigger.toleratesDenial_iff] at failed
      by_cases lacking : errno = .enosys ∨ errno = .eopnotsupp
      · rw [if_pos lacking] at failed
        cases failed
        exact .inl ⟨_, errno, rfl, rfl, or_assoc.1 (.inl lacking)⟩
      rw [if_neg lacking] at failed
      by_cases denied : errno = .eperm ∧ (trigger = .ownershipChange ∨ trigger = .attributeSet)
      · rw [if_pos denied] at failed
        cases failed
        exact .inl ⟨_, errno, rfl, rfl, .inr (.inr denied)⟩
      · rw [if_neg denied] at failed
        cases failed
        refine .inr ⟨rfl, ?_⟩
        rintro _ ⟨rfl⟩ tolerated
        exact (or_assoc.2 tolerated).elim lacking denied

theorem told_of_judged {privileges : Privileges} {trigger : Trigger} {operation : String}
    {source : IoError} {interrupt : Interrupt} {identity : Option Identity}
    {latest : Option String} {last : Asked}
    (failed : judged privileges trigger operation (.error source) = .error interrupt)
    (word : callWord operation = operation) (breaks : last.BreaksOff operation source) :
    interrupt.ToldBy trigger identity latest last := by
  rcases judged_eq_error failed with ⟨reason, errno, rfl, rfl, tolerated⟩ | ⟨rfl, strict⟩
  · rcases breaks.source with ⟨_, ⟨rfl⟩, told⟩ | ⟨nothing, _⟩
    · exact ⟨breaks.purpose, errno, told, tolerated⟩
    · contradiction
  · refine ⟨⟨breaks.name.trans word.symm, breaks.source⟩, ?_⟩
    rintro ⟨_, errno, told, tolerated⟩
    rcases breaks.source with ⟨errno, rfl, same⟩ | ⟨_, taken⟩
    · cases told.symm.trans same
      exact strict errno rfl tolerated
    · rw [Asked.errno?_of_taken? taken] at told
      contradiction

end Changes

end Scenario

/-! ## Questions -/

theorem Failure.ToldBy.interrupts {failure : Failure} {trigger : Trigger}
    {first : Option Identity} {latest : Option String} {last : Asked}
    (told : failure.ToldBy first latest last) (other : last.purpose ≠ .change) :
    (Interrupt.fail failure).ToldBy trigger first latest last :=
  ⟨told, fun tolerated => other tolerated.1⟩

namespace Snapshot

variable {snapshot : Snapshot} {path : Path} {after : String} {failure : Failure}
  {first : Option Identity} {latest : Option String} {purpose : Purpose}

/-- A question about a name fails for what the file is like, for want of the name, or for an error
that is not about the name. -/
theorem told_of_sought {α : Type} {query : String} (call : Call) {reply : Except Errno call.Reply}
    {missing : Except Failure α} {there : call.Reply → Except Failure α}
    (failed : sought query missing there reply = .error failure)
    (word : call.name = callWord query)
    (absent : missing = .error failure →
      failure.ToldBy first latest ⟨purpose, ⟨call, .error .enoent⟩⟩)
    (present : ∀ value, there value = .error failure →
      failure.ToldBy first latest ⟨purpose, ⟨call, .ok value⟩⟩) :
    failure.ToldBy first latest ⟨purpose, ⟨call, reply⟩⟩ := by
  cases reply with
  | ok value => exact present value failed
  | error errno =>
      by_cases gone : errno = .enoent
      · simp only [sought, gone, if_true] at failed
        rw [gone]
        exact absent failed
      · simp only [sought, gone, if_false] at failed
        cases failed
        exact ⟨word, .inl ⟨errno, rfl, rfl⟩⟩

theorem told_of_compared {metadata : Metadata} {last : Asked}
    (failed : snapshot.compared metadata.identity after = .error failure)
    (seen : last.metadata? = some metadata) (speaks : SpeaksOf after latest) :
    failure.ToldBy (some snapshot.expected) latest last := by
  by_cases same : metadata.identity = snapshot.expected
  · simp [compared, same] at failed
  · simp only [compared, same, if_false] at failed
    cases failed
    exact ⟨⟨metadata, seen, rfl⟩, rfl, same, speaks⟩

theorem told_of_query (query : Query) {reply : Except Errno Metadata}
    (failed : snapshot.named query.name path after reply = .error failure)
    (speaks : SpeaksOf after latest) :
    failure.ToldBy (some snapshot.expected) latest ⟨purpose, query.exchange path reply⟩ := by
  have present : ∀ metadata, snapshot.compared metadata.identity after = .error failure →
      failure.ToldBy (some snapshot.expected) latest
        ⟨purpose, query.exchange path (.ok metadata)⟩ := by
    intro metadata differs
    have seen : Asked.metadata? ⟨purpose, query.exchange path (.ok metadata)⟩ = some metadata := by
      cases query <;> rfl
    exact told_of_compared differs seen speaks
  cases query with
  | stat => exact told_of_sought (.stat path) failed rfl (fun | rfl => .inl rfl) present
  | lstat => exact told_of_sought (.lstat path) failed rfl (fun | rfl => .inr rfl) present

theorem told_of_fstat {fd : Descriptor} {reply : Except Errno Metadata}
    (failed : snapshot.handled after reply = .error failure) (speaks : SpeaksOf after latest) :
    failure.ToldBy (some snapshot.expected) latest ⟨purpose, ⟨.fstat fd, reply⟩⟩ := by
  cases reply with
  | ok metadata => exact told_of_compared failed rfl speaks
  | error errno =>
      cases failed
      exact ⟨rfl, .inl ⟨errno, rfl, rfl⟩⟩

theorem told_of_absence {reply : Except Errno Metadata}
    (failed : vacated path after reply = .error failure) :
    failure.ToldBy first latest ⟨purpose, ⟨.stat path, reply⟩⟩ := by
  apply told_of_sought (.stat path) failed rfl
  · rintro ⟨⟩
  · rintro metadata ⟨⟩
    exact ⟨metadata, rfl, rfl⟩

theorem told_of_linkCount {minimum : UInt64} {reply : Except Errno Metadata}
    (failed : counted path minimum after reply = .error failure) :
    failure.ToldBy first latest ⟨purpose, ⟨.stat path, reply⟩⟩ := by
  apply told_of_sought (.stat path) failed rfl
  · rintro ⟨⟩
    exact .inl rfl
  · intro metadata differs
    by_cases few : metadata.linkCount < minimum
    · simp only [numbered, few, if_true] at differs
      cases differs
      exact ⟨metadata, rfl, rfl, few⟩
    · simp [numbered, few] at differs

end Snapshot

namespace Scenario

variable {asked : List Asked} {name : Option String}

theorem told_of_owned {path : Path} {failure : Failure} {reply : Except Errno Metadata}
    {first : Option Identity} {latest : Option String}
    (failed : owned path reply = .error failure) :
    failure.ToldBy first latest ⟨.owner, ⟨.stat path, reply⟩⟩ := by
  apply Snapshot.told_of_sought (.stat path) failed rfl
  · rintro ⟨⟩
    exact .inl rfl
  · rintro metadata ⟨⟩

/-! ## Steps -/

theorem ends_of_opening {first : Identity} {path : Path} {flags : OpenFlags} {errno : Errno}
    {operation : String} {trigger : Trigger}
    (answered : Answered .acquire (.openFile path flags) (.error errno) asked)
    (word : callWord operation = "open") :
    Ends (some first) name
      ((Interrupt.fail (.call operation (.os errno))).ToldBy trigger (some first)) asked := by
  apply (answered.ends (.inr (.inl rfl)) rfl name).mono
  rintro latest _ rfl
  have told : (Failure.call operation (.os errno)).ToldBy (some first) latest
      ⟨.acquire, ⟨.openFile path flags, .error errno⟩⟩ := ⟨word.symm, .inl ⟨errno, rfl, rfl⟩⟩
  exact told.interrupts nofun

theorem still_of_opening {path : Path} {flags : OpenFlags} {reply : Except Errno Descriptor}
    (answered : Answered .acquire (.openFile path flags) reply asked) :
    ∀ one ∈ asked, one.call.mutates = false := by
  intro one member
  rw [(answered.same member).2]
  rfl

theorem Checked.ends {snapshot : Snapshot} {path : Path} {after : String} {check : Check}
    {failure : Failure} {trigger : Trigger} {file : Role}
    (checked : Checked snapshot path after check (.error failure) asked)
    (labelled : (Step.check check file after).labelled name) :
    Ends (some snapshot.expected) name
      ((Interrupt.fail failure).ToldBy trigger (some snapshot.expected)) asked := by
  have single : ∀ {one : Asked}, one.closed? = none → one.purpose ≠ .change →
      failure.ToldBy (some snapshot.expected) name one →
        Ends (some snapshot.expected) name
          ((Interrupt.fail failure).ToldBy trigger (some snapshot.expected)) [one] :=
    fun decides other told => .single decides (told.interrupts other)
  have looked : ∀ {purpose : Purpose} {call : Call} {reply : Except Errno call.Reply},
      call.mutates = false → ∀ one ∈ [(⟨purpose, ⟨call, reply⟩⟩ : Asked)],
        one.call.mutates = false :=
    fun still => List.forall_mem_singleton.2 still
  generalize failed : (Except.error failure : Except Failure Unit) = result at checked
  cases checked with
  | stable =>
      exact single rfl nofun (Snapshot.told_of_query .stat failed.symm (.of_firstWord labelled))
  | stableLink =>
      exact single rfl nofun (Snapshot.told_of_query .lstat failed.symm (.of_firstWord labelled))
  | absent => exact single rfl nofun (Snapshot.told_of_absence failed.symm)
  | linkCount => exact single rfl nofun (Snapshot.told_of_linkCount failed.symm)
  | notByPath judged =>
      cases failed
      exact single rfl nofun (Snapshot.told_of_query .stat judged (.of_firstWord labelled))
  | notByLink judged linked =>
      cases failed
      have byPath := (Snapshot.honest_query .stat judged).1 ⟨(), rfl⟩
      exact Ends.prepend_of_still byPath (looked rfl)
        (single rfl nofun (Snapshot.told_of_query .lstat linked (.of_firstWord labelled)))
  | notOpened judged linked answered =>
      cases failed
      have byPath := (Snapshot.honest_query .stat judged).1 ⟨(), rfl⟩
      have byLink := (Snapshot.honest_query .lstat linked).1 ⟨(), rfl⟩
      exact Ends.prepend_of_still byPath (looked rfl)
        (Ends.prepend_of_still byLink (looked rfl) (ends_of_opening answered (by decide)))
  | @byHandle _ _ handle fd closed opening judged linked answered =>
      have byPath := (Snapshot.honest_query .stat judged).1 ⟨(), rfl⟩
      have byLink := (Snapshot.honest_query .lstat linked).1 ⟨(), rfl⟩
      have opens : ∀ one ∈ opening, Asked.Fits snapshot.expected one :=
        (honest_opening answered).1 ⟨fd, rfl⟩
      have told : failure.ToldBy (some snapshot.expected) name
          ⟨.identity, ⟨.fstat fd, handle⟩⟩ :=
        Snapshot.told_of_fstat failed.symm (.of_firstWord labelled)
      have handled := (single rfl (by simp) told).close fd closed
      have opened := Ends.prepend_of_still opens (still_of_opening answered) handled
      simpa [Query.exchange] using Ends.prepend_of_still byPath (looked rfl)
        (Ends.prepend_of_still byLink (looked rfl) opened)

end Scenario

end CopyUp
