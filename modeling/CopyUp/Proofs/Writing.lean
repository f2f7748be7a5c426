import CopyUp.Kernel.Script
import CopyUp.Proofs.Looks

/-!
# What the write scenario writes

The write scenario puts one text behind everything that its fixture holds and another over the
beginning, each through a number of its own. A record of it comes in five stretches, with the two
texts in the second and the fourth. However the kernel parts the texts and wherever it breaks the
run off, every offer is of the bytes that are left and goes where they belong.
-/

namespace CopyUp

/-- The file is open under this number in this way: it was opened so, and the number was not closed
since. -/
def OpenAs (path : Path) (flags : OpenFlags) (fd : Descriptor) (before : List Asked) : Prop :=
  ∃ earlier between,
    before = earlier ++ ⟨.acquire, ⟨.openFile path flags, .ok fd⟩⟩ :: between ∧
      ∀ other ∈ between, other.closed? ≠ some fd

theorem OpenAs.prepend {path : Path} {flags : OpenFlags} {fd : Descriptor} {before : List Asked}
    (isOpen : OpenAs path flags fd before) (first : List Asked) :
    OpenAs path flags fd (first ++ before) := by
  have ⟨earlier, between, split, kept⟩ := isOpen
  exact ⟨first ++ earlier, between, by rw [split, List.append_assoc], kept⟩

namespace Scenario

open Asked (shown taken takenBy)
open FileSystem (Placement Written)

variable {scene : Scene} {result : Except Interrupt Unit} {asked : List Asked}

/-! ## Writing one text -/

/-- Where a change puts which bytes, if it is one that writes. -/
def OpenChange.writes? : OpenChange → Option (Placement × Bytes)
  | write text => some (.next, .ofText text)
  | pwrite text offset => some (.at offset, .ofText text)
  | _ => none

theorem OpenChange.Applied.written {owner : Owner} {fd : Descriptor} {change : OpenChange}
    {result : Except IoError Unit} {place : Placement} {bytes : Bytes}
    (applied : change.Applied owner fd result asked)
    (writes : change.writes? = some (place, bytes)) :
    Written .change fd place bytes result asked ∧ change.operation = place.operation := by
  cases applied with
  | wrote written | overwrote written =>
      cases writes
      exact ⟨written, rfl⟩
  | called made => cases change <;> contradiction

/-- A stretch of a record in which a text is written to a file that is opened for it, with the
result of the writing if it came to that. Behind the offers nothing is changed, and if they went
wrong the file is only closed. -/
inductive Filling (path : Path) (access : Access) (place : Placement) (bytes : Bytes) :
    Option (Except IoError Unit) → List Asked → Prop
  | unopened {asked : List Asked} (calm : ∀ one ∈ asked, one.call.Calm) :
      Filling path access place bytes none asked
  | opened {fd : Descriptor} {outcome : Except IoError Unit} {opening used behind : List Asked}
      (answered : Answered .acquire (.openFile path access.flags) (.ok fd) opening)
      (written : Written .change fd place bytes outcome used)
      (calm : ∀ one ∈ behind, one.call.Calm)
      (closes : outcome ≠ .ok () → ∀ one ∈ behind, ∃ fd, one.call = .close fd) :
      Filling path access place bytes (some outcome) (opening ++ used ++ behind)

structure Reaches (privileges : Privileges) (trigger : Trigger) (place : Placement)
    (reached : Option (Except IoError Unit)) (result : Except Interrupt Unit) : Prop where
  works : result = .ok () → reached = some (.ok ())
  fails : ∀ error, reached = some (.error error) →
    result = judged privileges trigger place.operation (.error error)

theorem Performed.filling {access : Access} {change : OpenChange} {after : String}
    {place : Placement} {bytes : Bytes}
    (performed : Performed scene (.opened access [.change change, .stable after]) result asked)
    (writes : change.writes? = some (place, bytes)) :
    ∃ reached, Filling (scene.path .fixture) access place bytes reached asked ∧
      Reaches scene.privileges scene.trigger place reached result := by
  cases performed with
  | notOpened answered =>
      exact ⟨none, .unopened (calm_of_opening (Access.flags_plain _) answered), nofun, nofun⟩
  | @opened _ _ fd _ closed opening _ answered inTurn =>
      cases inTurn with
      | stops failed =>
          generalize Except.error _ = ended at failed
          cases failed with
          | @change _ outcome _ applied =>
              have ⟨written, operation⟩ := applied.written writes
              refine ⟨some outcome, .opened answered written (calm_of_close fd closed) ?_, ?_, ?_⟩
              · exact fun _ => List.forall_mem_singleton.2 ⟨fd, rfl⟩
              · exact fun worked => congrArg some (judged_eq_ok_iff.1 worked)
              · intro source same
                cases same
                rw [operation]
      | goes worked later =>
          have ⟨written, _⟩ := worked.change_ok.written writes
          have calm := List.forall_mem_append.2
            ⟨calm_of_looks later rfl, calm_of_close fd closed⟩
          rw [← List.append_assoc, List.append_assoc _ _ [_]]
          exact ⟨some (.ok ()), .opened answered written calm fun differs => absurd rfl differs,
            fun _ => rfl, nofun⟩

namespace Filling

variable {path : Path} {access : Access} {place : Placement} {bytes : Bytes}
  {reached : Option (Except IoError Unit)}

/-- All that it changes is changed by calls of one name. -/
theorem named (filling : Filling path access place bytes reached asked) :
    ∀ one ∈ asked, one.call.mutates → one.call.name = place.operation := by
  have still : ∀ {asked : List Asked}, (∀ one ∈ asked, one.call.mutates = false) →
      ∀ one ∈ asked, one.call.mutates → one.call.name = place.operation := by
    intro asked still one member mutates
    rw [still one member] at mutates
    contradiction
  cases filling with
  | unopened calm => exact still (Asked.still_of_calm calm)
  | opened answered written calm =>
      exact List.forall_mem_append.2 ⟨List.forall_mem_append.2
        ⟨still (still_of_opening answered), fun one member _ => (written.name_eq one member).2⟩,
          still (Asked.still_of_calm calm)⟩

theorem taken_of_opened {flags : OpenFlags} {reply : Except Errno Descriptor}
    {opening used behind : List Asked}
    (answered : Answered .acquire (.openFile path flags) reply opening)
    (calm : ∀ one ∈ behind, one.call.Calm) : taken (opening ++ used ++ behind) = taken used := by
  rw [Asked.taken_append, Asked.taken_append, Asked.taken_of_still (still_of_opening answered),
    Asked.taken_of_still (Asked.still_of_calm calm), List.nil_append, List.append_nil]

/-- What is taken is a beginning of the text, and all of it if that worked. -/
theorem taken_prefix (filling : Filling path access place bytes reached asked) :
    taken asked <+: bytes ∧ (reached = some (.ok ()) → taken asked = bytes) := by
  cases filling with
  | unopened calm =>
      rw [Asked.taken_of_still (Asked.still_of_calm calm)]
      exact ⟨List.nil_prefix, nofun⟩
  | opened answered written calm =>
      rw [taken_of_opened answered calm]
      exact ⟨written.taken_prefix.1, fun worked => written.taken_prefix.2 (Option.some.inj worked)⟩

/-- A change within the stretch offers the bytes behind those that were taken, at the place behind
them and through the number that the file was opened under. -/
structure Offers (path : Path) (access : Access) (place : Placement) (bytes : Bytes)
    (fd : Descriptor) (before : List Asked) (one : Asked) : Prop where
  call : one.call = (place.advance (taken before).length).call fd
    (bytes.drop (taken before).length)
  isOpen : OpenAs path access.flags fd before
  named : ∀ name, takenBy name before = if name = place.operation then taken before else []
  shown : shown before = []

theorem changes (filling : Filling path access place bytes reached asked) :
    ∃ fd, BeforeChanges (Offers path access place bytes fd) asked := by
  cases filling with
  | unopened calm => exact ⟨0, .of_still (Asked.still_of_calm calm)⟩
  | @opened fd _ opening used _ answered written calm =>
      have ⟨interrupted, same, _⟩ := answered.exists_eq_append
      refine ⟨fd, .append (.append (.of_still (still_of_opening answered)) ?_)
        (.of_still (Asked.still_of_calm calm))⟩
      intro before one after split _
      have earlier : ∀ other ∈ before, other ∈ used := fun other member => by simp [split, member]
      have opened := Asked.taken_of_still (still_of_opening answered)
      constructor
      · rw [Asked.taken_append, opened, List.nil_append]
        exact written.offers split
      · refine ⟨interrupted, before, by simp [same], fun other member => ?_⟩
        rw [Asked.closed?_of_mutates (written.name_eq other (earlier other member)).1]
        nofun
      · intro name
        rw [Asked.takenBy_append, Asked.takenBy_of_still (still_of_opening answered),
          Asked.taken_append, opened]
        exact Asked.takenBy_of_named (fun other member _ =>
          (written.name_eq other (earlier other member)).2) name
      · rw [Asked.shown_append, shown_of_opening answered, List.nil_append]
        apply Asked.shown_of_other
        intro other member
        rw [(written.same (earlier other member)).1]
        nofun

/-- Behind an offer of which nothing was taken the file is closed. -/
theorem stuck (filling : Filling path access place bytes reached asked) {before after : List Asked}
    {one : Asked} (split : asked = before ++ one :: after) (stuck : one.taken? = some 0) :
    reached = some (.error .nothingWritten) ∧ one.call.name = place.operation ∧
      ∀ later ∈ after, ∃ fd, later.call = .close fd := by
  have name := filling.named one (by simp [split]) (Asked.mutates_of_taken? stuck)
  cases filling with
  | unopened calm =>
      exact absurd (by simp [split]) (Asked.not_mem_of_taken? stuck (Asked.still_of_calm calm))
  | opened answered written calm closes =>
      rcases split_append split with ⟨_, _, behind⟩ | ⟨between, first, rfl⟩
      · exact absurd (by simp [behind]) (Asked.not_mem_of_taken? stuck (Asked.still_of_calm calm))
      · rcases split_append first with ⟨_, _, offers⟩ | ⟨_, opens, _⟩
        · have ⟨failed, last⟩ := written.stuck_last offers stuck
          rw [last, List.nil_append]
          exact ⟨congrArg some failed, name, closes (by simp [failed])⟩
        · exact absurd (by simp [opens])
            (Asked.not_mem_of_taken? stuck (still_of_opening answered))

/-- Replayed over a store it puts what was taken into the file, behind its end if the file is opened
so and else at the place. -/
theorem replayed (filling : Filling path access place bytes reached asked) {store : Store}
    {object : Nat} (named : store.names path = some object) {start : Nat}
    (starts : Store.Handle.start ⟨object, access.flags.append, 0⟩
      (store.files object).content.length place = start)
    (within : start ≤ (store.files object).content.length) :
    store.Refilled (store.replay asked) object
      ((store.files object).content.put start (taken asked)) := by
  cases filling with
  | unopened calm =>
      rw [Asked.taken_of_still (Asked.still_of_calm calm), Bytes.put_nil within]
      exact (Store.replay_of_calm calm store).refilled
  | @opened fd _ opening used behind answered written calm =>
      let handle : Store.Handle := ⟨object, access.flags.append, 0⟩
      have opened : store.replay opening = store.hold fd handle := by
        rw [Store.replay_of_answered answered]
        simp [Store.after, Store.opened, named, access.flags_plain.2, handle]
      have held : (store.hold fd handle).handles fd = some handle := Function.update_self ..
      have filled := Store.refilled_write held starts within (taken used)
      rw [taken_of_opened answered calm, Store.replay_append, Store.replay_append, opened,
        Store.replay_of_written written]
      have same : store.Alike (store.hold fd handle) := ⟨rfl, rfl⟩
      exact .after_alike same (filled.before_alike (Store.replay_of_calm calm _))

theorem appended (filling : Filling path .append .next bytes reached asked) {store : Store}
    {object : Nat} (named : store.names path = some object) :
    store.Refilled (store.replay asked) object
      ((store.files object).content ++ taken asked) := by
  rw [← Bytes.put_length]
  exact filling.replayed named rfl (Nat.le_refl _)

theorem overwritten (filling : Filling path .write (.at 0) bytes reached asked) {store : Store}
    {object : Nat} (named : store.names path = some object) :
    store.Refilled (store.replay asked) object
      ((store.files object).content.put 0 (taken asked)) :=
  filling.replayed named rfl (Nat.zero_le _)

end Filling

/-! ## The course of the scenario -/

def appendix : Bytes := .ofText " appended data"

def heading : Bytes := .ofText "COPY"

/-- Four looks were taken and showed what was seen first: by path, through the number to append
through, by path again, and through a number to read through. -/
def Looked (path : Path) (before : List Asked) : Prop :=
  ∃ identity appender reader, Asked.firstIdentity? before = some identity ∧
    shown before = [(.stat path, some identity), (.fstat appender, some identity),
      (.stat path, some identity), (.fstat reader, some identity)]

/-- A record of the scenario in five stretches: appending, overwriting, and what is asked before,
between and behind them. -/
inductive Arranged (path : Path) (privileges : Privileges) (result : Except Interrupt Unit) :
    List Asked → Prop
  | intro {first second : Option (Except IoError Unit)}
      {before appending between overwriting behind : List Asked}
      (earlier : ∀ one ∈ before, one.call.Calm) (middle : ∀ one ∈ between, one.call.Calm)
      (last : ∀ one ∈ behind, one.call.Calm)
      (appends : Filling path .append .next appendix first appending)
      (overwrites : Filling path .write (.at 0) heading second overwriting)
      (follows : second ≠ none → first = some (.ok ()) ∧
        Looked path (before ++ appending ++ between))
      (reached : Reaches privileges .contentWrite .next first result)
      (reaches : Reaches privileges .contentWrite (.at 0) second result)
      (stops : ∀ error, first = some (.error error) → between ++ overwriting ++ behind = [])
      (ends : ∀ error, second = some (.error error) → behind = []) :
      Arranged path privileges result
        (before ++ appending ++ between ++ overwriting ++ behind)

/-- A run that ends before its file is opened to be overwritten. -/
theorem Arranged.early {path : Path} {privileges : Privileges}
    {first : Option (Except IoError Unit)} {before appending between : List Asked}
    (earlier : ∀ one ∈ before, one.call.Calm) (middle : ∀ one ∈ between, one.call.Calm)
    (appends : Filling path .append .next appendix first appending)
    (reached : Reaches privileges .contentWrite .next first result) (failed : result ≠ .ok ())
    (stops : ∀ error, first = some (.error error) → between = []) :
    Arranged path privileges result (before ++ appending ++ between) := by
  have arranged : Arranged path privileges result (before ++ appending ++ between ++ [] ++ []) :=
    .intro earlier middle (List.forall_mem_nil _) appends (.unopened (List.forall_mem_nil _))
      (fun opened => absurd rfl opened) reached ⟨fun worked => absurd worked failed, nofun⟩
      (by simpa using stops) nofun
  rwa [List.append_nil, List.append_nil] at arranged

/-- A run that ends before its file is opened at all. -/
theorem Arranged.unbegun {path : Path} {privileges : Privileges} {interrupt : Interrupt}
    (calm : ∀ one ∈ asked, one.call.Calm) : Arranged path privileges (.error interrupt) asked := by
  have arranged : Arranged path privileges (.error interrupt) (asked ++ [] ++ []) :=
    .early calm (List.forall_mem_nil _) (.unopened (List.forall_mem_nil _)) ⟨nofun, nofun⟩ nofun
      nofun
  simpa using arranged

theorem shown_between {after later : String}
    (inTurn : InTurn (Performed scene)
      [.check .stable .fixture after, .opened .read [.stable later]] (.ok ()) asked) :
    ∃ fd, shown asked = [(.stat (scene.path .fixture), some scene.snapshot.expected),
      (.fstat fd, some scene.snapshot.expected)] := by
  generalize worked : (Except.ok () : Except Interrupt Unit) = result at inTurn
  cases inTurn with
  | stops => contradiction
  | goes checked later =>
      subst worked
      have ⟨fd, read⟩ := later.of_singleton.shown_of_opened
      refine ⟨fd, ?_⟩
      rw [Asked.shown_append, checked.shown_of_stable, read]
      rfl

/-- The looks up to the opening to overwrite, all of which worked. -/
theorem looked_of_inTurn {before appending between : List Asked} {change : OpenChange}
    {appended after later : String}
    (first : ∀ more, Asked.firstIdentity? (before ++ more) = some scene.snapshot.expected)
    (looked : shown before = [(.stat (scene.path .fixture), some scene.snapshot.expected)])
    (appends : Performed scene (.opened .append [.change change, .stable appended]) (.ok ())
      appending)
    (looks : InTurn (Performed scene)
      [.check .stable .fixture after, .opened .read [.stable later]] (.ok ()) between) :
    Looked (scene.path .fixture) (before ++ appending ++ between) := by
  have ⟨appender, here⟩ := appends.shown_of_opened
  have ⟨reader, there⟩ := shown_between looks
  refine ⟨scene.snapshot.expected, appender, reader, ?_, ?_⟩
  · rw [List.append_assoc, first]
  · rw [Asked.shown_append, Asked.shown_append, looked, here, there]
    rfl

theorem arranged_of_inTurn {before : List Asked} (calm : ∀ one ∈ before, one.call.Calm)
    (first : ∀ more, Asked.firstIdentity? (before ++ more) = some scene.snapshot.expected)
    (looked : shown before = [(.stat (scene.path .fixture), some scene.snapshot.expected)])
    (inTurn : InTurn (Performed scene) writeSteps result asked)
    (scope : scene.trigger = .contentWrite) :
    Arranged (scene.path .fixture) scene.privileges result (before ++ asked) := by
  change InTurn _ ([_] ++ ([_, _] ++ ([_] ++ [_]))) _ _ at inTurn
  rcases inTurn.of_append with ⟨fails, failed⟩ | ⟨appending, rest, rfl, appends, inTurn⟩
  · obtain ⟨reached, filling, reaches⟩ := fails.of_singleton.filling rfl
    rw [scope] at reaches
    have arranged := Arranged.early calm (List.forall_mem_nil _) filling reaches failed
      fun _ _ => rfl
    rwa [List.append_nil] at arranged
  obtain ⟨done, filling, reaches⟩ := appends.of_singleton.filling rfl
  cases reaches.works rfl
  have reached : ∀ result, Reaches scene.privileges .contentWrite .next (some (.ok ())) result :=
    fun _ => ⟨fun _ => rfl, nofun⟩
  rcases inTurn.of_append with ⟨fails, failed⟩ | ⟨between, rest, rfl, looks, inTurn⟩
  · have still := calm_of_inTurn fails (by simp [Step.still, OpenStep.looks])
    rw [← List.append_assoc]
    exact .early calm still filling (reached result) failed nofun
  have still := calm_of_inTurn looks (by simp [Step.still, OpenStep.looks])
  have seen := looked_of_inTurn first looked appends.of_singleton looks
  rcases inTurn.of_append with ⟨fails, _⟩ | ⟨overwriting, behind, rfl, overwrites, checks⟩
  · obtain ⟨second, overwrites, reaches⟩ := fails.of_singleton.filling rfl
    rw [scope] at reaches
    have arranged := Arranged.intro calm still (List.forall_mem_nil _) filling overwrites
      (fun _ => ⟨rfl, seen⟩) (reached result) reaches nofun fun _ _ => rfl
    simpa using arranged
  · obtain ⟨second, overwrites, reaches⟩ := overwrites.of_singleton.filling rfl
    cases reaches.works rfl
    have last := calm_of_inTurn checks (by simp [Step.still])
    have arranged := Arranged.intro calm still last filling overwrites (fun _ => ⟨rfl, seen⟩)
      (reached result) ⟨fun _ => rfl, nofun⟩ nofun nofun
    simpa using arranged

theorem Exercised.arranged {base : Path} {privileges : Privileges}
    (exercised : Exercised .contentWrite base privileges result asked) :
    Arranged (base.join Trigger.contentWrite.fixture) privileges result asked := by
  cases exercised with
  | unresolved resolved => exact .unbegun (calm_of_resolved resolved)
  | ownerless _ _ reads => contradiction
  | steps resolved known inTurn =>
      rcases known with rfl | ⟨_, _, _, reads⟩
      · rw [List.append_nil]
        have ⟨_, _, first⟩ := confirmed_of_resolved resolved
        have arranged := arranged_of_inTurn (calm_of_resolved resolved) first
          (shown_of_resolved resolved) inTurn rfl
        exact arranged
      · contradiction

/-! ## What is written -/

def Appends (path : Path) (fd : Descriptor) (before : List Asked) (one : Asked) : Prop :=
  one.call = .write fd (appendix.drop (takenBy "write" before).length) ∧
    OpenAs path Access.append.flags fd before

/-- The call offers what is left of the heading, for the place behind what was taken of it, and the
appendix is complete and was looked at. -/
structure Overwrites (path : Path) (fd : Descriptor) (before : List Asked) (one : Asked) :
    Prop where
  offers : one.call = .pwrite fd (heading.drop (takenBy "pwrite" before).length)
    (takenBy "pwrite" before).length
  isOpen : OpenAs path Access.write.flags fd before
  complete : takenBy "write" before = appendix
  looked : Looked path before

/-- What the write scenario does to its fixture, by its outcome and its record. -/
structure WritesInOrder (path : Path) (outcome : Outcome) (asked : List Asked) : Prop where
  /-- Whatever is changed is changed by an offer of the one text or, then, of the other. -/
  changes : ∃ appender overwriter, BeforeChanges
    (fun before one => Appends path appender before one ∨ Overwrites path overwriter before one)
    asked
  appended : takenBy "write" asked <+: appendix
  overwritten : takenBy "pwrite" asked <+: heading
  /-- An offer of which nothing is taken ends the scenario with a failure: the file is closed, and
  nothing else is asked. -/
  stuck : ∀ before one after, asked = before ++ one :: after → one.taken? = some 0 →
    outcome = .failed (.call one.call.name .nothingWritten) ∧
      ∀ later ∈ after, ∃ fd, later.call = .close fd
  /-- However far it came, the file holds what it held before and then what was taken of the
  appendix, with what was taken of the heading over the beginning. All else is as it was. -/
  replayed : ∀ (store : Store) (object : Nat), store.names path = some object →
    store.Refilled (store.replay asked) object
      (((store.files object).content ++ takenBy "write" asked).put 0 (takenBy "pwrite" asked))
  /-- If it passes nothing of the two texts is missing. -/
  passed : outcome = .passed → takenBy "write" asked = appendix ∧ takenBy "pwrite" asked = heading ∧
    ∀ (store : Store) (object : Nat), store.names path = some object →
      store.Refilled (store.replay asked) object
        (heading ++ ((store.files object).content ++ appendix).drop 4)

theorem Looked.append {path : Path} {before more : List Asked} (looked : Looked path before)
    (none : shown more = []) : Looked path (before ++ more) := by
  have ⟨identity, appender, reader, first, four⟩ := looked
  refine ⟨identity, appender, reader, ?_, by rw [Asked.shown_append, none, List.append_nil, four]⟩
  cases before with
  | nil => contradiction
  | cons => exact first

namespace Arranged

variable {path : Path} {privileges : Privileges}

theorem changes (arranged : Arranged path privileges result asked) :
    ∃ appender overwriter, BeforeChanges
      (fun before one => Appends path appender before one ∨ Overwrites path overwriter before one)
      asked := by
  cases arranged with
  | @intro _ second before appending between _ _ earlier middle last appends overwrites follows =>
      have ⟨appender, firstly⟩ := appends.changes
      have ⟨overwriter, secondly⟩ := overwrites.changes
      refine ⟨appender, overwriter, .append (.append (.append (.append
        (.of_still (Asked.still_of_calm earlier)) ?_) (.of_still (Asked.still_of_calm middle))) ?_)
          (.of_still (Asked.still_of_calm last))⟩
      · refine firstly.mono fun within one offers => .inl ?_
        have count : takenBy "write" (before ++ within) = taken within := by
          rw [Asked.takenBy_append, Asked.takenBy_of_still (Asked.still_of_calm earlier),
            offers.named]
          rfl
        rw [Appends, count]
        exact ⟨offers.call, offers.isOpen.prepend before⟩
      by_cases opened : second = none
      · subst opened
        cases overwrites with
        | unopened calm => exact .of_still (Asked.still_of_calm calm)
      have ⟨worked, looked⟩ := follows opened
      refine secondly.mono fun within one offers => .inr ?_
      have appended : takenBy "write" (before ++ appending ++ between ++ within) = appendix := by
        simp only [Asked.takenBy_append, Asked.takenBy_of_still (Asked.still_of_calm earlier),
          Asked.takenBy_of_still (Asked.still_of_calm middle),
          Asked.takenBy_of_named appends.named, offers.named, appends.taken_prefix.2 worked]
        rfl
      have count : takenBy "pwrite" (before ++ appending ++ between ++ within) = taken within := by
        simp only [Asked.takenBy_append, Asked.takenBy_of_still (Asked.still_of_calm earlier),
          Asked.takenBy_of_still (Asked.still_of_calm middle),
          Asked.takenBy_of_named appends.named, offers.named]
        rfl
      constructor
      · rw [count]
        simpa only [Placement.advance, Placement.call, Nat.zero_add] using offers.call
      · exact offers.isOpen.prepend _
      · exact appended
      · exact looked.append offers.shown

theorem takenBy_eq {first second : Option (Except IoError Unit)}
    {before appending between overwriting behind : List Asked}
    (earlier : ∀ one ∈ before, one.call.Calm) (middle : ∀ one ∈ between, one.call.Calm)
    (last : ∀ one ∈ behind, one.call.Calm)
    (appends : Filling path .append .next appendix first appending)
    (overwrites : Filling path .write (.at 0) heading second overwriting) :
    takenBy "write" (before ++ appending ++ between ++ overwriting ++ behind) = taken appending ∧
      takenBy "pwrite" (before ++ appending ++ between ++ overwriting ++ behind) =
        taken overwriting := by
  simp only [Asked.takenBy_append, Asked.takenBy_of_still (Asked.still_of_calm earlier),
    Asked.takenBy_of_still (Asked.still_of_calm middle),
    Asked.takenBy_of_still (Asked.still_of_calm last),
    Asked.takenBy_of_named appends.named, Asked.takenBy_of_named overwrites.named,
    List.nil_append, List.append_nil]
  exact ⟨List.append_nil _, rfl⟩

theorem stuck (arranged : Arranged path privileges result asked) {first last : List Asked}
    {one : Asked} (split : asked = first ++ one :: last) (stuck : one.taken? = some 0) :
    Outcome.ofResult result = .failed (.call one.call.name .nothingWritten) ∧
      ∀ later ∈ last, ∃ fd, later.call = .close fd := by
  cases arranged with
  | @intro _ _ before appending between _ _ earlier middle last appends overwrites _ reached reaches
      stops ends =>
      have quiet : ∀ {asked : List Asked}, (∀ one ∈ asked, one.call.Calm) → one ∉ asked :=
        fun calm => Asked.not_mem_of_taken? stuck (Asked.still_of_calm calm)
      rcases split_append split with ⟨_, _, there⟩ | ⟨_, fourth, rfl⟩
      · exact absurd (by simp [there]) (quiet last)
      rcases split_append fourth with ⟨_, _, there⟩ | ⟨_, third, rfl⟩
      · have ⟨failed, name, closes⟩ := overwrites.stuck there stuck
        rw [reaches.fails _ failed, ends _ failed, name, List.append_nil]
        exact ⟨rfl, closes⟩
      rcases split_append third with ⟨_, _, there⟩ | ⟨_, second, rfl⟩
      · exact absurd (by simp [there]) (quiet middle)
      rcases split_append second with ⟨_, _, there⟩ | ⟨_, there, _⟩
      · have ⟨failed, name, closes⟩ := appends.stuck there stuck
        rw [reached.fails _ failed, name, List.append_assoc, List.append_assoc,
          ← List.append_assoc between, stops _ failed, List.append_nil]
        exact ⟨rfl, closes⟩
      · exact absurd (by simp [there]) (quiet earlier)

theorem replayed (arranged : Arranged path privileges result asked) (store : Store) {object : Nat}
    (named : store.names path = some object) :
    store.Refilled (store.replay asked) object
      (((store.files object).content ++ takenBy "write" asked).put 0 (takenBy "pwrite" asked)) := by
  cases arranged with
  | @intro _ _ before appending between _ _ earlier middle last appends overwrites =>
      have ⟨write, pwrite⟩ := takenBy_eq earlier middle last appends overwrites
      have first := Store.replay_of_calm earlier store
      have named₁ : (store.replay before).names path = some object := by rwa [first.names]
      have appended := (appends.appended named₁).before_alike (Store.replay_of_calm middle _)
      rw [first.files] at appended
      have filled := Store.Refilled.after_alike first appended
      have named₃ : (((store.replay before).replay appending).replay between).names path =
          some object := by rwa [filled.names]
      have overwritten := (overwrites.overwritten named₃).before_alike (Store.replay_of_calm last _)
      rw [filled.content_eq] at overwritten
      rw [write, pwrite, Store.replay_append, Store.replay_append, Store.replay_append,
        Store.replay_append]
      exact filled.trans overwritten

theorem taken_prefix (arranged : Arranged path privileges result asked) :
    takenBy "write" asked <+: appendix ∧ takenBy "pwrite" asked <+: heading ∧
      (result = .ok () → takenBy "write" asked = appendix ∧ takenBy "pwrite" asked = heading) := by
  cases arranged with
  | intro earlier middle last appends overwrites _ reached reaches =>
      have ⟨write, pwrite⟩ := takenBy_eq earlier middle last appends overwrites
      rw [write, pwrite]
      refine ⟨appends.taken_prefix.1, overwrites.taken_prefix.1, fun worked => ⟨?_, ?_⟩⟩
      · exact appends.taken_prefix.2 (reached.works worked)
      · exact overwrites.taken_prefix.2 (reaches.works worked)

theorem writesInOrder (arranged : Arranged path privileges result asked) :
    WritesInOrder path (Outcome.ofResult result) asked where
  changes := arranged.changes
  appended := arranged.taken_prefix.1
  overwritten := arranged.taken_prefix.2.1
  stuck _ _ _ split stuck := arranged.stuck split stuck
  replayed store _ named := arranged.replayed store named
  passed passes := by
    have ⟨_, worked⟩ := Outcome.ofResult_eq_passed_iff.1 passes
    have ⟨write, pwrite⟩ := arranged.taken_prefix.2.2 worked
    refine ⟨write, pwrite, fun store object named => ?_⟩
    have filled := arranged.replayed store named
    rwa [write, pwrite, Bytes.put_zero] at filled

end Arranged

variable {σ : Type} [Kernel σ]

/-- Over every kernel, the write scenario appends the one text and then puts the other over the
beginning, each once and in one piece however the kernel parts it. -/
theorem exercise_writes_in_order (base : Path) (privileges : Privileges) (kernel : σ) :
    let ran := (exercise .contentWrite base privileges).exec kernel
    WritesInOrder (base.join Trigger.contentWrite.fixture) (Outcome.ofResult ran.value)
      (Trace.asked ran.record) := by
  rcases exercised_or_refused .contentWrite base privileges kernel with
    exercised | ⟨⟨interrupt, failed⟩, nothing⟩
  · exact exercised.arranged.writesInOrder
  · intro ran
    rw [failed, nothing]
    have refused : Arranged (base.join Trigger.contentWrite.fixture) privileges
        (.error interrupt) [] := .unbegun (List.forall_mem_nil _)
    exact refused.writesInOrder

/-- Of the first text three bytes are taken, then the rest after an interruption; of the second one
byte and then the rest. -/
example :
    let ran := (exercise .contentWrite "/lower" ⟨1000, false, false⟩).exec
      (Script.mk [.grant {}, .grant {}, .grant {}, .grant { taken := some 3 }, .refuse .eintr,
        .grant {}, .grant {}, .grant {}, .grant {}, .grant {}, .grant {}, .grant {}, .grant {},
        .grant { taken := some 1 }] 1000)
    Outcome.ofResult ran.value = .passed ∧
      ((Trace.asked ran.record).map Asked.call).filter Call.mutates =
        [.write 1000 (.ofText " appended data"), .write 1000 (.ofText "pended data"),
          .write 1000 (.ofText "pended data"), .pwrite 1002 (.ofText "COPY") 0,
          .pwrite 1002 (.ofText "OPY") 1] :=
  ⟨rfl, rfl⟩

end Scenario

end CopyUp
