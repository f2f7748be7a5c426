import CopyUp.Kernel.Script
import CopyUp.Proofs.Recheck
import CopyUp.Proofs.Roster
import CopyUp.Proofs.Tracking

/-!
# Every renumbering is detected

If a volume that works renumbers the fixture's object with one of the changes of a scenario, the
scenario fails and reports the two numbers. Up to that change nothing goes wrong, what is done after
it goes wrong in no other way, and a look at a name of the object comes before the end.
-/

namespace CopyUp.Scenario

variable {Object : Type} [DecidableEq Object] {object : Object} {drifted : Identity}
  {before after : Volume Object} {path : Role → Path} {roster : Roster}

/-! ## Checks -/

theorem query_of_present (query : Query) {purpose : Purpose} {reply : Except Errno Metadata}
    {name : Path} {rest : List Asked}
    (evolves : Evolves object drifted before (⟨purpose, query.exchange name reply⟩ :: rest) after)
    (plain : purpose ≠ .change) (named : before.names name = some object) :
    (∃ metadata, reply = .ok metadata ∧ before.Reports object metadata) ∧
      Evolves object drifted before rest after := by
  obtain ⟨between, answers, later⟩ := evolves.cons_of_plain plain
  obtain ⟨rfl, told⟩ := answers.query_of_named query named
  exact ⟨told, later⟩

theorem opened_of_present {flags : OpenFlags} {reply : Except Errno Descriptor} {name : Path}
    {opening rest : List Asked}
    (evolves : Evolves object drifted before (opening ++ rest) after)
    (answered : Answered .acquire (.openFile name flags) reply opening)
    (named : before.names name = some object) :
    ∃ fd, reply = .ok fd ∧
      Evolves object drifted (before.hold fd (some ⟨object, before.number object⟩)) rest after := by
  obtain ⟨between, first, later⟩ := evolves.append
  cases first.once_of_answered answered
  obtain ⟨reached, answers, nothing⟩ := first.cons_of_plain (by simp)
  obtain ⟨fd, rfl, rfl⟩ := Answers.openFile_of_named answers named
  cases nothing
  exact ⟨fd, rfl, later⟩

theorem fstat_of_handle {reply : Except Errno Metadata} {fd : Descriptor}
    {closed : Except Errno Unit}
    (evolves : Evolves object drifted (before.hold fd (some ⟨object, before.number object⟩))
      [⟨.identity, ⟨.fstat fd, reply⟩⟩, ⟨.release, ⟨.close fd, closed⟩⟩] after) :
    after.names = before.names ∧
      ∃ metadata, reply = .ok metadata ∧ metadata.identity = before.number object := by
  obtain ⟨reached, answers, later⟩ := evolves.cons_of_plain (by simp)
  obtain ⟨rfl, metadata, rfl, told⟩ :=
    Answers.fstat_of_held answers (before.handles_hold_self fd _)
  obtain ⟨ended, closes, nothing⟩ := later.cons_of_plain (by simp)
  cases nothing
  rw [Answers.close_eq closes]
  exact ⟨rfl, metadata, rfl, by simpa using told⟩

def Check.looks : Check → Bool
  | stable | stableLink | stableAll => true
  | absent | linkCount _ => false

omit [DecidableEq Object] in
theorem Agrees.named_of_looks {check : Check} {file : Role}
    (agrees : Agrees before object path roster) (looks : check.looks)
    (expects : check.expects roster file) : before.names (path file) = some object := by
  refine agrees.present file ?_
  cases check with
  | stable | stableLink | stableAll => simpa [Check.expects] using expects
  | absent | linkCount => contradiction

omit [DecidableEq Object] in
theorem named_of_reports {snapshot : Snapshot} {query : String} {name : Path}
    {metadata : Metadata} (operation : String) (reports : before.Reports object metadata)
    (number : before.number object = snapshot.expected ∨ before.number object = drifted) :
    (snapshot.named query name operation (.ok metadata) = .ok () ∧
        before.number object = snapshot.expected) ∨
      snapshot.named query name operation (.ok metadata) =
        .error (.identityChanged operation snapshot.expected drifted) := by
  rw [← reports.identity] at number ⊢
  exact compared_cases operation number

/-- A check of names that are as it expects them either passes or reports the new number, and if it
passes and asks for the identity then the object has its first number still. -/
theorem Checked.tracked {snapshot : Snapshot} {file : Role} {operation : String} {check : Check}
    {result : Except Failure Unit} {asked : List Asked}
    (checked : Checked snapshot (path file) operation check result asked)
    (evolves : Evolves object drifted before asked after)
    (agrees : Agrees before object path roster) (distinct : Function.Injective path)
    (number : before.number object = snapshot.expected ∨ before.number object = drifted)
    (expects : check.expects roster file) :
    result = .error (.identityChanged operation snapshot.expected drifted) ∨
      (result = .ok () ∧ after.names = before.names ∧
        (check.looks → before.number object = snapshot.expected)) := by
  cases checked with
  | stable =>
      have named := agrees.named_of_looks rfl expects
      obtain ⟨⟨metadata, rfl, reports⟩, later⟩ := query_of_present .stat evolves (by simp) named
      cases later
      rcases named_of_reports operation reports number with ⟨fine, same⟩ | wrong
      · exact .inr ⟨fine, rfl, fun _ => same⟩
      · exact .inl wrong
  | stableLink =>
      have named := agrees.named_of_looks rfl expects
      obtain ⟨⟨metadata, rfl, reports⟩, later⟩ := query_of_present .lstat evolves (by simp) named
      cases later
      rcases named_of_reports operation reports number with ⟨fine, same⟩ | wrong
      · exact .inr ⟨fine, rfl, fun _ => same⟩
      · exact .inl wrong
  | notByPath judged =>
      have named := agrees.named_of_looks rfl expects
      obtain ⟨⟨metadata, rfl, reports⟩, later⟩ := query_of_present .stat evolves (by simp) named
      rcases named_of_reports operation reports number with ⟨fine, _⟩ | wrong
      · exact absurd (fine.symm.trans judged) (by simp)
      · exact .inl (judged.symm.trans wrong)
  | notByLink judged linked =>
      have named := agrees.named_of_looks rfl expects
      obtain ⟨_, later⟩ := query_of_present .stat evolves (by simp) named
      obtain ⟨⟨metadata, rfl, reports⟩, _⟩ := query_of_present .lstat later (by simp) named
      rcases named_of_reports operation reports number with ⟨fine, _⟩ | wrong
      · exact absurd (fine.symm.trans linked) (by simp)
      · exact .inl (linked.symm.trans wrong)
  | @notOpened _ _ _ opening judged linked answered =>
      have named := agrees.named_of_looks rfl expects
      obtain ⟨_, later⟩ := query_of_present .stat evolves (by simp) named
      obtain ⟨_, opens⟩ := query_of_present .lstat later (by simp) named
      rw [← List.append_nil opening] at opens
      obtain ⟨fd, impossible, _⟩ := opened_of_present opens answered named
      contradiction
  | byHandle judged linked answered =>
      have named := agrees.named_of_looks rfl expects
      obtain ⟨⟨metadata, rfl, reports⟩, later⟩ := query_of_present .stat evolves (by simp) named
      obtain ⟨_, opens⟩ := query_of_present .lstat later (by simp) named
      obtain ⟨fd, same, held⟩ := opened_of_present opens answered named
      cases same
      obtain ⟨names, handle, rfl, told⟩ := fstat_of_handle held
      rcases named_of_reports operation reports number with ⟨fine, same⟩ | wrong
      · rw [same] at told
        refine .inr ⟨?_, names, fun _ => same⟩
        obtain ⟨⟨⟩, passed⟩ := Snapshot.handled_eq_ok_iff.2 ⟨handle, rfl, told⟩
        exact passed
      · exact absurd (wrong.symm.trans judged) (by simp)
  | absent =>
      have gone := agrees.missing file (by simpa [Check.expects] using expects)
      obtain ⟨between, answers, later⟩ := evolves.cons_of_plain (by simp)
      obtain ⟨rfl, rfl⟩ := Answers.stat_of_missing answers gone
      cases later
      exact .inr ⟨rfl, rfl, fun impossible => by contradiction⟩
  | linkCount =>
      simp only [Check.expects, Bool.and_eq_true, decide_eq_true_eq] at expects
      obtain ⟨⟨few, here⟩, another⟩ := expects
      have named := agrees.present file here
      obtain ⟨⟨metadata, rfl, reports⟩, later⟩ := query_of_present .stat evolves (by simp) named
      cases later
      have enough := agrees.two_le_linkCount distinct here another reports
      refine .inr ⟨?_, rfl, fun impossible => by contradiction⟩
      have counts := UInt64.le_trans few enough
      obtain ⟨⟨⟩, counted⟩ := Snapshot.counted_eq_ok_iff.2 ⟨metadata, rfl, counts⟩
      exact counted

/-! ## Steps -/

/-- A change that the roster allows works and leaves behind the names that the roster foresees. -/
theorem PathChange.tracked {owner : Owner} {change : PathChange} {file : Role} {following : Roster}
    {reply : Except Errno (change.call path owner file).Reply} {asked : List Asked}
    (answered : Answered .change (change.call path owner file) reply asked)
    (evolves : Evolves object drifted before asked after)
    (agrees : Agrees before object path roster) (distinct : Function.Injective path)
    (plain : ∀ file, ¬ (path file).HasNul) (next : change.next roster file = some following) :
    (∃ value, reply = .ok value) ∧ Agrees after object path following := by
  cases evolves.once_of_answered answered
  obtain ⟨between, answers, alike⟩ := evolves.single
  suffices (∃ value, reply = .ok value) ∧ Agrees between object path following from
    ⟨this.1, this.2.congr alike.names⟩
  cases change with
  | rename target =>
      obtain ⟨⟨here, free⟩, same⟩ := Option.ite_none_right_eq_some.1 next
      cases same
      obtain ⟨rfl, rfl⟩ := Answers.rename_of_named answers (agrees.present file here)
        (agrees.missing target free)
      exact ⟨⟨(), rfl⟩, (agrees.vacate distinct (plain file)).give distinct (plain target)⟩
  | link target =>
      obtain ⟨⟨here, free⟩, same⟩ := Option.ite_none_right_eq_some.1 next
      cases same
      obtain ⟨rfl, rfl⟩ := Answers.link_of_named answers (agrees.present file here)
        (agrees.missing target free)
      exact ⟨⟨(), rfl⟩, agrees.give distinct (plain target)⟩
  | unlink =>
      obtain ⟨here, same⟩ := Option.ite_none_right_eq_some.1 next
      cases same
      rcases Answers.unlink_cases answers with ⟨rfl, rfl⟩ | ⟨_, missing, _⟩
      · exact ⟨⟨(), rfl⟩, agrees.vacate distinct (plain file)⟩
      · exact absurd ((agrees.present file here).symm.trans missing) (by simp)
  | truncate | chmod | chown | lchown | utimes | utimensat | setxattr | lsetxattr | removexattr
  | lremovexattr =>
      obtain ⟨here, same⟩ := Option.ite_none_right_eq_some.1 next
      cases same
      obtain ⟨rfl, value, rfl⟩ := Answers.altered_of_named answers rfl (agrees.present file here)
      exact ⟨⟨value, rfl⟩, agrees⟩

def Step.looks : Step → Bool
  | check asked _ _ => asked.looks
  | _ => false

/-- A step that the roster allows either works, as the roster foresees, or it reports the new
number. -/
theorem Performed.tracked {scene : Scene} {step : Step} {result : Except Interrupt Unit}
    {asked : List Asked} {following : Roster} (performed : Performed scene step result asked)
    (evolves : Evolves object drifted before asked after)
    (agrees : Agrees before object scene.path roster) (clean : ¬ scene.base.HasNul)
    (number : before.number object = scene.snapshot.expected ∨ before.number object = drifted)
    (next : step.next roster = some following) :
    Detected scene.snapshot.expected drifted result ∨
      (result = .ok () ∧ Agrees after object scene.path following ∧
        (step.looks → before.number object = scene.snapshot.expected)) := by
  have distinct := scene.path_injective
  have plain := scene.not_hasNul_path clean
  cases performed with
  | @removeStale file =>
      obtain ⟨_, same⟩ := Option.ite_none_right_eq_some.1 next
      cases same
      obtain ⟨between, answers, later⟩ := evolves.cons_of_plain (by simp)
      cases later
      refine .inr ?_
      rcases Answers.unlink_cases answers with ⟨rfl, rfl⟩ | ⟨rfl, missing, rfl⟩
      · exact ⟨rfl, agrees.vacate distinct (plain file), fun impossible => by contradiction⟩
      · exact ⟨rfl, agrees.note_missing missing, fun impossible => by contradiction⟩
  | change answered =>
      obtain ⟨⟨value, rfl⟩, agreed⟩ :=
        PathChange.tracked answered evolves agrees distinct plain next
      exact .inr ⟨judged_eq_ok_iff.2 rfl, agreed, fun impossible => by contradiction⟩
  | check checked =>
      obtain ⟨expects, same⟩ := Option.ite_none_right_eq_some.1 next
      cases same
      rcases checked.tracked evolves agrees distinct number expects with
        rfl | ⟨rfl, names, unchanged⟩
      · exact .inl ⟨_, rfl⟩
      · exact .inr ⟨rfl, agrees.congr names, unchanged⟩
  | notOpened answered =>
      obtain ⟨here, _⟩ := Option.ite_none_right_eq_some.1 next
      rw [← List.append_nil asked] at evolves
      obtain ⟨fd, impossible, _⟩ := opened_of_present evolves answered (agrees.present _ here)
      contradiction
  | opened answered inTurn =>
      obtain ⟨here, same⟩ := Option.ite_none_right_eq_some.1 next
      cases same
      rw [List.append_assoc] at evolves
      obtain ⟨fd, same, held⟩ := opened_of_present evolves answered (agrees.present _ here)
      cases same
      obtain ⟨between, used, released⟩ := held.append
      obtain ⟨ended, closes, nothing⟩ := released.cons_of_plain (by simp)
      cases nothing
      rcases tracked_of_opened inTurn used (by simp) number number with detected | ⟨rfl, alike⟩
      · exact .inl detected
      · refine .inr ⟨rfl, agrees.congr ?_, fun impossible => by contradiction⟩
        rw [Answers.close_eq closes]
        exact alike.names
  | @cleanUp file =>
      obtain ⟨here, same⟩ := Option.ite_none_right_eq_some.1 next
      cases same
      obtain ⟨between, answers, later⟩ := evolves.cons_of_plain (by simp)
      cases later
      rcases Answers.unlink_cases answers with ⟨rfl, rfl⟩ | ⟨_, missing, _⟩
      · exact .inr ⟨rfl, agrees.vacate distinct (plain file), fun impossible => by contradiction⟩
      · exact absurd ((agrees.present file here).symm.trans missing) (by simp)

/-! ## Runs -/

/-- Every change is followed by a look at a name. -/
def settles : List Step → Bool
  | [] => true
  | step :: rest => (step.applications = 0 || rest.any Step.looks) && settles rest

theorem settles_steps (trigger : Trigger) : settles (steps trigger) := by
  cases trigger <;> decide

section Runs

variable {scene : Scene} {steps : List Step} {result : Except Interrupt Unit} {asked : List Asked}

omit [DecidableEq Object] in
theorem not_detected_ok {expected : Identity} : ¬ Detected expected drifted (.ok ()) := by
  intro detected
  obtain ⟨operation, impossible⟩ := detected
  contradiction

/-- Whatever a volume renumbers in between, feasible steps work or report the new number. -/
theorem detected_or_ok (inTurn : InTurn (Performed scene) steps result asked)
    (evolves : Evolves object drifted before asked after)
    (agrees : Agrees before object scene.path roster) (clean : ¬ scene.base.HasNul)
    (number : before.number object = scene.snapshot.expected ∨ before.number object = drifted)
    (possible : feasible roster steps) :
    Detected scene.snapshot.expected drifted result ∨ result = .ok () := by
  induction inTurn generalizing before roster with
  | done => exact .inr rfl
  | stops failed =>
      obtain ⟨following, next, _⟩ := next_of_feasible possible
      rcases failed.tracked evolves agrees clean number next with detected | ⟨impossible, _⟩
      · exact .inl detected
      · contradiction
  | goes worked _ ih =>
      obtain ⟨following, next, rest⟩ := next_of_feasible possible
      obtain ⟨between, first, later⟩ := evolves.append
      rcases worked.tracked first agrees clean number next with detected | ⟨_, agreed, _⟩
      · exact absurd detected not_detected_ok
      · exact ih later agreed (first.number_cases number) rest

/-- Once the object is renumbered the next look at one of its names reports it. -/
theorem detected_after (inTurn : InTurn (Performed scene) steps result asked)
    (follows : Follows before asked after) (agrees : Agrees before object scene.path roster)
    (clean : ¬ scene.base.HasNul) (renumbered : before.number object = drifted)
    (differs : drifted ≠ scene.snapshot.expected) (possible : feasible roster steps)
    (looks : steps.any Step.looks) : Detected scene.snapshot.expected drifted result := by
  induction inTurn generalizing before roster with
  | done => contradiction
  | stops failed =>
      obtain ⟨following, next, _⟩ := next_of_feasible possible
      rcases failed.tracked (.of_follows follows) agrees clean (.inr renumbered) next with
        detected | ⟨impossible, _⟩
      · exact detected
      · contradiction
  | goes worked _ ih =>
      obtain ⟨following, next, rest⟩ := next_of_feasible possible
      obtain ⟨between, first, later⟩ := follows.append
      rcases worked.tracked (.of_follows first) agrees clean (.inr renumbered) next with
        detected | ⟨_, agreed, unchanged⟩
      · exact absurd detected not_detected_ok
      · rw [List.any_cons, Bool.or_eq_true] at looks
        rcases looks with now | later_
        · exact absurd (renumbered.symm.trans (unchanged now)) differs
        · exact ih later agreed (by rw [first.number_eq]; exact renumbered) rest later_

/-- If the object is renumbered with a change in between, this is reported. -/
theorem detected_during {first rest : List Asked} {one : Asked} {between reached : Volume Object}
    (inTurn : InTurn (Performed scene) steps result asked) (split : asked = first ++ one :: rest)
    (change : one.purpose = .change) (untilThen : Follows before first between)
    (answers : Answers between one.exchange reached)
    (fromThen : Follows (reached.renumber object drifted) rest after)
    (agrees : Agrees before object scene.path roster) (clean : ¬ scene.base.HasNul)
    (number : before.number object = scene.snapshot.expected)
    (differs : drifted ≠ scene.snapshot.expected) (possible : feasible roster steps)
    (settled : settles steps) : Detected scene.snapshot.expected drifted result := by
  induction inTurn generalizing before roster first rest with
  | done => simp at split
  | stops failed =>
      obtain ⟨following, next, _⟩ := next_of_feasible possible
      have evolves := (Evolves.of_follows untilThen).trans
        (.renumbers change answers (.of_follows fromThen))
      rw [← split] at evolves
      rcases failed.tracked evolves agrees clean (.inl number) next with detected | ⟨impossible, _⟩
      · exact detected
      · contradiction
  | goes worked later ih =>
      obtain ⟨following, next, onward⟩ := next_of_feasible possible
      simp only [settles, Bool.and_eq_true, Bool.or_eq_true, decide_eq_true_eq] at settled
      rcases split_append split with ⟨between, rfl, others⟩ | ⟨between, rfl, rfl⟩
      · -- The change is made by a later step.
        obtain ⟨reached, now, then_⟩ := untilThen.append
        have evolves : Evolves object drifted before _ reached := .of_follows now
        rcases worked.tracked evolves agrees clean (.inl number) next with
          detected | ⟨_, agreed, _⟩
        · exact absurd detected not_detected_ok
        · exact ih others then_ fromThen agreed (by rw [now.number_eq]; exact number) onward
            settled.2
      · -- The change is made by this step, so a look follows it.
        obtain ⟨ended, now, then_⟩ := fromThen.append
        have evolves := (Evolves.of_follows untilThen).trans
          (.renumbers change answers (.of_follows now))
        have renumbered : ended.number object = drifted := by
          rw [now.number_eq]
          exact Volume.number_renumber_self _ _ _
        rcases worked.tracked evolves agrees clean (.inl number) next with
          detected | ⟨_, agreed, _⟩
        · exact absurd detected not_detected_ok
        · rcases settled.1 with none | looks
          · exact absurd change (worked.not_change none _ (by simp))
          · exact detected_after later then_ agreed clean renumbered differs onward looks

end Runs

/-! ## Whole scenarios -/

/-- The calls are answered by a volume that renumbers the object with the change whose turn it is,
counted from nought, unless they end before that. -/
inductive Renumbers (start : Volume Object) (object : Object) (drifted : Identity) (turn : Nat)
    (asked : List Asked) : Prop
  | during {first rest : List Asked} {one : Asked} {between reached ended : Volume Object}
      (split : asked = first ++ one :: rest) (change : one.purpose = .change)
      (completed : first.countP Asked.completes = turn) (untilThen : Follows start first between)
      (answers : Answers between one.exchange reached)
      (fromThen : Follows (reached.renumber object drifted) rest ended)
  | notYet {ended : Volume Object} (completed : asked.countP Asked.completes ≤ turn)
      (follows : Follows start asked ended)

namespace Renumbers

variable {start : Volume Object} {turn : Nat} {asked : List Asked}

theorem evolves (renumbers : Renumbers start object drifted turn asked) :
    ∃ ended, Evolves object drifted start asked ended := by
  cases renumbers with
  | during split change _ untilThen answers fromThen =>
      rw [split]
      exact ⟨_, (Evolves.of_follows untilThen).trans
        (.renumbers change answers (.of_follows fromThen))⟩
  | notYet _ follows => exact ⟨_, .of_follows follows⟩

theorem of_stat {purpose : Purpose} {reply : Except Errno Metadata} {name : Path}
    (renumbers : Renumbers start object drifted turn (⟨purpose, ⟨.stat name, reply⟩⟩ :: asked))
    (plain : purpose ≠ .change) (named : start.names name = some object) :
    (∃ metadata, reply = .ok metadata ∧ start.Reports object metadata) ∧
      Renumbers start object drifted turn asked := by
  obtain ⟨ended, evolves⟩ := renumbers.evolves
  refine ⟨(query_of_present .stat evolves plain named).1, ?_⟩
  have idle : ¬ Asked.completes ⟨purpose, ⟨.stat name, reply⟩⟩ := by
    simp [Asked.completes, plain]
  cases renumbers with
  | @during first _ _ _ _ _ split change completed untilThen answers fromThen =>
      cases first with
      | nil =>
          cases split
          exact absurd change plain
      | cons head first =>
          cases split
          cases untilThen with
          | cons stat untilThen =>
              obtain ⟨rfl, _⟩ := stat.query_of_named .stat named
              rw [List.countP_cons_of_neg idle] at completed
              exact .during rfl change completed untilThen answers fromThen
  | notYet completed follows =>
      cases follows with
      | cons stat follows =>
          obtain ⟨rfl, _⟩ := stat.query_of_named .stat named
          rw [List.countP_cons_of_neg idle] at completed
          exact .notYet completed follows

/-- Steps that are feasible and settled report the new number if it is the turn of one of their
changes. -/
theorem detected {scene : Scene} {steps : List Step} {result : Except Interrupt Unit}
    (renumbers : Renumbers start object drifted turn asked)
    (inTurn : InTurn (Performed scene) steps result asked)
    (agrees : Agrees start object scene.path roster) (clean : ¬ scene.base.HasNul)
    (number : start.number object = scene.snapshot.expected)
    (differs : drifted ≠ scene.snapshot.expected) (possible : feasible roster steps)
    (settled : settles steps) (within : turn < (steps.map Step.applications).sum) :
    Detected scene.snapshot.expected drifted result := by
  cases renumbers with
  | during split change _ untilThen answers fromThen =>
      exact detected_during inTurn split change untilThen answers fromThen agrees clean number
        differs possible settled
  | notYet completed follows =>
      have evolves : Evolves object drifted start asked _ := .of_follows follows
      rcases detected_or_ok inTurn evolves agrees clean (.inl number) possible with detected | rfl
      · exact detected
      · have count : asked.countP Asked.completes = (steps.map Step.applications).sum :=
          countP_of_inTurn (fun _ _ => Performed.countP) inTurn rfl
        omega

end Renumbers

/-- What a scenario over a volume comes to if its fixture is there: the beginning works, and the
steps are done from the volume it started with. -/
theorem steps_of_present {trigger : Trigger} {base : Path} {privileges : Privileges}
    {result : Except Interrupt Unit} {asked : List Asked} {start : Volume Object} {turn : Nat}
    (exercised : Exercised trigger base privileges result asked)
    (renumbers : Renumbers start object drifted turn asked)
    (there : start.names (base.join trigger.fixture) = some object) :
    ∃ owner more, Renumbers start object drifted turn more ∧
      InTurn (Performed ⟨base, privileges, trigger, ⟨start.number object⟩, owner⟩) (steps trigger)
        result more := by
  cases exercised with
  | unresolved resolved =>
      cases resolved with
      | missing | refused =>
          obtain ⟨⟨metadata, impossible, _⟩, _⟩ := renumbers.of_stat (by simp) there
          contradiction
      | @drifted metadata _ _ judged =>
          obtain ⟨⟨_, same, reports⟩, later⟩ := renumbers.of_stat (by simp) there
          obtain ⟨⟨again, rfl, repeated⟩, _⟩ := later.of_stat (by simp) there
          cases same
          have alike : again.identity = metadata.identity :=
            repeated.identity.trans reports.identity.symm
          simp [Snapshot.named, Snapshot.sought, Snapshot.compared, alike] at judged
  | ownerless resolved failed =>
      cases resolved with
      | confirmed judged =>
          obtain ⟨_, later⟩ := renumbers.of_stat (by simp) there
          obtain ⟨_, asking⟩ := later.of_stat (by simp) there
          obtain ⟨⟨metadata, rfl, _⟩, _⟩ := asking.of_stat (by simp) there
          contradiction
  | @steps snapshot owner _ _ asking more resolved known inTurn =>
      cases resolved with
      | confirmed judged =>
          obtain ⟨⟨metadata, same, reports⟩, later⟩ := renumbers.of_stat (by simp) there
          obtain ⟨_, after⟩ := later.of_stat (by simp) there
          cases same
          rw [reports.identity] at inTurn
          rcases known with rfl | ⟨reply, rfl, _⟩
          · exact ⟨owner, more, after, inTurn⟩
          · obtain ⟨_, onward⟩ := after.of_stat (by simp) there
            exact ⟨owner, more, onward, inTurn⟩

/-- If a volume that works renumbers the fixture's object with one of the changes that a scenario
applies, the scenario fails and reports both numbers. -/
theorem exercise_detects {σ : Type} [Kernel σ] (trigger : Trigger) {base : Path}
    (privileges : Privileges) (kernel : σ) {start : Volume Object} {turn : Nat}
    (there : start.names (base.join trigger.fixture) = some object)
    (differs : drifted ≠ start.number object) (within : turn < applications trigger)
    (renumbers : Renumbers start object drifted turn
      (Trace.asked ((exercise trigger base privileges).exec kernel).record)) :
    ∃ operation, Outcome.ofResult ((exercise trigger base privileges).exec kernel).value =
      .failed (.identityChanged operation (start.number object) drifted) := by
  have clean : ¬ base.HasNul := by
    refine Path.not_hasNul_of_join (Role.not_isAbsolute_fileName trigger .fixture) fun nul => ?_
    exact absurd (there.symm.trans (start.nameable _ nul)) (by simp)
  have exercised := (ensures_exercised trigger privileges clean).post kernel
  obtain ⟨owner, more, later, inTurn⟩ := steps_of_present exercised renumbers there
  have agrees : Agrees start object
      (Scene.path ⟨base, privileges, trigger, ⟨start.number object⟩, owner⟩) .initial :=
    .initially there
  obtain ⟨operation, failed⟩ := later.detected inTurn agrees clean rfl differs
    (feasible_steps trigger) (settles_steps trigger) within
  exact ⟨operation, by rw [failed]; rfl⟩

/-- A file is renumbered when space is reserved for it. The open file still reports the old number,
and the name the new one. -/
theorem fallocate_detected :
    let name := "/lower/copyup_fallocate_test.txt"
    let start := Volume.single name (by decide) ⟨42⟩
    let ran := (exercise .spacePreallocate "/lower" ⟨1000, false, false⟩).exec
      (Script.mk (List.replicate 6 (.grant {}) ++
        [.grant { metadata := ⟨⟨43⟩, 1, 0o100644, 0, 0, 0⟩ }]) 1000)
    Renumbers start () ⟨43⟩ 0 (Trace.asked ran.record) ∧ ∃ operation,
      Outcome.ofResult ran.value = .failed (.identityChanged operation ⟨42⟩ ⟨43⟩) := by
  intro name start ran
  have split : Trace.asked ran.record =
      [⟨.snapshot, ⟨.stat name, .ok ⟨⟨42⟩, 1, 0o100644, 0, 0, 0⟩⟩⟩,
        ⟨.identity, ⟨.stat name, .ok ⟨⟨42⟩, 1, 0o100644, 0, 0, 0⟩⟩⟩,
        ⟨.acquire, ⟨.openFile name { access := .readWrite }, .ok 1000⟩⟩] ++
      ⟨.change, ⟨.fallocate 1000 0 0 1024, .ok ()⟩⟩ ::
      [⟨.identity, ⟨.fstat 1000, .ok ⟨⟨42⟩, 1, 0o100644, 0, 0, 0⟩⟩⟩,
        ⟨.release, ⟨.close 1000, .ok ()⟩⟩,
        ⟨.identity, ⟨.stat name, .ok ⟨⟨43⟩, 1, 0o100644, 0, 0, 0⟩⟩⟩] := by rfl
  have told : start.Reports () ⟨⟨42⟩, 1, 0o100644, 0, 0, 0⟩ :=
    Volume.reports_single rfl rfl
  have renumbered : (((start.hold 1000 (some ⟨(), ⟨42⟩⟩)).renumber () ⟨43⟩).hold 1000
      none).Reports () ⟨⟨43⟩, 1, 0o100644, 0, 0, 0⟩ := ⟨rfl, told.linkCount⟩
  have renumbers : Renumbers start () ⟨43⟩ 0 (Trace.asked ran.record) :=
    .during split rfl rfl
      (.cons (.stat rfl told) (.cons (.stat rfl told) (.cons (.openFile rfl rfl) .nil)))
      (.alteredThrough rfl rfl)
      (.cons (.fstat rfl (.inl rfl)) (.cons .close (.cons (.stat rfl renumbered) .nil)))
  exact ⟨renumbers, exercise_detects .spacePreallocate ⟨1000, false, false⟩ _ rfl (by decide)
    (by decide) renumbers⟩

end CopyUp.Scenario
