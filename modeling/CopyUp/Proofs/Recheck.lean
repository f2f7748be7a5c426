import CopyUp.Kernel.Script
import CopyUp.Proofs.Completion

/-!
# When changes are rechecked

In a passing run every completed change is followed by a look at the fixture, by its name and, if
the change went through an open file, through that file, before anything is changed again. There is
one exception: after an attribute was set through an open file the name is not looked at.
-/

namespace CopyUp

namespace Asked

/-- The calls before anything is changed again. -/
def window (after : List Asked) : List Asked := after.takeWhile fun one => !one.call.mutates

def openWindow (fd : Descriptor) (after : List Asked) : List Asked :=
  after.takeWhile fun one => !one.call.mutates && one.closed? ≠ some fd

/-- Some call asked for the name and was told the expected identity. -/
def SeenAt (expected : Identity) (path : Path) (asked : List Asked) : Prop :=
  ∃ one ∈ asked, ∃ metadata, one.exchange = ⟨.stat path, .ok metadata⟩ ∧
    metadata.identity = expected

def SeenThrough (expected : Identity) (fd : Descriptor) (asked : List Asked) : Prop :=
  ∃ one ∈ asked, ∃ metadata, one.exchange = ⟨.fstat fd, .ok metadata⟩ ∧
    metadata.identity = expected

/-- A completed change of the file that goes by a name is rechecked by what is asked after it. -/
structure Rechecked (expected : Identity) (name : Path) (one : Asked) (after : List Asked) :
    Prop where
  byName : SeenAt expected (one.renamed name) (window after) ↔
    ∀ fd key value, one.call ≠ .fsetxattr fd key value
  byHandle : ∀ fd, one.call.descriptor? = some fd → SeenThrough expected fd (openWindow fd after)

/-- Every completed change is rechecked, from a point on where the file goes by the name. -/
def RecheckedFrom (expected : Identity) : Path → List Asked → Prop
  | _, [] => True
  | name, one :: rest => (one.completes → Rechecked expected name one rest) ∧
      RecheckedFrom expected (one.renamed name) rest

/-- At each place where a change completes it is rechecked under the name it has by then. -/
theorem recheckedFrom_iff {expected : Identity} {name : Path} {asked : List Asked} :
    RecheckedFrom expected name asked ↔ ∀ before one after, asked = before ++ one :: after →
      one.completes → Rechecked expected (before.foldl renamed name) one after := by
  induction asked generalizing name with
  | nil => simp [RecheckedFrom]
  | cons first rest ih =>
      rw [RecheckedFrom, ih]
      constructor
      · rintro ⟨now, later⟩ before one after split completes
        cases before with
        | nil =>
            cases split
            exact now completes
        | cons head before =>
            cases split
            exact later before one after rfl completes
      · intro all
        refine ⟨fun completes => all [] first rest rfl completes, ?_⟩
        intro before one after split completes
        exact all (first :: before) one after (by rw [split, List.cons_append]) completes

/-! ## Windows -/

theorem window_append {quiet : List Asked} (still : ∀ one ∈ quiet, one.call.mutates = false)
    (more : List Asked) : window (quiet ++ more) = quiet ++ window more :=
  List.takeWhile_append_of_pos fun one member => by simp [still one member]

theorem SeenAt.append_left {expected : Identity} {path : Path} {asked : List Asked}
    (seen : SeenAt expected path asked) (earlier : List Asked) :
    SeenAt expected path (earlier ++ asked) := by
  obtain ⟨one, member, metadata, same⟩ := seen
  exact ⟨one, List.mem_append_right _ member, metadata, same⟩

/-- Idle calls put nothing off and leave the name as it is. -/
theorem recheckedFrom_append {expected : Identity} {name : Path} {idle more : List Asked}
    (all : ∀ one ∈ idle, one.Idle) (later : RecheckedFrom expected name more) :
    RecheckedFrom expected name (idle ++ more) := by
  induction idle with
  | nil => exact later
  | cons one rest ih =>
      obtain ⟨unfinished, keeps⟩ := all one (by simp)
      refine ⟨by simp [unfinished], ?_⟩
      rw [keeps]
      exact ih fun other member => all other (by simp [member])

end Asked

open Asked (Idle Rechecked RecheckedFrom SeenAt SeenThrough window openWindow)

theorem Finishes.recheckedFrom {expected : Identity} {name : Path} {asked more : List Asked}
    {last : Asked} (finishes : Finishes asked last)
    (rechecked : Rechecked expected name last more)
    (later : RecheckedFrom expected (last.renamed name) more) :
    RecheckedFrom expected name (asked ++ more) := by
  obtain ⟨earlier, rfl, idle⟩ := finishes.idleBefore
  rw [List.append_assoc]
  exact Asked.recheckedFrom_append idle ⟨fun _ => rechecked, later⟩

namespace Scenario

/-! ## What the steps have to look like -/

/-- The next looks come before the next change, and one of them is at the file. -/
def looksAt (file : Role) : List Step → Bool
  | .check .stable other _ :: rest => other = file || looksAt file rest
  | .check .stableAll other _ :: rest => other = file || looksAt file rest
  | .check _ _ _ :: rest => looksAt file rest
  | _ => false

def changesNext : List Step → Bool
  | .change _ _ :: _ => true
  | _ => false

def rechecks (file : Role) : List Step → Bool
  | [] => true
  | .change (.rename target) old :: rest =>
    old = file && looksAt target rest && rechecks target rest
  | .change _ _ :: rest => looksAt file rest && rechecks file rest
  | .opened _ (.change change :: .stable _ :: more) :: rest =>
    more.all OpenStep.looks && (if change.setsAttribute then changesNext rest
      else looksAt file rest) && rechecks file rest
  | .opened _ steps :: rest => steps.all OpenStep.looks && rechecks file rest
  | _ :: rest => rechecks file rest

theorem rechecks_of_opened {file : Role} {access : Access} {steps : List OpenStep}
    {rest : List Step} (static : rechecks file (.opened access steps :: rest)) :
    rechecks file rest := by
  cases steps with
  | nil => simpa [rechecks] using static
  | cons first others =>
      cases first with
      | stable =>
          simp only [rechecks, Bool.and_eq_true] at static
          exact static.2
      | change =>
          cases others with
          | nil =>
              simp only [rechecks, Bool.and_eq_true] at static
              exact static.2
          | cons second =>
              cases second <;> simp only [rechecks, Bool.and_eq_true] at static <;>
                exact static.2

theorem rechecks_steps (trigger : Trigger) : rechecks .fixture (steps trigger) := by
  cases trigger <;> decide

/-! ## Looks -/

variable {scene : Scene}

theorem seenAt_of_looksAt {file : Role} {steps : List Step} {result : Except Interrupt Unit}
    {asked : List Asked} (inTurn : InTurn (Performed scene) steps result asked)
    (worked : result = .ok ()) (looks : looksAt file steps) :
    SeenAt scene.snapshot.expected (scene.path file) (window asked) := by
  induction inTurn with
  | done => contradiction
  | stops => contradiction
  | @goes step rest _ asked more performed later ih =>
      cases step with
      | removeStale | change | opened | cleanUp => contradiction
      | check check other after =>
          have checked := performed.check_ok
          have still := fun one member => (checked.still one member).2
          rw [Asked.window_append still]
          have onward : looksAt file rest → SeenAt scene.snapshot.expected (scene.path file)
              (asked ++ window more) := fun looks => (ih worked looks).append_left asked
          cases check with
          | stableLink | absent | linkCount => exact onward looks
          | stable =>
              simp only [looksAt, Bool.or_eq_true, decide_eq_true_eq] at looks
              rcases looks with rfl | looks
              · obtain ⟨metadata, same, rfl⟩ := checked.stable_ok
                exact ⟨_, List.mem_cons_self, metadata, rfl, same⟩
              · exact onward looks
          | stableAll =>
              simp only [looksAt, Bool.or_eq_true, decide_eq_true_eq] at looks
              rcases looks with rfl | looks
              · obtain ⟨metadata, others, same, rfl⟩ := checked.stableAll_ok
                exact ⟨_, List.mem_cons_self, metadata, rfl, same⟩
              · exact onward looks

theorem window_of_changesNext {steps : List Step} {asked : List Asked}
    (inTurn : InTurn (Performed scene) steps (.ok ()) asked) (next : changesNext steps) :
    window asked = [] := by
  cases inTurn with
  | done => contradiction
  | @goes step rest _ first more performed later =>
      cases step with
      | removeStale | check | opened | cleanUp => contradiction
      | change change file =>
          obtain ⟨value, answered⟩ := performed.change_ok
          have mutates : ∀ one ∈ first, one.call.mutates = true := by
            intro one member
            rw [(answered.same member).2]
            exact change.mutates_call _ _ _
          cases answered with
          | once => exact List.takeWhile_cons_of_neg (by simpa using mutates _ (by simp))
          | again => exact List.takeWhile_cons_of_neg (by simpa using mutates _ (by simp))

/-! ## Every change is rechecked -/

/-- A change through a name is rechecked if one of the next looks is at the name it has then. -/
theorem rechecked_of_looksAt {file target : Role} {steps : List Step} {more : List Asked}
    {last : Asked} (inTurn : InTurn (Performed scene) steps (.ok ()) more)
    (looks : looksAt target steps) (renamed : last.renamed (scene.path file) = scene.path target)
    (named : last.call.descriptor? = none) :
    Rechecked scene.snapshot.expected (scene.path file) last more where
  byName := by
    rw [renamed]
    refine ⟨fun _ fd key value same => ?_, fun _ => seenAt_of_looksAt inTurn rfl looks⟩
    rw [same] at named
    contradiction
  byHandle fd same := by
    rw [named] at same
    contradiction

/-- What is asked through an open file between a change and its release. -/
structure Trailing (fd : Descriptor) (trailing : List Asked) : Prop where
  still : ∀ one ∈ trailing, one.purpose ≠ .change ∧ one.call.mutates = false
  nameless : ∀ one ∈ trailing, ∀ path, one.call ≠ .stat path

theorem trailing_of_looks {fd : Descriptor} {looks : List Asked}
    (all : ∀ one ∈ looks, ∃ reply, one = ⟨.identity, ⟨.fstat fd, reply⟩⟩)
    (closed : Except Errno Unit) :
    Trailing fd (looks ++ [⟨.release, ⟨.close fd, closed⟩⟩]) := by
  constructor <;> intro one member
  · rcases List.mem_append.1 member with look | close
    · obtain ⟨reply, rfl⟩ := all one look
      exact ⟨by simp, rfl⟩
    · cases List.mem_singleton.1 close
      exact ⟨by simp, rfl⟩
  · intro path
    rcases List.mem_append.1 member with look | close
    · obtain ⟨reply, rfl⟩ := all one look
      simp [Asked.call]
    · cases List.mem_singleton.1 close
      simp [Asked.call]

/-- A change through an open file is rechecked through that file, and by its name if one of the next
looks is at the name. -/
theorem rechecked_of_trailing {file : Role} {fd : Descriptor} {change : OpenChange}
    {steps : List Step} {metadata : Metadata} {trailing more : List Asked} {last : Asked}
    (inTurn : InTurn (Performed scene) steps (.ok ()) more)
    (same : metadata.identity = scene.snapshot.expected)
    (trails : Trailing fd (⟨.identity, ⟨.fstat fd, .ok metadata⟩⟩ :: trailing))
    (through : last.call.descriptor? = some fd) (keeps : ∀ name, last.renamed name = name)
    (sets : (∀ fd key value, last.call ≠ .fsetxattr fd key value) ↔ change.setsAttribute = false)
    (next : if change.setsAttribute then changesNext steps else looksAt file steps) :
    Rechecked scene.snapshot.expected (scene.path file) last
      (⟨.identity, ⟨.fstat fd, .ok metadata⟩⟩ :: trailing ++ more) where
  byName := by
    rw [keeps, sets, Asked.window_append fun one member => (trails.still one member).2]
    by_cases setting : change.setsAttribute
    · rw [if_pos setting] at next
      rw [window_of_changesNext inTurn next, List.append_nil]
      refine ⟨?_, fun other => by simp [setting] at other⟩
      rintro ⟨one, member, seen, asks, _⟩
      exact absurd (congrArg Exchange.call asks) (trails.nameless one member _)
    · rw [if_neg setting] at next
      refine ⟨fun _ => by simpa using setting, fun _ => ?_⟩
      exact (seenAt_of_looksAt inTurn rfl next).append_left _
  byHandle other usesOther := by
    rw [through] at usesOther
    cases usesOther
    exact ⟨_, List.mem_cons_self, metadata, rfl, same⟩

theorem recheckedFrom_of_change {file : Role} {fd : Descriptor} {change : OpenChange}
    {after : String} {others : List OpenStep} {rest : List Step}
    {changing looking looks more : List Asked}
    (changed : OpenPerformed scene fd (.change change) (.ok ()) changing)
    (looked : OpenPerformed scene fd (.stable after) (.ok ()) looking)
    (inTurn : InTurn (OpenPerformed scene fd) others (.ok ()) looks)
    (only : others.all OpenStep.looks) (later : InTurn (Performed scene) rest (.ok ()) more)
    (next : if change.setsAttribute then changesNext rest else looksAt file rest)
    (onward : RecheckedFrom scene.snapshot.expected (scene.path file) more)
    (closed : Except Errno Unit) :
    RecheckedFrom scene.snapshot.expected (scene.path file)
      (changing ++ (looking ++ (looks ++ [⟨.release, ⟨.close fd, closed⟩⟩] ++ more))) := by
  obtain ⟨metadata, same, rfl⟩ := looked.stable_ok
  have all := looks_of_inTurn inTurn only
  have trails := trailing_of_looks (List.forall_mem_cons.2 ⟨⟨.ok metadata, rfl⟩, all⟩) closed
  rw [List.cons_append] at trails
  have behind : RecheckedFrom scene.snapshot.expected (scene.path file)
      ([⟨.identity, ⟨.fstat fd, .ok metadata⟩⟩] ++
        (looks ++ [⟨.release, ⟨.close fd, closed⟩⟩] ++ more)) := by
    rw [List.singleton_append, ← List.cons_append]
    exact Asked.recheckedFrom_append (fun one member => Asked.idle_of_still
      (trails.still one member).1 (trails.still one member).2) onward
  rcases changed.change_ok.finishes with ⟨_, rfl⟩ | ⟨_, last, finishes, through, keeps, sets⟩
  · exact behind
  · have rechecked := rechecked_of_trailing later same trails through keeps sets next
    exact finishes.recheckedFrom rechecked (by rw [keeps]; exact behind)

theorem recheckedFrom_of_opened {file : Role} {access : Access} {steps : List OpenStep}
    {rest : List Step} {asked more : List Asked}
    (performed : Performed scene (.opened access steps) (.ok ()) asked)
    (later : InTurn (Performed scene) rest (.ok ()) more)
    (static : rechecks file (.opened access steps :: rest))
    (onward : RecheckedFrom scene.snapshot.expected (scene.path file) more) :
    RecheckedFrom scene.snapshot.expected (scene.path file) (asked ++ more) := by
  obtain ⟨fd, opening, used, closed, answered, inTurn, rfl⟩ := performed.opened_ok
  have opens : ∀ one ∈ opening, one.Idle := idle_of_answered answered (by decide) rfl
  have lookOnly : steps.all OpenStep.looks → RecheckedFrom scene.snapshot.expected
      (scene.path file) (opening ++ used ++ [⟨.release, ⟨.close fd, closed⟩⟩] ++ more) := by
    intro looks
    have trails := trailing_of_looks (looks_of_inTurn inTurn looks) closed
    rw [List.append_assoc opening, List.append_assoc opening]
    refine Asked.recheckedFrom_append opens (Asked.recheckedFrom_append ?_ onward)
    exact fun one member => Asked.idle_of_still (trails.still one member).1
      (trails.still one member).2
  cases steps with
  | nil => exact lookOnly rfl
  | cons first others =>
      cases first with
      | stable after =>
          simp only [rechecks, Bool.and_eq_true] at static
          exact lookOnly static.1
      | change change =>
          cases others with
          | nil => simp [rechecks, OpenStep.looks] at static
          | cons second others =>
              cases second with
              | change => simp [rechecks, OpenStep.looks] at static
              | stable after =>
                  simp only [rechecks, Bool.and_eq_true] at static
                  obtain ⟨⟨looks, follows⟩, _⟩ := static
                  have next : if change.setsAttribute then changesNext rest
                      else looksAt file rest := by
                    by_cases sets : change.setsAttribute <;> simpa [sets] using follows
                  cases inTurn with
                  | goes changed inTurn =>
                      cases inTurn with
                      | goes looked inTurn =>
                          have rechecked := recheckedFrom_of_change changed looked inTurn looks
                            later next onward closed
                          have all := Asked.recheckedFrom_append opens rechecked
                          simpa using all

/-- Steps that recheck every change leave a record in which every change is rechecked. -/
theorem recheckedFrom_of_rechecks {file : Role} {steps : List Step}
    {result : Except Interrupt Unit} {asked : List Asked}
    (inTurn : InTurn (Performed scene) steps result asked) (worked : result = .ok ())
    (static : rechecks file steps) :
    RecheckedFrom scene.snapshot.expected (scene.path file) asked := by
  induction inTurn generalizing file with
  | done => trivial
  | stops => contradiction
  | @goes step rest _ asked more performed later ih =>
      subst worked
      cases step with
      | removeStale other | cleanUp other =>
          refine Asked.recheckedFrom_append ?_ (ih rfl static)
          generalize (Except.ok () : Except Interrupt Unit) = result at performed
          cases performed
          exact List.forall_mem_singleton.2 (Asked.idle_of_purpose (by simp) (by simp [Asked.call]))
      | check =>
          exact Asked.recheckedFrom_append performed.check_ok.idle (ih rfl static)
      | opened access steps =>
          exact recheckedFrom_of_opened performed later static (ih rfl (rechecks_of_opened static))
      | change change old =>
          obtain ⟨value, answered⟩ := performed.change_ok
          have finishes := PathChange.finishes answered
          have nameless := change.descriptor?_call scene.path scene.owner old
          cases change with
          | rename target =>
              simp only [rechecks, Bool.and_eq_true, decide_eq_true_eq] at static
              obtain ⟨⟨rfl, looks⟩, static⟩ := static
              have renamed : Asked.renamed (scene.path old) ⟨.change, ⟨_, .ok value⟩⟩ =
                scene.path target := by simp [Asked.renamed, PathChange.call]
              refine finishes.recheckedFrom (rechecked_of_looksAt later looks renamed nameless) ?_
              rw [renamed]
              exact ih rfl static
          | truncate | chmod | chown | lchown | link | unlink | utimes | utimensat | setxattr
          | lsetxattr | removexattr | lremovexattr =>
              simp only [rechecks, Bool.and_eq_true] at static
              refine finishes.recheckedFrom (rechecked_of_looksAt later static.1 rfl nameless) ?_
              exact ih rfl static.2

/-! ## Whole scenarios -/

/-- In a passing scenario every completed change is rechecked: through the open file that it was
made through, and by the name the fixture has then, unless it sets an attribute through an open
file. -/
theorem exercise_rechecked (trigger : Trigger) {base : Path} (privileges : Privileges)
    (clean : ¬ base.HasNul) {σ : Type} [Kernel σ] (kernel : σ) {before after : List Asked}
    {one : Asked}
    (passed : Outcome.ofResult ((exercise trigger base privileges).exec kernel).value = .passed)
    (split : Trace.asked ((exercise trigger base privileges).exec kernel).record =
      before ++ one :: after) (completes : one.completes) :
    ∃ expected, Asked.firstIdentity? (before ++ one :: after) = some expected ∧
      Rechecked expected (before.foldl Asked.renamed (base.join trigger.fixture)) one after := by
  obtain ⟨⟨⟩, worked⟩ := Outcome.ofResult_eq_passed_iff.1 passed
  have course := (ensures_exercised trigger privileges clean).post kernel
  rw [worked, split] at course
  generalize whole : before ++ one :: after = asked at course ⊢
  cases course with
  | steps resolved known inTurn =>
      cases resolved with
      | @confirmed metadata again judged =>
          refine ⟨metadata.identity, rfl, ?_⟩
          have static := recheckedFrom_of_rechecks inTurn rfl (rechecks_steps trigger)
          refine Asked.recheckedFrom_iff.1 ?_ before one after whole.symm completes
          refine Asked.recheckedFrom_append ?_ static
          rcases known with rfl | ⟨reply, rfl, _⟩
          all_goals
            intro other member
            simp only [List.append_nil, List.cons_append, List.nil_append, List.mem_cons,
              List.not_mem_nil, or_false] at member
          · rcases member with rfl | rfl <;> exact Asked.idle_of_still (by simp) rfl
          · rcases member with rfl | rfl | rfl <;> exact Asked.idle_of_still (by simp) rfl

/-- Over a file system on which everything works, an attribute that is set through an open file is
not rechecked by name. -/
theorem fsetxattr_not_seen :
    let asked := Trace.asked ((exercise .attributeSet "/lower" ⟨1000, false, false⟩).exec
      (Script.mk [] 1000)).record
    ∃ expected before one after, asked = before ++ one :: after ∧ one.completes ∧
      Asked.firstIdentity? asked = some expected ∧
        ¬ SeenAt expected (one.renamed (before.foldl Asked.renamed "/lower/copyup_xattr_test.txt"))
          (window after) := by
  intro asked
  have split : asked = asked.take 15 ++
      ⟨.change, ⟨.fsetxattr 1002 "user.test_attr3" (.ofText attributeValue), .ok ()⟩⟩ ::
        asked.drop 16 := by rfl
  obtain ⟨expected, first, rechecked⟩ :=
    exercise_rechecked .attributeSet ⟨1000, false, false⟩ (by decide) (Script.mk [] 1000) (by rfl)
      split (by rfl)
  refine ⟨expected, _, _, _, split, by rfl, split ▸ first, fun seen => ?_⟩
  exact rechecked.byName.1 seen _ _ _ rfl

end Scenario

end CopyUp
