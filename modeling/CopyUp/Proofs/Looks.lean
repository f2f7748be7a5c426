import CopyUp.Proofs.Contents
import CopyUp.Proofs.Restraint

/-!
# What looking shows and leaves alone

A step that only looks leaves every name and every file alone, whatever it is answered, and if it
works it was shown the identity of the snapshot each time.
-/

namespace CopyUp

/-! ## Looks at the identity -/

namespace Asked

/-- The looks at the identity, each with the identity that it showed. -/
def shown (asked : List Asked) : List (Call × Option Identity) :=
  (asked.filter fun one => one.purpose = .identity).map fun one =>
    (one.call, one.metadata?.map Metadata.identity)

theorem shown_append (first second : List Asked) :
    shown (first ++ second) = shown first ++ shown second := by
  rw [shown, List.filter_append, List.map_append]
  rfl

theorem shown_of_other {asked : List Asked} (other : ∀ one ∈ asked, one.purpose ≠ .identity) :
    shown asked = [] := by
  rw [shown, List.filter_eq_nil_iff.2 (by simpa using other)]
  rfl

end Asked

open Asked (shown)

/-! ## Items in turn -/

namespace InTurn

variable {ε α : Type} {does : α → Except ε Unit → List Asked → Prop} {result : Except ε Unit}
  {asked : List Asked}

theorem shown_eq {each : α → List (Call × Option Identity)} {items : List α}
    (inTurn : InTurn does items result asked) (worked : result = .ok ())
    (shows : ∀ item asked, does item (.ok ()) asked → shown asked = each item) :
    shown asked = items.flatMap each := by
  induction inTurn with
  | done => rfl
  | stops => contradiction
  | goes here _ ih => rw [Asked.shown_append, shows _ _ here, ih worked, List.flatMap_cons]

/-- It ends among the first items, or these work and the others follow. -/
theorem of_append {first second : List α} (inTurn : InTurn does (first ++ second) result asked) :
    (InTurn does first result asked ∧ result ≠ .ok ()) ∨
      ∃ before after, asked = before ++ after ∧ InTurn does first (.ok ()) before ∧
        InTurn does second result after := by
  induction first generalizing asked with
  | nil => exact .inr ⟨[], asked, rfl, .done, inTurn⟩
  | cons item rest ih =>
      cases inTurn with
      | stops failed => exact .inl ⟨.stops failed, nofun⟩
      | goes worked later =>
          rcases ih later with ⟨fails, error⟩ | ⟨before, after, rfl, here, others⟩
          · exact .inl ⟨.goes worked fails, error⟩
          · exact .inr ⟨_, after, (List.append_assoc ..).symm, .goes worked here, others⟩

theorem of_singleton {item : α} (inTurn : InTurn does [item] result asked) :
    does item result asked := by
  cases inTurn with
  | stops failed => exact failed
  | goes worked later =>
      cases later with
      | done => rwa [List.append_nil]

end InTurn

namespace Scenario

variable {scene : Scene} {result : Except Interrupt Unit} {asked : List Asked}

/-! ## Steps that change nothing -/

theorem calm_of_opening {path : Path} {flags : OpenFlags} {reply : Except Errno Descriptor}
    (plain : flags.create = none ∧ flags.truncate = false)
    (answered : Answered .acquire (.openFile path flags) reply asked) :
    ∀ one ∈ asked, one.call.Calm := by
  intro one member
  rw [(answered.same member).2]
  refine ⟨rfl, fun other given same => ?_⟩
  cases same
  exact plain

theorem Access.flags_plain (access : Access) :
    access.flags.create = none ∧ access.flags.truncate = false := by
  cases access <;> exact ⟨rfl, rfl⟩

theorem calm_of_close (fd : Descriptor) (closed : Except Errno Unit) :
    ∀ one ∈ [(⟨.release, ⟨.close fd, closed⟩⟩ : Asked)], one.call.Calm :=
  List.forall_mem_singleton.2 ⟨rfl, nofun⟩

theorem calm_of_resolved {base : Path} {trigger : Trigger} {found : Except Interrupt Snapshot}
    (resolved : Fixture.Resolved base trigger found asked) : ∀ one ∈ asked, one.call.Calm := by
  cases resolved <;> simp [Asked.call, Call.Calm, Call.mutates]

theorem Checked.calm {snapshot : Snapshot} {path : Path} {after : String} {check : Check}
    {result : Except Failure Unit} (checked : Checked snapshot path after check result asked) :
    ∀ one ∈ asked, one.call.Calm := by
  cases checked with
  | stable | stableLink | notByPath | notByLink | absent | linkCount =>
      simp [Asked.call, Call.Calm, Call.mutates]
  | notOpened _ _ answered =>
      have opening := calm_of_opening ⟨rfl, rfl⟩ answered
      simpa [Asked.call, Call.Calm, Call.mutates] using opening
  | byHandle _ _ answered =>
      have opening := calm_of_opening ⟨rfl, rfl⟩ answered
      simp only [List.cons_append, List.forall_mem_cons, List.forall_mem_append]
      simpa [Asked.call, Call.Calm, Call.mutates] using opening

def Step.still : Step → Bool
  | check .. => true
  | opened _ steps => steps.all OpenStep.looks
  | _ => false

theorem calm_of_looks {fd : Descriptor} {steps : List OpenStep}
    (inTurn : InTurn (OpenPerformed scene fd) steps result asked)
    (looks : steps.all OpenStep.looks) : ∀ one ∈ asked, one.call.Calm := by
  intro one member
  have ⟨_, same⟩ := looks_of_inTurn inTurn looks one member
  rw [same]
  exact ⟨rfl, nofun⟩

theorem Performed.calm {step : Step} (still : step.still)
    (performed : Performed scene step result asked) : ∀ one ∈ asked, one.call.Calm := by
  cases performed with
  | removeStale | change | cleanUp => contradiction
  | check checked => exact checked.calm
  | notOpened answered => exact calm_of_opening (Access.flags_plain _) answered
  | opened answered inTurn =>
      have opening := calm_of_opening (Access.flags_plain _) answered
      have used := calm_of_looks inTurn still
      exact List.forall_mem_append.2
        ⟨List.forall_mem_append.2 ⟨opening, used⟩, calm_of_close _ _⟩

theorem calm_of_inTurn {steps : List Step} (inTurn : InTurn (Performed scene) steps result asked)
    (still : ∀ step ∈ steps, step.still) : ∀ one ∈ asked, one.call.Calm :=
  inTurn.forall_mem fun step member _ _ here => Performed.calm (still step member) here

/-! ## What was shown if it worked -/

def OpenStep.shows (expected : Identity) (fd : Descriptor) :
    OpenStep → List (Call × Option Identity)
  | stable _ => [(.fstat fd, some expected)]
  | change _ => []

theorem OpenChange.Applied.purpose_eq {owner : Owner} {fd : Descriptor} {change : OpenChange}
    {result : Except IoError Unit} (applied : change.Applied owner fd result asked) :
    ∀ one ∈ asked, one.purpose = .change := by
  intro one member
  cases applied with
  | wrote written | overwrote written => exact (written.same member).1
  | called _ answered => exact (answered.same member).1

theorem OpenPerformed.shown_eq {fd : Descriptor} {step : OpenStep}
    (performed : OpenPerformed scene fd step (.ok ()) asked) :
    shown asked = step.shows scene.snapshot.expected fd := by
  cases step with
  | change =>
      apply Asked.shown_of_other
      intro one member
      rw [performed.change_ok.purpose_eq one member]
      nofun
  | stable =>
      obtain ⟨metadata, same, rfl⟩ := performed.stable_ok
      rw [OpenStep.shows, ← same]
      rfl

theorem shown_of_resolved {base : Path} {trigger : Trigger} {snapshot : Snapshot}
    (resolved : Fixture.Resolved base trigger (.ok snapshot) asked) :
    shown asked = [(.stat (base.join trigger.fixture), some snapshot.expected)] := by
  cases resolved with
  | confirmed judged =>
      obtain ⟨metadata, rfl, same⟩ := Snapshot.named_eq_ok_iff.1 ⟨(), judged⟩
      rw [← same]
      rfl

theorem shown_of_opening {path : Path} {flags : OpenFlags} {reply : Except Errno Descriptor}
    (answered : Answered .acquire (.openFile path flags) reply asked) : shown asked = [] :=
  Asked.shown_of_other fun one member => (other_of_opening answered one member).2.2

theorem Performed.shown_of_opened {access : Access} {steps : List OpenStep}
    (performed : Performed scene (.opened access steps) (.ok ()) asked) :
    ∃ fd, shown asked = steps.flatMap (OpenStep.shows scene.snapshot.expected fd) := by
  obtain ⟨fd, opening, used, closed, answered, inTurn, rfl⟩ := performed.opened_ok
  have through := inTurn.shown_eq rfl fun _ _ here => OpenPerformed.shown_eq here
  refine ⟨fd, ?_⟩
  rw [Asked.shown_append, Asked.shown_append, shown_of_opening answered, through]
  exact List.append_nil _

theorem Performed.shown_of_stable {file : Role} {after : String}
    (performed : Performed scene (.check .stable file after) (.ok ()) asked) :
    shown asked = [(.stat (scene.path file), some scene.snapshot.expected)] := by
  obtain ⟨metadata, same, rfl⟩ := performed.check_ok.stable_ok
  rw [← same]
  rfl

end Scenario

end CopyUp
