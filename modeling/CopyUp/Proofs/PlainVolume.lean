import CopyUp.Proofs.Purposes
import CopyUp.Proofs.Volume

/-!
# Plain volumes

A kernel mounts a plain volume if it answers every call as the volume does, whatever was called
before. An attempt works from a volume if over every such kernel it ends well; how it leaves the
volume behind is put together from what its single calls do, one rule for each way in which attempts
are built.
-/

namespace CopyUp

/-- Calls that say nothing about regular files and their names, or that have no effect on them. -/
def Call.unusual : Call → Bool
  | openFile _ flags => flags.directory
  | write _ bytes | pwrite _ bytes _ => bytes = []
  | dup .. | getdents64 .. => true
  | _ => false

namespace Volume

variable {Object : Type}

/-- The object has more names than a query can tell, so it tells as many as it can. -/
structure Overflows (volume : Volume Object) (object : Object) (metadata : Metadata) : Prop where
  identity : metadata.identity = volume.number object
  linkCount : metadata.linkCount.toNat = UInt64.size - 1
  more : metadata.linkCount.toNat < {path | volume.names path = some object}.encard

/-- What is certain about the answer to a query about a name: the number of the object, and that an
object with two names is reported to have two at least. -/
structure Shows (volume : Volume Object) (object : Object) (metadata : Metadata) : Prop where
  identity : metadata.identity = volume.number object
  linked : ∀ first second, first ≠ second → volume.names first = some object →
    volume.names second = some object → 2 ≤ metadata.linkCount

theorem Reports.shows {volume : Volume Object} {object : Object} {metadata : Metadata}
    (reports : volume.Reports object metadata) : volume.Shows object metadata :=
  ⟨reports.identity, fun _ _ => reports.two_le_linkCount⟩

theorem Overflows.shows {volume : Volume Object} {object : Object} {metadata : Metadata}
    (overflows : volume.Overflows object metadata) : volume.Shows object metadata := by
  refine ⟨overflows.identity, fun _ _ _ _ _ => ?_⟩
  rw [UInt64.le_iff_toNat_le, overflows.linkCount]
  decide

/-- A volume does not say how the call is answered: a path holds a NUL, a number is not open, or
the call is unusual. -/
def Foreign (volume : Volume Object) (call : Call) : Prop :=
  (∃ path ∈ call.paths, path.HasNul) ∨
    (∃ fd, call.descriptor? = some fd ∧ volume.handles fd = none) ∨ call.unusual

theorem plain_of_named {volume : Volume Object} {path : Path} {object : Object}
    (named : volume.names path = some object) : ¬ path.HasNul := by
  intro nul
  rw [volume.nameable path nul] at named
  contradiction

theorem not_foreign_of_paths {volume : Volume Object} {call : Call}
    (clean : ∀ path ∈ call.paths, ¬ path.HasNul) (none : call.descriptor? = none)
    (usual : call.unusual = false) : ¬ volume.Foreign call := by
  rintro (⟨path, member, nul⟩ | ⟨fd, through, _⟩ | unusual)
  · exact clean path member nul
  · simp [none] at through
  · simp [usual] at unusual

theorem not_foreign_of_held {volume : Volume Object} {call : Call} {fd : Descriptor}
    {handle : Handle Object} (held : volume.handles fd = some handle) (none : call.paths = [])
    (through : call.descriptor? = some fd) (usual : call.unusual = false) :
    ¬ volume.Foreign call := by
  rintro (⟨path, member, _⟩ | ⟨other, same, missing⟩ | unusual)
  · simp [none] at member
  · cases through.symm.trans same
    simp [held] at missing
  · simp [usual] at unusual

end Volume

/-- How a plain volume answers calls: as a volume that works does, new files are made where they
are asked for, and canonical forms of paths are told. Foreign calls may do anything. -/
inductive Serves {Object : Type} (before : Volume Object) : Exchange → Volume Object → Prop
  | answers {exchange : Exchange} {after : Volume Object}
      (answers : Answers before exchange after) : Serves before exchange after
  | created {path : Path} {flags : OpenFlags} {object : Object} {fd : Descriptor}
      (creates : flags.create ≠ none) (missing : before.names path = none)
      (unnamed : ∀ other, before.names other ≠ some object)
      (unheld : ∀ other handle, before.handles other = some handle → handle.object ≠ object)
      (fresh : before.handles fd = none) :
      Serves before ⟨.openFile path flags, .ok fd⟩
        ((before.assign path (some object)).hold fd (some ⟨object, before.number object⟩))
  | statOverflow {path : Path} {object : Object} {metadata : Metadata}
      (named : before.names path = some object) (overflows : before.Overflows object metadata) :
      Serves before ⟨.stat path, .ok metadata⟩ before
  | lstatOverflow {path : Path} {object : Object} {metadata : Metadata}
      (named : before.names path = some object) (overflows : before.Overflows object metadata) :
      Serves before ⟨.lstat path, .ok metadata⟩ before
  | canonical {path : Path} {reply : Except Errno Path} :
      Serves before ⟨.realpath path, reply⟩ before
  | foreign {exchange : Exchange} {after : Volume Object}
      (foreign : before.Foreign exchange.call) : Serves before exchange after

/-- The kernel answers every call as a plain volume does. -/
structure Mounts {σ Object : Type} [Kernel σ] (view : σ → Volume Object) : Prop where
  serves : ∀ call kernel,
    Serves (view kernel) ⟨call, (Kernel.answer call kernel).1⟩ (view (Kernel.answer call kernel).2)

/-! ## Answers to single calls -/

namespace Serves

variable {Object : Type} {before after : Volume Object} {path : Path} {object : Object}

/-- Changes and looks through open files are answered as by any volume that works. -/
theorem answers_of_plain {call : Call} {reply : Except Errno call.Reply}
    (serves : Serves before ⟨call, reply⟩ after) (own : ¬ before.Foreign call)
    (settled : call.mutates ∨ call.descriptor?.isSome) : Answers before ⟨call, reply⟩ after := by
  cases serves with
  | answers answers => exact answers
  | created | statOverflow | lstatOverflow | canonical =>
      simp [Call.mutates, Call.descriptor?] at settled
  | foreign foreign => exact absurd foreign own

theorem answers_of_held {call : Call} {reply : Except Errno call.Reply} {fd : Descriptor}
    {handle : Handle Object} (serves : Serves before ⟨call, reply⟩ after)
    (held : before.handles fd = some handle) (none : call.paths = [])
    (through : call.descriptor? = some fd) (usual : call.unusual = false) :
    Answers before ⟨call, reply⟩ after := by
  have own := Volume.not_foreign_of_held held none through usual
  exact serves.answers_of_plain own (.inr (by simp [through]))

/-- Questions about one path that holds no NUL are no foreign calls. -/
theorem own_of_path {call : Call} (plain : ¬ path.HasNul) (only : call.paths = [path])
    (none : call.descriptor? = none) (usual : call.unusual = false) : ¬ before.Foreign call :=
  Volume.not_foreign_of_paths (by simpa [only] using plain) none usual

theorem query_of_named (query : Query) {reply : Except Errno Metadata}
    (serves : Serves before (query.exchange path reply) after)
    (named : before.names path = some object) :
    after = before ∧ ∃ metadata, reply = .ok metadata ∧ before.Shows object metadata := by
  have plain := Volume.plain_of_named named
  cases query <;> cases serves
  case stat.answers answers | lstat.answers answers =>
      obtain ⟨same, metadata, told, reports⟩ := Answers.query_of_named _ answers named
      exact ⟨same, metadata, told, reports.shows⟩
  case stat.statOverflow overflows other | lstat.lstatOverflow overflows other =>
      cases named.symm.trans other
      exact ⟨rfl, _, rfl, overflows.shows⟩
  case stat.foreign foreign | lstat.foreign foreign =>
      exact absurd foreign (own_of_path plain rfl rfl rfl)

theorem stat_of_missing {reply : Except Errno Metadata}
    (serves : Serves before ⟨.stat path, reply⟩ after) (plain : ¬ path.HasNul)
    (missing : before.names path = none) : after = before ∧ reply = .error .enoent := by
  cases serves with
  | answers answers => exact answers.stat_of_missing missing
  | statOverflow named => exact absurd (named.symm.trans missing) (by simp)
  | foreign foreign => exact absurd foreign (own_of_path plain rfl rfl rfl)

theorem openFile_of_named {flags : OpenFlags} {reply : Except Errno Descriptor}
    (serves : Serves before ⟨.openFile path flags, reply⟩ after)
    (named : before.names path = some object) (usual : flags.directory = false) :
    ∃ fd, reply = .ok fd ∧ after = before.hold fd (some ⟨object, before.number object⟩) := by
  cases serves with
  | answers answers => exact answers.openFile_of_named named
  | created _ missing => exact absurd (named.symm.trans missing) (by simp)
  | foreign foreign =>
      exact absurd foreign (own_of_path (Volume.plain_of_named named) rfl rfl usual)

/-- A file that is asked for is made if it is not there. -/
theorem openFile_of_missing {flags : OpenFlags} {reply : Except Errno Descriptor}
    (serves : Serves before ⟨.openFile path flags, reply⟩ after) (plain : ¬ path.HasNul)
    (missing : before.names path = none) (creates : flags.create ≠ none)
    (usual : flags.directory = false) :
    ∃ fd object, reply = .ok fd ∧ after =
      (before.assign path (some object)).hold fd (some ⟨object, before.number object⟩) := by
  cases serves with
  | answers answers =>
      cases answers with
      | openFile named => exact absurd (named.symm.trans missing) (by simp)
      | openMissing _ existing => exact absurd existing creates
      | altered alters | alteredMissing alters | alteredThrough alters => contradiction
  | created => exact ⟨_, _, rfl, rfl⟩
  | foreign foreign => exact absurd foreign (own_of_path plain rfl rfl usual)

theorem realpath_eq {reply : Except Errno Path}
    (serves : Serves before ⟨.realpath path, reply⟩ after)
    (own : ¬ before.Foreign (.realpath path)) : after = before := by
  cases serves with
  | answers answers =>
      cases answers with
      | altered alters | alteredMissing alters | alteredThrough alters => contradiction
  | canonical => rfl
  | foreign foreign => exact absurd foreign own

end Serves

/-! ## Attempts that work -/

namespace Attempt

variable {σ ε δ α β Object : Type} {view : σ → Volume Object} {before : Volume Object}
  {post : α → Volume Object → Prop}

theorem exec_bind_of_ok {attempt : Attempt σ ε α} (next : α → Attempt σ ε β) {kernel : σ}
    {value : α} (ok : (attempt.exec kernel).value = .ok value) :
    ((attempt >>= next).exec kernel).value =
        ((next value).exec (attempt.exec kernel).state).value ∧
      ((attempt >>= next).exec kernel).state =
        ((next value).exec (attempt.exec kernel).state).state := by
  rw [exec_bind]
  rcases ran : attempt.exec kernel with ⟨error | reached, state, trace⟩ <;> rw [ran] at ok
  · contradiction
  · cases ok
    exact ⟨rfl, rfl⟩

theorem exec_bind_of_error {attempt : Attempt σ ε α} (next : α → Attempt σ ε β) {kernel : σ}
    {error : ε} (failed : (attempt.exec kernel).value = .error error) :
    ((attempt >>= next).exec kernel).value = .error error ∧
      ((attempt >>= next).exec kernel).state = (attempt.exec kernel).state := by
  rw [exec_bind]
  rcases ran : attempt.exec kernel with ⟨reached | value, state, trace⟩ <;> rw [ran] at failed
  · cases failed
    exact ⟨rfl, rfl⟩
  · contradiction

/-- From a kernel with this volume on the attempt succeeds, and its value and the volume that it
leaves behind are related. -/
def Works (attempt : Attempt σ ε α) (view : σ → Volume Object) (before : Volume Object)
    (post : α → Volume Object → Prop) : Prop :=
  ∀ kernel, view kernel = before → ∃ value, (attempt.exec kernel).value = .ok value ∧
    post value (view (attempt.exec kernel).state)

namespace Works

variable {attempt : Attempt σ ε α}

theorem mono {weaker : α → Volume Object → Prop} (works : attempt.Works view before post)
    (implies : ∀ value after, post value after → weaker value after) :
    attempt.Works view before weaker := by
  intro kernel same
  obtain ⟨value, ran, holds⟩ := works kernel same
  exact ⟨value, ran, implies _ _ holds⟩

protected theorem pure {value : α} (holds : post value before) :
    (pure value : Attempt σ ε α).Works view before post := by
  rintro kernel rfl
  exact ⟨value, rfl, holds⟩

protected theorem conclude {result : Except ε α}
    (holds : ∃ value, result = .ok value ∧ post value before) :
    (conclude result : Attempt σ ε α).Works view before post := by
  rintro kernel rfl
  exact holds

protected theorem log {severity : Severity} {text : String} {post : Unit → Volume Object → Prop}
    (holds : post () before) : (log severity text : Attempt σ ε Unit).Works view before post := by
  rintro kernel rfl
  exact ⟨(), rfl, holds⟩

/-- What works goes on from the volume that was left behind. -/
protected theorem bind {next : α → Attempt σ ε β} {final : β → Volume Object → Prop}
    (first : attempt.Works view before post)
    (goes : ∀ value between, post value between → (next value).Works view between final) :
    (attempt >>= next).Works view before final := by
  intro kernel same
  obtain ⟨value, ran, holds⟩ := first kernel same
  obtain ⟨result, state⟩ := exec_bind_of_ok next ran
  rw [result, state]
  exact goes value _ holds _ rfl

theorem after_log {next : Attempt σ ε β} {final : β → Volume Object → Prop} {severity : Severity}
    {text : String} (works : next.Works view before final) :
    (log severity text >>= fun _ => next).Works view before final := by
  have logged : (log severity text : Attempt σ ε Unit).Works view before fun _ after =>
      after = before := .log rfl
  apply logged.bind
  rintro _ _ rfl
  exact works

protected theorem settle (works : attempt.Works view before post) :
    (attempt.settle : Attempt σ δ (Except ε α)).Works view before fun result after =>
      ∃ value, result = .ok value ∧ post value after := by
  intro kernel same
  rw [exec_settle]
  exact ⟨_, rfl, works kernel same⟩

protected theorem explain {translate : ε → δ} (works : attempt.Works view before post) :
    (attempt.explain translate).Works view before post := by
  intro kernel same
  obtain ⟨value, ran, holds⟩ := works kernel same
  rw [exec_explain, ran]
  exact ⟨value, rfl, holds⟩

protected theorem map {f : α → β} {final : β → Volume Object → Prop}
    (works : attempt.Works view before fun value after => final (f value) after) :
    (f <$> attempt).Works view before final := by
  intro kernel same
  obtain ⟨value, ran, holds⟩ := works kernel same
  rw [exec_map, ran]
  exact ⟨f value, rfl, holds⟩

protected theorem discard {final : PUnit → Volume Object → Prop}
    (works : attempt.Works view before fun _ after => final ⟨⟩ after) :
    (discard attempt).Works view before final :=
  Works.map works

/-- Items that each leave the volume alone leave it alone together. -/
theorem forM_still {items : List α} {body : α → Attempt σ ε PUnit}
    (each : ∀ item ∈ items, (body item).Works view before fun _ left => left = before) :
    (items.forM body).Works view before fun _ left => left = before := by
  induction items with
  | nil => exact .pure rfl
  | cons item rest ih =>
      rw [List.forM_eq_forM, List.forM_cons]
      apply (each item List.mem_cons_self).bind
      rintro _ _ rfl
      exact ih fun later member => each later (List.mem_cons_of_mem _ member)

end Works

variable [Kernel σ]

/-- A single call works if the volume answers it so that the attempt succeeds. -/
theorem AsksOnce.works {attempt : Attempt σ ε α} {purpose : Purpose} {call : Call}
    {outcome : Except Errno call.Reply → Except ε α} (mounts : Mounts view)
    (asks : attempt.AsksOnce purpose call outcome)
    (each : ∀ reply after, Serves before ⟨call, reply⟩ after →
      ∃ value, outcome reply = .ok value ∧ post value after) :
    attempt.Works view before post := by
  rintro kernel rfl
  obtain ⟨same, state, _⟩ := asks kernel
  rw [same, state]
  exact each _ _ (mounts.serves call kernel)

end Attempt

namespace FileSystem

variable {σ Object : Type} [Kernel σ] {view : σ → Volume Object} {before : Volume Object}

/-- What is never interrupted is asked once. -/
theorem works_issue (mounts : Mounts view) (purpose : Purpose) {call : Call}
    {post : call.Reply → Volume Object → Prop} (clean : ∀ path ∈ call.paths, ¬ path.HasNul)
    (each : ∀ reply after, Serves before ⟨call, reply⟩ after →
      ∃ value, reply = .ok value ∧ post value after) :
    (issue purpose call).Works view before post := by
  rintro kernel rfl
  obtain ⟨value, ran, holds⟩ := each _ _ (mounts.serves call kernel)
  have once : (Session.perform purpose call).run kernel =
      (Session.ask purpose call).run kernel := by
    by_cases restarts : call.restarts
    · rw [Session.perform_of_restarts purpose restarts, Session.run_persist]
      simp [Session.interrupted, ran]
    · rw [Session.perform_of_not_restarts purpose restarts]
  rw [exec_issue purpose clean, once, Session.run_ask]
  exact ⟨value, by rw [ran]; rfl, holds⟩

/-- A file is released after it was worked with, and then its number is free again. -/
theorem works_withFile {ε α : Type} (mounts : Mounts view) {acquire : Attempt σ ε Descriptor}
    {body : Descriptor → Attempt σ ε α} {opened : Descriptor → Volume Object → Prop}
    {post : α → Volume Object → Prop} (acquired : acquire.Works view before opened)
    (works : ∀ fd between, opened fd between → (body fd).Works view between fun value used =>
      (∃ handle, used.handles fd = some handle) ∧ post value (used.hold fd none)) :
    (withFile acquire body).Works view before post := by
  apply acquired.bind
  intro fd between held
  apply (works fd between held).settle.bind
  rintro _ used ⟨value, rfl, ⟨handle, still⟩, holds⟩
  have releases : (release fd : Attempt σ ε Unit).Works view used fun _ after =>
      after = used.hold fd none := by
    apply (asksOnce_release fd).works mounts
    intro reply after serves
    exact ⟨(), rfl, (serves.answers_of_held still rfl rfl rfl).close_eq⟩
  apply releases.bind
  rintro _ _ rfl
  exact .conclude ⟨value, rfl, holds⟩

/-! ## Writing -/

theorem works_offer (mounts : Mounts view) (purpose : Purpose) {fd : Descriptor} {bytes : Bytes}
    {handle : Handle Object} (held : before.handles fd = some handle) (some : bytes ≠ [])
    (place : Placement) :
    (offer purpose fd bytes place).Works view before fun count after =>
      after = before ∧ 0 < count := by
  cases place with
  | next =>
      apply works_issue mounts purpose (by simp [Call.paths])
      intro reply after serves
      have answers := serves.answers_of_held held rfl rfl (by simp [Call.unusual, some])
      obtain ⟨same, count, told, positive⟩ := answers.write_ok
      exact ⟨count, told, same, positive⟩
  | «at» offset =>
      apply works_issue mounts purpose (by simp [Call.paths])
      intro reply after serves
      have answers := serves.answers_of_held held rfl rfl (by simp [Call.unusual, some])
      obtain ⟨same, count, told, positive⟩ := answers.pwrite_ok
      exact ⟨count, told, same, positive⟩

theorem works_writeAll (mounts : Mounts view) (purpose : Purpose) {fd : Descriptor}
    {handle : Handle Object} (held : before.handles fd = some handle) (place : Placement)
    (bytes : Bytes) :
    (writeAll purpose fd place bytes).Works view before fun _ after => after = before := by
  induction left : bytes.length using Nat.strongRecOn generalizing place bytes with
  | ind left ih =>
      cases bytes with
      | nil => exact .pure rfl
      | cons byte rest =>
          rw [writeAll_cons]
          apply (works_offer mounts purpose held (by simp) place).bind
          rintro count _ ⟨rfl, positive⟩
          rw [if_neg (by omega)]
          apply ih _ _ _ _ rfl
          simp only [← left, List.length_drop, List.length_cons]
          omega

end FileSystem

end CopyUp
