import CopyUp.Proofs.Asked
import Mathlib.Data.Set.Card

/-!
# Volumes

A file system on which everything works, as far as the checker can tell: names stand for objects,
an object has one number at a time, and an open file stands for the object it was opened on. The
answers of such a file system are a relation between the volume before a call, the answered call and
the volume after it.
-/

namespace CopyUp

def Errno.eexist : Errno := ⟨17⟩

/-- An open file: its object, and the number that this had when it was opened. -/
structure Handle (Object : Type) where
  object : Object
  opened : Identity

structure Volume (Object : Type) where
  names : Path → Option Object
  number : Object → Identity
  handles : Descriptor → Option (Handle Object)
  /-- No name holds a NUL. -/
  nameable : ∀ path, path.HasNul → names path = none

namespace Volume

variable {Object : Type}

def assign (volume : Volume Object) (path : Path) (object? : Option Object) : Volume Object where
  names other := if other = path ∧ ¬ path.HasNul then object? else volume.names other
  number := volume.number
  handles := volume.handles
  nameable other nul := by
    rw [if_neg fun ⟨same, plain⟩ => plain (same ▸ nul)]
    exact volume.nameable other nul

def hold (volume : Volume Object) (fd : Descriptor) (handle? : Option (Handle Object)) :
    Volume Object :=
  { volume with handles := fun other => if other = fd then handle? else volume.handles other }

/-- An object gets another number. Files that are open already keep the old one in mind. -/
def renumber [DecidableEq Object] (volume : Volume Object) (object : Object) (drifted : Identity) :
    Volume Object :=
  { volume with number := fun other => if other = object then drifted else volume.number other }

theorem names_assign_self (volume : Volume Object) {path : Path} (plain : ¬ path.HasNul)
    (object? : Option Object) : (volume.assign path object?).names path = object? :=
  if_pos ⟨rfl, plain⟩

theorem names_assign_of_ne (volume : Volume Object) {path other : Path} (distinct : other ≠ path)
    (object? : Option Object) : (volume.assign path object?).names other = volume.names other :=
  if_neg fun same => distinct same.1

@[simp] theorem names_hold (volume : Volume Object) (fd : Descriptor)
    (handle? : Option (Handle Object)) : (volume.hold fd handle?).names = volume.names := rfl

@[simp] theorem number_hold (volume : Volume Object) (fd : Descriptor)
    (handle? : Option (Handle Object)) : (volume.hold fd handle?).number = volume.number := rfl

@[simp] theorem handles_hold_self (volume : Volume Object) (fd : Descriptor)
    (handle? : Option (Handle Object)) : (volume.hold fd handle?).handles fd = handle? :=
  if_pos rfl

@[simp] theorem number_renumber_self [DecidableEq Object] (volume : Volume Object)
    (object : Object) (drifted : Identity) :
    (volume.renumber object drifted).number object = drifted :=
  if_pos rfl

/-- A volume with one name and nothing open. -/
def single (path : Path) (plain : ¬ path.HasNul) (identity : Identity) : Volume Unit where
  names other := if other = path then some () else none
  number _ := identity
  handles _ := none
  nameable other nul := by
    by_cases same : other = path
    · exact absurd (same ▸ nul) plain
    · exact if_neg same

/-- What a query about a name tells: the number of its object, and how many names this has. -/
structure Reports (volume : Volume Object) (object : Object) (metadata : Metadata) : Prop where
  identity : metadata.identity = volume.number object
  linkCount : metadata.linkCount.toNat = {path | volume.names path = some object}.encard

/-- An object with two names is reported to have two at least. -/
theorem Reports.two_le_linkCount {volume : Volume Object} {object : Object} {metadata : Metadata}
    (reports : volume.Reports object metadata) {first second : Path} (distinct : first ≠ second)
    (here : volume.names first = some object) (there : volume.names second = some object) :
    2 ≤ metadata.linkCount := by
  have pair : ({first, second} : Set Path) ⊆ {path | volume.names path = some object} := by
    rintro path (rfl | rfl)
    · exact here
    · exact there
  have count := Set.encard_le_encard pair
  rw [Set.encard_pair distinct, ← reports.linkCount] at count
  rw [UInt64.le_iff_toNat_le]
  exact_mod_cast count

theorem reports_single {path : Path} {plain : ¬ path.HasNul} {identity : Identity}
    {metadata : Metadata} (same : metadata.identity = identity) (one : metadata.linkCount = 1) :
    (single path plain identity).Reports () metadata := by
  refine ⟨same, ?_⟩
  have alone : {other | (single path plain identity).names other = some ()} = {path} := by
    ext other
    simp [single]
  rw [alone, Set.encard_singleton, one]
  rfl

end Volume

namespace Call

/-- The name of the file that the call alters in place. -/
def altered? : Call → Option Path
  | truncate path _ | chmod path _ | chown path .. | lchown path .. | utimes path ..
  | utimensat path .. | setxattr path .. | lsetxattr path .. | removexattr path _
  | lremovexattr path _ => some path
  | _ => none

def alteredThrough? : Call → Option Descriptor
  | ftruncate fd _ | fchmod fd _ | fchown fd .. | futimens fd .. | fsetxattr fd ..
  | fremovexattr fd _ | fallocate fd .. => some fd
  | _ => none

end Call

/-- How a volume answers the calls of a scenario. Names that are missing are reported as such, all
else works, and a query through an open file tells the number of its object now or when it was
opened. -/
inductive Answers {Object : Type} (before : Volume Object) : Exchange → Volume Object → Prop
  | stat {path : Path} {object : Object} {metadata : Metadata}
      (named : before.names path = some object) (reports : before.Reports object metadata) :
      Answers before ⟨.stat path, .ok metadata⟩ before
  | statMissing {path : Path} (missing : before.names path = none) :
      Answers before ⟨.stat path, .error .enoent⟩ before
  | lstat {path : Path} {object : Object} {metadata : Metadata}
      (named : before.names path = some object) (reports : before.Reports object metadata) :
      Answers before ⟨.lstat path, .ok metadata⟩ before
  | lstatMissing {path : Path} (missing : before.names path = none) :
      Answers before ⟨.lstat path, .error .enoent⟩ before
  | fstat {fd : Descriptor} {handle : Handle Object} {metadata : Metadata}
      (held : before.handles fd = some handle)
      (reports : metadata.identity = handle.opened ∨
        metadata.identity = before.number handle.object) :
      Answers before ⟨.fstat fd, .ok metadata⟩ before
  | openFile {path : Path} {flags : OpenFlags} {object : Object} {fd : Descriptor}
      (named : before.names path = some object) (fresh : before.handles fd = none) :
      Answers before ⟨.openFile path flags, .ok fd⟩
        (before.hold fd (some ⟨object, before.number object⟩))
  | openMissing {path : Path} {flags : OpenFlags} (missing : before.names path = none)
      (existing : flags.create = none) :
      Answers before ⟨.openFile path flags, .error .enoent⟩ before
  | close {fd : Descriptor} : Answers before ⟨.close fd, .ok ()⟩ (before.hold fd none)
  | write {fd : Descriptor} {handle : Handle Object} {bytes : Bytes} {count : Nat}
      (held : before.handles fd = some handle) (some : 0 < count) (most : count ≤ bytes.length) :
      Answers before ⟨.write fd bytes, .ok count⟩ before
  | pwrite {fd : Descriptor} {handle : Handle Object} {bytes : Bytes} {offset count : Nat}
      (held : before.handles fd = some handle) (some : 0 < count) (most : count ≤ bytes.length) :
      Answers before ⟨.pwrite fd bytes offset, .ok count⟩ before
  | altered {call : Call} {path : Path} {object : Object} {value : call.Reply}
      (alters : call.altered? = some path) (named : before.names path = some object) :
      Answers before ⟨call, .ok value⟩ before
  | alteredMissing {call : Call} {path : Path} (alters : call.altered? = some path)
      (missing : before.names path = none) :
      Answers before ⟨call, .error .enoent⟩ before
  | alteredThrough {call : Call} {fd : Descriptor} {handle : Handle Object} {value : call.Reply}
      (alters : call.alteredThrough? = some fd) (held : before.handles fd = some handle) :
      Answers before ⟨call, .ok value⟩ before
  | rename {old new : Path} {object : Object} (named : before.names old = some object)
      (other : before.names new ≠ some object) :
      Answers before ⟨.rename old new, .ok ()⟩
        ((before.assign old none).assign new (some object))
  /-- Between two names of one object nothing is renamed. -/
  | renameSame {old new : Path} {object : Object} (named : before.names old = some object)
      (same : before.names new = some object) :
      Answers before ⟨.rename old new, .ok ()⟩ before
  | renameMissing {old new : Path} (missing : before.names old = none) :
      Answers before ⟨.rename old new, .error .enoent⟩ before
  | link {existing new : Path} {object : Object} (named : before.names existing = some object)
      (free : before.names new = none) :
      Answers before ⟨.link existing new, .ok ()⟩ (before.assign new (some object))
  | linkTaken {existing new : Path} {object other : Object}
      (named : before.names existing = some object) (taken : before.names new = some other) :
      Answers before ⟨.link existing new, .error .eexist⟩ before
  | linkMissing {existing new : Path} (missing : before.names existing = none) :
      Answers before ⟨.link existing new, .error .enoent⟩ before
  | unlink {path : Path} {object : Object} (named : before.names path = some object) :
      Answers before ⟨.unlink path, .ok ()⟩ (before.assign path none)
  | unlinkMissing {path : Path} (missing : before.names path = none) :
      Answers before ⟨.unlink path, .error .enoent⟩ before

namespace Answers

variable {Object : Type} {before after : Volume Object} {path new : Path} {fd : Descriptor}
  {object : Object} {handle : Handle Object}

theorem number_eq {exchange : Exchange} (answers : Answers before exchange after) :
    after.number = before.number := by
  cases answers <;> rfl

theorem not_eintr {call : Call} : ¬ Answers before ⟨call, .error .eintr⟩ after := by
  intro answers
  cases answers

theorem query_of_named (query : Query) {reply : Except Errno Metadata}
    (answers : Answers before (query.exchange path reply) after)
    (named : before.names path = some object) :
    after = before ∧ ∃ metadata, reply = .ok metadata ∧ before.Reports object metadata := by
  cases query <;> cases answers
  case stat.stat reports other | lstat.lstat reports other =>
      cases named.symm.trans other
      exact ⟨rfl, _, rfl, reports⟩
  case stat.statMissing missing | lstat.lstatMissing missing =>
      exact absurd (named.symm.trans missing) (by simp)
  all_goals contradiction

theorem stat_of_missing {reply : Except Errno Metadata}
    (answers : Answers before ⟨.stat path, reply⟩ after) (missing : before.names path = none) :
    after = before ∧ reply = .error .enoent := by
  cases answers with
  | stat named => exact absurd (named.symm.trans missing) (by simp)
  | statMissing => exact ⟨rfl, rfl⟩
  | altered alters | alteredMissing alters | alteredThrough alters => contradiction

theorem fstat_of_held {reply : Except Errno Metadata}
    (answers : Answers before ⟨.fstat fd, reply⟩ after) (held : before.handles fd = some handle) :
    after = before ∧ ∃ metadata, reply = .ok metadata ∧ (metadata.identity = handle.opened ∨
      metadata.identity = before.number handle.object) := by
  cases answers with
  | fstat other reports =>
      cases held.symm.trans other
      exact ⟨rfl, _, rfl, reports⟩
  | altered alters | alteredMissing alters | alteredThrough alters => contradiction

theorem openFile_of_named {flags : OpenFlags} {reply : Except Errno Descriptor}
    (answers : Answers before ⟨.openFile path flags, reply⟩ after)
    (named : before.names path = some object) :
    ∃ fd, reply = .ok fd ∧ after = before.hold fd (some ⟨object, before.number object⟩) := by
  cases answers with
  | openFile other =>
      cases named.symm.trans other
      exact ⟨_, rfl, rfl⟩
  | openMissing missing => exact absurd (named.symm.trans missing) (by simp)
  | altered alters | alteredMissing alters | alteredThrough alters => contradiction

theorem close_eq {reply : Except Errno Unit} (answers : Answers before ⟨.close fd, reply⟩ after) :
    after = before.hold fd none := by
  cases answers with
  | close => rfl
  | altered alters | alteredMissing alters | alteredThrough alters => contradiction

theorem write_ok {bytes : Bytes} {reply : Except Errno Nat}
    (answers : Answers before ⟨.write fd bytes, reply⟩ after) :
    after = before ∧ ∃ count, reply = .ok count ∧ 0 < count := by
  cases answers with
  | write _ some => exact ⟨rfl, _, rfl, some⟩
  | altered alters | alteredMissing alters | alteredThrough alters => contradiction

theorem pwrite_ok {bytes : Bytes} {offset : Nat} {reply : Except Errno Nat}
    (answers : Answers before ⟨.pwrite fd bytes offset, reply⟩ after) :
    after = before ∧ ∃ count, reply = .ok count ∧ 0 < count := by
  cases answers with
  | pwrite _ some => exact ⟨rfl, _, rfl, some⟩
  | altered alters | alteredMissing alters | alteredThrough alters => contradiction

theorem altered_of_named {call : Call} {reply : Except Errno call.Reply}
    (answers : Answers before ⟨call, reply⟩ after) (alters : call.altered? = some path)
    (named : before.names path = some object) :
    after = before ∧ ∃ value, reply = .ok value := by
  cases answers with
  | altered => exact ⟨rfl, _, rfl⟩
  | alteredMissing other missing =>
      cases alters.symm.trans other
      exact absurd (named.symm.trans missing) (by simp)
  | alteredThrough => exact ⟨rfl, _, rfl⟩
  | stat | statMissing | lstat | lstatMissing | fstat | openFile | openMissing | close | write
  | pwrite | rename | renameSame | renameMissing | link | linkTaken | linkMissing | unlink
  | unlinkMissing => contradiction

theorem alteredThrough_ok {call : Call} {reply : Except Errno call.Reply}
    (answers : Answers before ⟨call, reply⟩ after) (alters : call.alteredThrough? = some fd) :
    after = before ∧ ∃ value, reply = .ok value := by
  cases answers with
  | altered => exact ⟨rfl, _, rfl⟩
  | alteredMissing other => cases call <;> contradiction
  | alteredThrough => exact ⟨rfl, _, rfl⟩
  | stat | statMissing | lstat | lstatMissing | fstat | openFile | openMissing | close | write
  | pwrite | rename | renameSame | renameMissing | link | linkTaken | linkMissing | unlink
  | unlinkMissing => contradiction

theorem rename_of_named {reply : Except Errno Unit}
    (answers : Answers before ⟨.rename path new, reply⟩ after)
    (named : before.names path = some object) (free : before.names new = none) :
    reply = .ok () ∧ after = (before.assign path none).assign new (some object) := by
  cases answers with
  | rename other =>
      cases named.symm.trans other
      exact ⟨rfl, rfl⟩
  | renameSame _ same => exact absurd (free.symm.trans same) (by simp)
  | renameMissing missing => exact absurd (named.symm.trans missing) (by simp)
  | altered alters | alteredMissing alters | alteredThrough alters => contradiction

theorem link_of_named {reply : Except Errno Unit}
    (answers : Answers before ⟨.link path new, reply⟩ after)
    (named : before.names path = some object) (free : before.names new = none) :
    reply = .ok () ∧ after = before.assign new (some object) := by
  cases answers with
  | link other =>
      cases named.symm.trans other
      exact ⟨rfl, rfl⟩
  | linkTaken _ taken => exact absurd (free.symm.trans taken) (by simp)
  | linkMissing missing => exact absurd (named.symm.trans missing) (by simp)
  | altered alters | alteredMissing alters | alteredThrough alters => contradiction

theorem unlink_cases {reply : Except Errno Unit}
    (answers : Answers before ⟨.unlink path, reply⟩ after) :
    (reply = .ok () ∧ after = before.assign path none) ∨
      (reply = .error .enoent ∧ before.names path = none ∧ after = before) := by
  cases answers with
  | unlink => exact .inl ⟨rfl, rfl⟩
  | unlinkMissing missing => exact .inr ⟨rfl, missing, rfl⟩
  | altered alters | alteredMissing alters | alteredThrough alters => contradiction

end Answers

end CopyUp
