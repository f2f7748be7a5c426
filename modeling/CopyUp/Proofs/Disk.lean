import CopyUp.Proofs.PlainVolume

/-!
# Disks

A kernel that holds a plain volume of finitely many names in memory and serves it. Objects and open
files are numbered one after another, and no number is given out twice.
-/

namespace CopyUp

structure Disk where
  volume : Volume Nat
  /-- Where names are looked for. -/
  paths : Finset Path
  nextObject : Nat
  nextDescriptor : Descriptor
  named : ∀ path object, volume.names path = some object → path ∈ paths ∧ object < nextObject
  held : ∀ fd handle, volume.handles fd = some handle →
    fd < nextDescriptor ∧ handle.object < nextObject

namespace Disk

variable (disk : Disk)

/-- A disk with nothing on it, on which objects are to be numbered in order. -/
def blank : Disk where
  volume := ⟨fun _ => none, fun object => ⟨UInt64.ofNat object⟩, fun _ => none, fun _ _ => rfl⟩
  paths := ∅
  nextObject := 0
  nextDescriptor := 0
  named _ _ named := by contradiction
  held _ _ held := by contradiction

def assign (path : Path) (object : Nat) : Disk where
  volume := disk.volume.assign path (some object)
  paths := insert path disk.paths
  nextObject := max disk.nextObject (object + 1)
  nextDescriptor := disk.nextDescriptor
  named other target named := by
    by_cases same : other = path ∧ ¬ path.HasNul
    · have reached : some object = some target := (if_pos same).symm.trans named
      cases reached
      exact ⟨same.1 ▸ Finset.mem_insert_self .., lt_max_of_lt_right (Nat.lt_succ_self object)⟩
    · have before : disk.volume.names other = some target := (if_neg same).symm.trans named
      obtain ⟨member, below⟩ := disk.named other target before
      exact ⟨Finset.mem_insert_of_mem member, lt_max_of_lt_left below⟩
  held fd handle held := by
    obtain ⟨used, below⟩ := disk.held fd handle held
    exact ⟨used, lt_max_of_lt_left below⟩

def remove (path : Path) : Disk where
  volume := disk.volume.assign path none
  paths := disk.paths
  nextObject := disk.nextObject
  nextDescriptor := disk.nextDescriptor
  named other target named := by
    apply disk.named
    by_cases same : other = path ∧ ¬ path.HasNul
    · have missing : none = some target := (if_pos same).symm.trans named
      contradiction
    · exact (if_neg same).symm.trans named
  held := disk.held

def hold (object : Nat) : Disk where
  volume := disk.volume.hold disk.nextDescriptor (some ⟨object, disk.volume.number object⟩)
  paths := disk.paths
  nextObject := max disk.nextObject (object + 1)
  nextDescriptor := disk.nextDescriptor + 1
  named path target named := by
    obtain ⟨member, below⟩ := disk.named path target named
    exact ⟨member, lt_max_of_lt_left below⟩
  held fd handle held := by
    by_cases same : fd = disk.nextDescriptor
    · have opened : some ⟨object, disk.volume.number object⟩ = some handle :=
        (if_pos same).symm.trans held
      cases opened
      exact ⟨same.trans_lt (Int.lt_succ _), lt_max_of_lt_right (Nat.lt_succ_self object)⟩
    · obtain ⟨used, below⟩ := disk.held fd handle ((if_neg same).symm.trans held)
      exact ⟨used.trans (Int.lt_succ _), lt_max_of_lt_left below⟩

def release (fd : Descriptor) : Disk where
  volume := disk.volume.hold fd none
  paths := disk.paths
  nextObject := disk.nextObject
  nextDescriptor := disk.nextDescriptor
  named := disk.named
  held other handle held := by
    apply disk.held
    by_cases same : other = fd
    · have closed : none = some handle := (if_pos same).symm.trans held
      contradiction
    · exact (if_neg same).symm.trans held

/-! ## Answers -/

def count (object : Nat) : Nat :=
  (disk.paths.filter fun path => disk.volume.names path = some object).card

def metadata (object : Nat) : Metadata where
  identity := disk.volume.number object
  linkCount := UInt64.ofNat (min (disk.count object) (UInt64.size - 1))
  mode := 0o100644
  uid := 0
  gid := 0
  size := 0

/-- An answer about a file, which has to be there. -/
def byName {Reply : Type} (path : Path) (reply : Nat → Reply) : Except Errno Reply :=
  match disk.volume.names path with
  | some object => .ok (reply object)
  | none => .error .enoent

def byNumber {Reply : Type} (fd : Descriptor) (reply : Handle Nat → Reply) : Except Errno Reply :=
  match disk.volume.handles fd with
  | some handle => .ok (reply handle)
  | none => .error .ebadf

def openFile (path : Path) (flags : OpenFlags) : Except Errno Descriptor × Disk :=
  if flags.directory then (.error .enotdir, disk) else
    match disk.volume.names path, flags.create with
    | some object, _ => (.ok disk.nextDescriptor, disk.hold object)
    | none, none => (.error .enoent, disk)
    | none, some _ =>
        (.ok disk.nextDescriptor, (disk.assign path disk.nextObject).hold disk.nextObject)

def rename (old new : Path) : Except Errno Unit × Disk :=
  match disk.volume.names old with
  | some object =>
      if disk.volume.names new = some object then (.ok (), disk)
      else (.ok (), (disk.remove old).assign new object)
  | none => (.error .enoent, disk)

def link (existing new : Path) : Except Errno Unit × Disk :=
  match disk.volume.names existing, disk.volume.names new with
  | some object, none => (.ok (), disk.assign new object)
  | some _, some _ => (.error .eexist, disk)
  | none, _ => (.error .enoent, disk)

def unlink (path : Path) : Except Errno Unit × Disk :=
  match disk.volume.names path with
  | some _ => (.ok (), disk.remove path)
  | none => (.error .enoent, disk)

/-- Writes are taken whole. There are no directories, and open files are not duplicated. -/
def answer : (call : Call) → Disk → Except Errno call.Reply × Disk
  | .stat path, disk | .lstat path, disk => (disk.byName path disk.metadata, disk)
  | .fstat fd, disk => (disk.byNumber fd fun handle => disk.metadata handle.object, disk)
  | .openFile path flags, disk => disk.openFile path flags
  | .close fd, disk => (disk.byNumber fd fun _ => (), disk.release fd)
  | .write fd bytes, disk | .pwrite fd bytes _, disk =>
      (disk.byNumber fd fun _ => bytes.length, disk)
  | .rename old new, disk => disk.rename old new
  | .link existing new, disk => disk.link existing new
  | .unlink path, disk => disk.unlink path
  | .truncate path _, disk | .chmod path _, disk | .chown path .., disk | .lchown path .., disk
  | .utimes path .., disk | .utimensat path .., disk | .setxattr path .., disk
  | .lsetxattr path .., disk | .removexattr path _, disk | .lremovexattr path _, disk =>
      (disk.byName path fun _ => (), disk)
  | .ftruncate fd _, disk | .fchmod fd _, disk | .fchown fd .., disk | .futimens fd .., disk
  | .fsetxattr fd .., disk | .fremovexattr fd _, disk | .fallocate fd .., disk =>
      (disk.byNumber fd fun _ => (), disk)
  | .dup .., disk | .getdents64 .., disk => (.error .enosys, disk)
  | .realpath path, disk => (.ok path, disk)

theorem byName_ne_interrupted {Reply : Type} (path : Path) (reply : Nat → Reply) :
    disk.byName path reply ≠ .error .eintr := by
  unfold byName
  split <;> exact nofun

theorem byNumber_ne_interrupted {Reply : Type} (fd : Descriptor) (reply : Handle Nat → Reply) :
    disk.byNumber fd reply ≠ .error .eintr := by
  unfold byNumber
  split <;> exact nofun

theorem eq_of_byNumber_ok {Reply : Type} {fd : Descriptor} {value told : Reply}
    (ok : disk.byNumber fd (fun _ => value) = .ok told) : told = value := by
  unfold byNumber at ok
  split at ok
  · cases ok
    rfl
  · contradiction

theorem answer_ne_interrupted (call : Call) : (answer call disk).1 ≠ .error .eintr := by
  cases call with
  | stat path | lstat path | truncate path | chmod path | chown path | lchown path | utimes path
  | utimensat path | setxattr path | lsetxattr path | removexattr path | lremovexattr path =>
      exact disk.byName_ne_interrupted path _
  | fstat fd | close fd | write fd | pwrite fd | ftruncate fd | fchmod fd | fchown fd | futimens fd
  | fsetxattr fd | fremovexattr fd | fallocate fd =>
      exact disk.byNumber_ne_interrupted fd _
  | openFile path flags =>
      simp only [answer, openFile]
      split
      · exact nofun
      · split <;> exact nofun
  | rename old new =>
      simp only [answer, rename]
      split
      · split <;> exact nofun
      · exact nofun
  | link existing new =>
      simp only [answer, link]
      split <;> exact nofun
  | unlink path =>
      simp only [answer, unlink]
      split <;> exact nofun
  | dup | getdents64 | realpath => exact nofun

instance : Kernel Disk where
  answer := answer
  patience _ := 0
  patience_answer_le _ _ := Nat.le_refl 0
  patience_lt_of_interrupted {call disk} interrupted :=
    absurd interrupted (disk.answer_ne_interrupted call)
  patience_lt_of_filled filled := by contradiction
  written_le {_ _ disk _} written := Nat.le_of_eq (disk.eq_of_byNumber_ok written)
  pwritten_le {_ _ _ disk _} written := Nat.le_of_eq (disk.eq_of_byNumber_ok written)
  filled_le filled := by contradiction

/-! ## The volume is served -/

theorem encard_names (object : Nat) :
    {path | disk.volume.names path = some object}.encard = disk.count object := by
  rw [count, ← Set.encard_coe_eq_coe_finsetCard]
  congr 1
  ext path
  rw [Finset.mem_coe, Finset.mem_filter]
  exact (and_iff_right_of_imp fun named => (disk.named path object named).1).symm

/-- The link count is exact, or it is as large as it can be. -/
theorem reports_or_overflows (object : Nat) :
    disk.volume.Reports object (disk.metadata object) ∨
      disk.volume.Overflows object (disk.metadata object) := by
  have shown : (disk.metadata object).linkCount.toNat =
      min (disk.count object) (UInt64.size - 1) := by
    apply UInt64.toNat_ofNat_of_lt'
    exact (Nat.min_le_right ..).trans_lt (by decide)
  by_cases few : disk.count object ≤ UInt64.size - 1
  · rw [min_eq_left few] at shown
    exact .inl ⟨rfl, by rw [encard_names, shown]⟩
  · rw [min_eq_right (by omega)] at shown
    refine .inr ⟨rfl, shown, ?_⟩
    rw [encard_names, shown]
    exact_mod_cast Nat.lt_of_not_le few

theorem serves_openFile (path : Path) (flags : OpenFlags) :
    Serves disk.volume ⟨.openFile path flags, (disk.openFile path flags).1⟩
      (disk.openFile path flags).2.volume := by
  have fresh : disk.volume.handles disk.nextDescriptor = none := by
    rw [Option.eq_none_iff_forall_ne_some]
    intro handle held
    exact absurd (disk.held _ _ held).1 (lt_irrefl _)
  unfold openFile
  split
  next directory => exact .foreign (.inr (.inr directory))
  next =>
    split
    next named => exact .answers (.openFile named fresh)
    next missing existing => exact .answers (.openMissing missing existing)
    next missing creates =>
      refine .created (by simp [creates]) missing ?_ ?_ fresh
      · intro other named
        exact absurd (disk.named _ _ named).2 (lt_irrefl _)
      · intro other handle held
        exact (disk.held _ _ held).2.ne

theorem serves_rename (old new : Path) :
    Serves disk.volume ⟨.rename old new, (disk.rename old new).1⟩
      (disk.rename old new).2.volume := by
  unfold rename
  split
  next object named =>
    split_ifs with same
    · exact .answers (.renameSame named same)
    · exact .answers (.rename named same)
  next missing => exact .answers (.renameMissing missing)

theorem serves_link (existing new : Path) :
    Serves disk.volume ⟨.link existing new, (disk.link existing new).1⟩
      (disk.link existing new).2.volume := by
  unfold link
  split
  next object named free => exact .answers (.link named free)
  next object other named taken => exact .answers (.linkTaken named taken)
  next missing => exact .answers (.linkMissing missing)

theorem serves_unlink (path : Path) :
    Serves disk.volume ⟨.unlink path, (disk.unlink path).1⟩ (disk.unlink path).2.volume := by
  unfold unlink
  split
  next object named => exact .answers (.unlink named)
  next missing => exact .answers (.unlinkMissing missing)

theorem serves_query {call : Call} {path : Path} {value : Nat → call.Reply}
    (found : ∀ object, disk.volume.names path = some object →
      Serves disk.volume ⟨call, .ok (value object)⟩ disk.volume)
    (missing : disk.volume.names path = none →
      Serves disk.volume ⟨call, .error .enoent⟩ disk.volume) :
    Serves disk.volume ⟨call, disk.byName path value⟩ disk.volume := by
  unfold byName
  split
  next object named => exact found object named
  next absent => exact missing absent

/-- What is not open is of no concern to the volume. -/
theorem serves_through {call : Call} {fd : Descriptor} {value : Handle Nat → call.Reply}
    {after : Volume Nat} (through : call.descriptor? = some fd)
    (found : ∀ handle, disk.volume.handles fd = some handle →
      Serves disk.volume ⟨call, .ok (value handle)⟩ after) :
    Serves disk.volume ⟨call, disk.byNumber fd value⟩ after := by
  unfold byNumber
  split
  next handle held => exact found handle held
  next closed => exact .foreign (.inr (.inl ⟨fd, through, closed⟩))

theorem mounts : Mounts volume where
  serves call disk := by
    cases call with
    | stat path =>
        apply disk.serves_query
        · intro object named
          rcases disk.reports_or_overflows object with reports | overflows
          · exact .answers (.stat named reports)
          · exact .statOverflow named overflows
        · exact fun missing => .answers (.statMissing missing)
    | lstat path =>
        apply disk.serves_query
        · intro object named
          rcases disk.reports_or_overflows object with reports | overflows
          · exact .answers (.lstat named reports)
          · exact .lstatOverflow named overflows
        · exact fun missing => .answers (.lstatMissing missing)
    | fstat fd => exact disk.serves_through rfl fun handle held => .answers (.fstat held (.inr rfl))
    | openFile path flags => exact disk.serves_openFile path flags
    | close fd => exact disk.serves_through rfl fun _ _ => .answers .close
    | write fd bytes =>
        by_cases empty : bytes = []
        · exact .foreign (.inr (.inr (by simpa [Call.unusual] using empty)))
        · have some : 0 < bytes.length := List.length_pos_of_ne_nil empty
          exact disk.serves_through rfl fun _ held => .answers (.write held some le_rfl)
    | pwrite fd bytes offset =>
        by_cases empty : bytes = []
        · exact .foreign (.inr (.inr (by simpa [Call.unusual] using empty)))
        · have some : 0 < bytes.length := List.length_pos_of_ne_nil empty
          exact disk.serves_through rfl fun _ held => .answers (.pwrite held some le_rfl)
    | rename old new => exact disk.serves_rename old new
    | link existing new => exact disk.serves_link existing new
    | unlink path => exact disk.serves_unlink path
    | truncate | chmod | chown | lchown | utimes | utimensat | setxattr | lsetxattr | removexattr
    | lremovexattr =>
        exact disk.serves_query (fun _ named => .answers (.altered rfl named))
          fun missing => .answers (.alteredMissing rfl missing)
    | ftruncate | fchmod | fchown | futimens | fsetxattr | fremovexattr | fallocate =>
        exact disk.serves_through rfl fun _ held => .answers (.alteredThrough rfl held)
    | dup | getdents64 => exact .foreign (.inr (.inr rfl))
    | realpath path => exact .canonical

end Disk

end CopyUp
