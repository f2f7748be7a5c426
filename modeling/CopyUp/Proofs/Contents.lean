import CopyUp.Proofs.Efforts
import CopyUp.Proofs.Endings
import Mathlib.Logic.Function.Basic

/-!
# What files hold

A store is the part of a file system that writing is about: names, the files that they lead to and
the open numbers with their positions. Replayed over any store, the calls of one write come to what
a single call would that takes all their bytes at once, so it makes no difference how the bytes were
parted.
-/

namespace CopyUp

/-! ## Bytes at a place -/

namespace Bytes

/-- The bytes in front of a place, zeros where there are none. -/
def upTo (content : Bytes) (start : Nat) : Bytes :=
  content.take start ++ List.replicate (start - content.length) 0

/-- The content with a piece put over what is at its place. -/
def put (content : Bytes) (start : Nat) (piece : Bytes) : Bytes :=
  content.upTo start ++ piece ++ content.drop (start + piece.length)

variable {content : Bytes} {start : Nat}

@[simp] theorem length_upTo (content : Bytes) (start : Nat) :
    (content.upTo start).length = start := by
  simp only [upTo, List.length_append, List.length_take, List.length_replicate]
  omega

theorem length_put_append (content : Bytes) (start : Nat) (piece : Bytes) :
    (content.upTo start ++ piece).length = start + piece.length := by
  rw [List.length_append, length_upTo]

/-- A piece behind another is put there together with it. -/
theorem put_put (content : Bytes) (start : Nat) (first second : Bytes) :
    (content.put start first).put (start + first.length) second =
      content.put start (first ++ second) := by
  have size := length_put_append content start first
  have front : (content.put start first).upTo (start + first.length) =
      content.upTo start ++ first := by
    have short : start + first.length - (content.put start first).length = 0 := by
      rw [put, List.length_append, size]
      omega
    rw [upTo, short, put, List.replicate_zero, List.append_nil, ← size, List.take_left]
  have back : (content.put start first).drop (start + first.length + second.length) =
      content.drop (start + (first.length + second.length)) := by
    rw [put, ← List.drop_drop, ← size, List.drop_left, List.drop_drop, size, Nat.add_assoc]
  rw [put, front, back, put, List.length_append]
  simp only [List.append_assoc]

/-- At the end there is nothing to put a piece over. -/
theorem put_length (content piece : Bytes) :
    content.put content.length piece = content ++ piece := by
  simp [put, upTo]

theorem put_nil (within : start ≤ content.length) : content.put start [] = content := by
  simp [put, upTo, Nat.sub_eq_zero_of_le within]

theorem put_zero (content piece : Bytes) :
    content.put 0 piece = piece ++ content.drop piece.length := by
  simp [put, upTo]

example : put [1, 2] 3 [7] = [1, 2, 0, 7] := rfl

end Bytes

/-! ## Bytes that were taken -/

namespace Asked

def takenBytes (one : Asked) : Bytes :=
  match one.exchange with
  | ⟨.write _ bytes, .ok count⟩ => bytes.take count
  | ⟨.pwrite _ bytes _, .ok count⟩ => bytes.take count
  | _ => []

/-- All bytes that some calls got taken, one after another. -/
def taken (asked : List Asked) : Bytes := asked.flatMap takenBytes

theorem taken_append (first second : List Asked) :
    taken (first ++ second) = taken first ++ taken second :=
  List.flatMap_append

theorem takenBytes_of_error (purpose : Purpose) (call : Call) (errno : Errno) :
    takenBytes ⟨purpose, ⟨call, .error errno⟩⟩ = [] := by
  cases call <;> rfl

theorem takenBytes_asked (purpose : Purpose) (fd : Descriptor) (bytes : Bytes) (count : Nat)
    (place : FileSystem.Placement) :
    (place.asked purpose fd bytes (.ok count)).takenBytes = bytes.take count := by
  cases place <;> rfl

theorem takenBytes_of_still {one : Asked} (still : one.call.mutates = false) :
    one.takenBytes = [] := by
  obtain ⟨purpose, call, reply⟩ := one
  cases call <;> first | rfl | contradiction

theorem mutates_of_taken? {one : Asked} {count : Nat} (taken : one.taken? = some count) :
    one.call.mutates := by
  obtain ⟨purpose, call, reply⟩ := one
  cases call <;> first | rfl | contradiction

theorem not_mem_of_taken? {one : Asked} {count : Nat} {asked : List Asked}
    (taken : one.taken? = some count) (still : ∀ one ∈ asked, one.call.mutates = false) :
    one ∉ asked := by
  intro member
  have changes := mutates_of_taken? taken
  rw [still one member] at changes
  contradiction

def takenBy (name : String) (asked : List Asked) : Bytes :=
  taken (asked.filter fun one => one.call.name = name)

theorem takenBy_append (name : String) (first second : List Asked) :
    takenBy name (first ++ second) = takenBy name first ++ takenBy name second := by
  rw [takenBy, List.filter_append, taken_append]
  rfl

theorem taken_of_still {asked : List Asked} (still : ∀ one ∈ asked, one.call.mutates = false) :
    taken asked = [] :=
  List.flatMap_eq_nil_iff.2 fun one member => takenBytes_of_still (still one member)

theorem takenBy_of_still {asked : List Asked} (still : ∀ one ∈ asked, one.call.mutates = false)
    (name : String) : takenBy name asked = [] :=
  taken_of_still fun one member => still one (List.mem_filter.1 member).1

/-- Where all changes have one name, calls of this name get all that is taken. -/
theorem takenBy_of_named {asked : List Asked} {name : String}
    (named : ∀ one ∈ asked, one.call.mutates → one.call.name = name) (other : String) :
    takenBy other asked = if other = name then taken asked else [] := by
  induction asked with
  | nil => simp [takenBy, taken]
  | cons one rest ih =>
      have ⟨here, later⟩ := List.forall_mem_cons.1 named
      have first : takenBy other [one] = if other = name then one.takenBytes else [] := by
        cases changes : one.call.mutates with
        | false =>
            rw [takenBytes_of_still changes, takenBy_of_still (List.forall_mem_singleton.2 changes),
              ite_self]
        | true =>
            by_cases same : other = name
            · simp [takenBy, taken, here changes, same]
            · simp [takenBy, taken, here changes, same, Ne.symm same]
      rw [← List.singleton_append, takenBy_append, taken_append, ih later, first]
      by_cases same : other = name <;> simp [same, taken]

end Asked

theorem Answered.taken_eq {purpose : Purpose} {call : Call} {reply : Except Errno call.Reply}
    {asked : List Asked} (answered : Answered purpose call reply asked) :
    Asked.taken asked = Asked.takenBytes ⟨purpose, ⟨call, reply⟩⟩ := by
  induction answered with
  | once => exact List.append_nil _
  | again _ _ ih =>
      rw [← ih]
      exact congrArg (· ++ _) (Asked.takenBytes_of_error purpose call .eintr)

/-- What comes before an attempt of a call got nothing taken. -/
theorem Answered.attempts {purpose : Purpose} {call : Call} {reply : Except Errno call.Reply}
    {asked before after : List Asked} {one : Asked} (answered : Answered purpose call reply asked)
    (split : asked = before ++ one :: after) : one.call = call ∧ Asked.taken before = [] := by
  refine ⟨(answered.same (by simp [split])).2, ?_⟩
  induction answered generalizing before with
  | once => rw [(split_singleton split).1, Asked.taken, List.flatMap_nil]
  | again _ _ ih =>
      cases before with
      | nil => rfl
      | cons head rest =>
          cases split
          rw [Asked.taken, List.flatMap_cons, Asked.takenBytes_of_error]
          exact ih rfl

/-- A grant is the last attempt of its call. -/
theorem Answered.granted_last {purpose : Purpose} {call : Call} {reply : Except Errno call.Reply}
    {asked before after : List Asked} {one : Asked} (answered : Answered purpose call reply asked)
    (split : asked = before ++ one :: after) (granted : one.errno? = none) :
    one = ⟨purpose, ⟨call, reply⟩⟩ ∧ after = [] := by
  have ⟨interrupted, same, alike⟩ := answered.exists_eq_append
  rcases split_append (same.symm.trans split) with ⟨between, _, last⟩ | ⟨between, earlier, _⟩
  · exact (split_singleton last).2
  · rw [alike one (by simp [earlier])] at granted
    contradiction

namespace FileSystem

variable {purpose : Purpose} {fd : Descriptor} {place : Placement} {bytes : Bytes}
  {asked : List Asked}

@[simp] theorem Placement.advance_zero (place : Placement) : place.advance 0 = place := by
  cases place <;> rfl

theorem Placement.advance_advance (place : Placement) (first second : Nat) :
    (place.advance first).advance second = place.advance (first + second) := by
  cases place with
  | next => rfl
  | «at» offset => exact congrArg Placement.at (Nat.add_assoc ..)

theorem Offered.attempts {reply : Except Errno Nat} {before after : List Asked} {one : Asked}
    (offered : Offered purpose fd bytes place reply asked)
    (split : asked = before ++ one :: after) :
    one.call = place.call fd bytes ∧ Asked.taken before = [] := by
  cases offered with
  | next answered | «at» answered => exact answered.attempts split

theorem Offered.taken_eq {reply : Except Errno Nat}
    (offered : Offered purpose fd bytes place reply asked) :
    Asked.taken asked = (place.asked purpose fd bytes reply).takenBytes := by
  cases offered with
  | next answered | «at» answered => exact answered.taken_eq

theorem Offered.taken_of_error {errno : Errno}
    (offered : Offered purpose fd bytes place (.error errno) asked) : Asked.taken asked = [] := by
  rw [offered.taken_eq]
  cases place <;> rfl

/-- What is taken is a beginning of the bytes, and all of them if the write works. -/
theorem Written.taken_prefix {result : Except IoError Unit}
    (written : Written purpose fd place bytes result asked) :
    Asked.taken asked <+: bytes ∧ (result = .ok () → Asked.taken asked = bytes) := by
  induction written with
  | done => exact ⟨List.nil_prefix, fun _ => rfl⟩
  | refused _ offered =>
      rw [offered.taken_of_error]
      exact ⟨List.nil_prefix, nofun⟩
  | stuck _ offered =>
      rw [offered.taken_eq, Asked.takenBytes_asked, List.take_zero]
      exact ⟨List.nil_prefix, nofun⟩
  | @took place bytes count _ _ _ _ _ offered _ ih =>
      rw [Asked.taken_append, offered.taken_eq, Asked.takenBytes_asked]
      constructor
      · have parts := (List.prefix_append_right_inj (bytes.take count)).2 ih.1
        rwa [List.take_append_drop] at parts
      · intro worked
        rw [ih.2 worked, List.take_append_drop]

/-- Every offer is of the bytes left, and goes to the place behind those taken. -/
theorem Written.offers {result : Except IoError Unit}
    (written : Written purpose fd place bytes result asked) {before after : List Asked}
    {one : Asked} (split : asked = before ++ one :: after) :
    one.call = (place.advance (Asked.taken before).length).call fd
      (bytes.drop (Asked.taken before).length) := by
  have alone : ∀ {place : Placement} {bytes : Bytes} {reply : Except Errno Nat}
      {asked before after : List Asked}, Offered purpose fd bytes place reply asked →
        asked = before ++ one :: after →
          one.call = (place.advance (Asked.taken before).length).call fd
            (bytes.drop (Asked.taken before).length) := by
    intro place bytes reply asked before after offered split
    have ⟨same, nothing⟩ := offered.attempts split
    rw [same, nothing, List.length_nil, Placement.advance_zero, List.drop_zero]
  induction written generalizing before with
  | done => simp at split
  | refused _ offered | stuck _ offered => exact alone offered split
  | @took place bytes count _ _ _ _ _ offered _ ih =>
      cases split_append split with
      | inr earlier =>
          have ⟨_, first, _⟩ := earlier
          exact alone offered first
      | inl later =>
          have ⟨between, same, rest⟩ := later
          have size : (bytes.take count).length = count := by
            rw [List.length_take, Nat.min_eq_left offered.le]
          rw [ih rest, same, Asked.taken_append, offered.taken_eq, Asked.takenBytes_asked,
            List.length_append, size, Placement.advance_advance, List.drop_drop]

theorem Offered.granted_last {reply : Except Errno Nat} {before after : List Asked} {one : Asked}
    (offered : Offered purpose fd bytes place reply asked) (split : asked = before ++ one :: after)
    (granted : one.errno? = none) : one = place.asked purpose fd bytes reply ∧ after = [] := by
  cases offered with
  | next answered | «at» answered => exact answered.granted_last split granted

theorem Placement.taken?_asked (purpose : Purpose) (fd : Descriptor) (bytes : Bytes) (count : Nat)
    (place : Placement) : (place.asked purpose fd bytes (.ok count)).taken? = some count := by
  cases place <;> rfl

theorem Placement.taken?_asked_error (purpose : Purpose) (fd : Descriptor) (bytes : Bytes)
    (errno : Errno) (place : Placement) :
    (place.asked purpose fd bytes (.error errno)).taken? = none := by
  cases place <;> rfl

/-- An offer of which nothing is taken is the last. -/
theorem Written.stuck_last {result : Except IoError Unit}
    (written : Written purpose fd place bytes result asked) {before after : List Asked}
    {one : Asked} (split : asked = before ++ one :: after) (stuck : one.taken? = some 0) :
    result = .error .nothingWritten ∧ after = [] := by
  have granted := Asked.errno?_of_taken? stuck
  induction written generalizing before with
  | done => simp at split
  | refused _ offered =>
      rw [(offered.granted_last split granted).1, Placement.taken?_asked_error] at stuck
      contradiction
  | stuck _ offered => exact ⟨rfl, (offered.granted_last split granted).2⟩
  | took _ positive offered _ ih =>
      cases split_append split with
      | inr earlier =>
          have ⟨_, first, _⟩ := earlier
          rw [(offered.granted_last first granted).1, Placement.taken?_asked] at stuck
          cases stuck
          contradiction
      | inl later =>
          have ⟨_, _, rest⟩ := later
          exact ih rest

/-- Every call of a write is an offer of bytes through its number. -/
theorem Written.eq_asked {result : Except IoError Unit}
    (written : Written purpose fd place bytes result asked) {one : Asked} (member : one ∈ asked) :
    ∃ place part reply, one = Placement.asked one.purpose fd part reply place := by
  have ⟨before, after, split⟩ := List.append_of_mem member
  have offered := written.offers split
  obtain ⟨purpose, call, reply⟩ := one
  have same : call = _ := offered
  cases place with
  | next =>
      subst same
      exact ⟨.next, _, reply, rfl⟩
  | «at» offset =>
      subst same
      exact ⟨.at _, _, reply, rfl⟩

end FileSystem

/-! ## Stores -/

namespace Store

structure File where
  content : Bytes
  mode : UInt32

structure Handle where
  object : Nat
  append : Bool
  position : Nat

end Store

/-- Files under their names. A number that no name has is at hand for each new file. -/
structure Store where
  names : Path → Option Nat
  files : Nat → Store.File
  handles : Descriptor → Option Store.Handle
  fresh : Nat
  lt_fresh : ∀ path object, names path = some object → object < fresh

namespace Store

open FileSystem (Placement)

def edit (store : Store) (object : Nat) (change : File → File) : Store :=
  { store with files := Function.update store.files object (change (store.files object)) }

def hold (store : Store) (fd : Descriptor) (handle : Handle) : Store :=
  { store with handles := Function.update store.handles fd (some handle) }

def drop (store : Store) (fd : Descriptor) : Store :=
  { store with handles := Function.update store.handles fd none }

def create (store : Store) (path : Path) (file : File) : Store where
  names := Function.update store.names path (some store.fresh)
  files := Function.update store.files store.fresh file
  handles := store.handles
  fresh := store.fresh + 1
  lt_fresh other object named := by
    by_cases same : other = path
    · rw [same, Function.update_self] at named
      cases named
      exact Nat.lt_succ_self _
    · rw [Function.update_of_ne same] at named
      exact Nat.lt_succ_of_lt (store.lt_fresh other object named)

def unbind (store : Store) (path : Path) : Store where
  names := Function.update store.names path none
  files := store.files
  handles := store.handles
  fresh := store.fresh
  lt_fresh other object named := by
    by_cases same : other = path
    · rw [same, Function.update_self] at named
      contradiction
    · rw [Function.update_of_ne same] at named
      exact store.lt_fresh other object named

/-- A path is opened under a number. A file that is there is emptied if that is asked for, one that
is not there is made if that is. -/
def opened (store : Store) (path : Path) (flags : OpenFlags) (fd : Descriptor) : Store :=
  match store.names path with
  | some object =>
    let kept := if flags.truncate then store.edit object fun file => { file with content := [] }
      else store
    kept.hold fd ⟨object, flags.append, 0⟩
  | none =>
    match flags.create with
    | some mode => (store.create path ⟨[], mode⟩).hold fd ⟨store.fresh, flags.append, 0⟩
    | none => store

/-- Where a write through the number starts. One that appends goes to the end in any case. -/
def Handle.start (handle : Handle) (size : Nat) : Placement → Nat
  | .next => if handle.append then size else handle.position
  | .at offset => if handle.append then size else offset

def Handle.moved (handle : Handle) (finish : Nat) : Placement → Handle
  | .next => { handle with position := finish }
  | .at _ => handle

/-- Bytes are taken through a number. -/
def write (store : Store) (fd : Descriptor) (place : Placement) (piece : Bytes) : Store :=
  match piece, store.handles fd with
  | [], _ | _, none => store
  | _, some handle =>
    let start := handle.start (store.files handle.object).content.length place
    (store.edit handle.object fun file =>
      { file with content := file.content.put start piece }).hold fd
        (handle.moved (start + piece.length) place)

def setMode (store : Store) (fd : Descriptor) (mode : UInt32) : Store :=
  match store.handles fd with
  | some handle => store.edit handle.object fun file => { file with mode }
  | none => store

/-- The store after a call. A close works whatever it is answered, and a removal that finds nothing
says that nothing is there. Calls that neither open nor write, and that neither set the permission
bits nor remove a name, are no business of the store. -/
def after (store : Store) (one : Asked) : Store :=
  match one.exchange with
  | ⟨.openFile path flags, .ok fd⟩ => store.opened path flags fd
  | ⟨.close fd, _⟩ => store.drop fd
  | ⟨.write fd bytes, .ok count⟩ => store.write fd .next (bytes.take count)
  | ⟨.pwrite fd bytes offset, .ok count⟩ => store.write fd (.at offset) (bytes.take count)
  | ⟨.fchmod fd mode, .ok _⟩ => store.setMode fd mode
  | ⟨.unlink path, .ok _⟩ => store.unbind path
  | ⟨.unlink path, .error errno⟩ => if errno = .enoent then store.unbind path else store
  | _ => store

def replay (store : Store) (asked : List Asked) : Store := asked.foldl after store

variable {store : Store} {fd : Descriptor} {place : Placement}

@[simp] theorem replay_cons (store : Store) (one : Asked) (rest : List Asked) :
    store.replay (one :: rest) = (store.after one).replay rest := rfl

theorem replay_append (store : Store) (first second : List Asked) :
    store.replay (first ++ second) = (store.replay first).replay second :=
  List.foldl_append

/-! ## Writing in parts -/

@[simp] theorem write_nil (store : Store) (fd : Descriptor) (place : Placement) :
    store.write fd place [] = store := rfl

theorem write_of_not_held (free : store.handles fd = none) (piece : Bytes) :
    store.write fd place piece = store := by
  cases piece with
  | nil => rfl
  | cons => simp [write, free]

theorem write_of_held {handle : Handle} (held : store.handles fd = some handle) {piece : Bytes}
    (some : piece ≠ []) :
    store.write fd place piece =
      let start := handle.start (store.files handle.object).content.length place
      (store.edit handle.object fun file =>
        { file with content := file.content.put start piece }).hold fd
          (handle.moved (start + piece.length) place) := by
  cases piece with
  | nil => contradiction
  | cons => simp [write, held]

theorem Handle.moved_moved (handle : Handle) (middle finish : Nat) (place : Placement)
    (count : Nat) :
    (handle.moved middle place).moved finish (place.advance count) =
      handle.moved finish place := by
  cases place <;> rfl

theorem Handle.object_moved (handle : Handle) (finish : Nat) (place : Placement) :
    (handle.moved finish place).object = handle.object := by
  cases place <;> rfl

/-- The next bytes go behind those that were taken. -/
theorem Handle.start_moved (handle : Handle) (content piece : Bytes) (place : Placement) :
    let start := handle.start content.length place
    (handle.moved (start + piece.length) place).start (content.put start piece).length
        (place.advance piece.length) = start + piece.length := by
  cases place <;> cases appends : handle.append <;>
    simp [start, moved, Placement.advance, appends, Bytes.put_length]

theorem write_write (store : Store) (fd : Descriptor) (place : Placement) (first second : Bytes) :
    (store.write fd place first).write fd (place.advance first.length) second =
      store.write fd place (first ++ second) := by
  by_cases none : first = []
  · subst none
    rw [write_nil, List.length_nil, Placement.advance_zero, List.nil_append]
  by_cases last : second = []
  · rw [last, write_nil, List.append_nil]
  cases held : store.handles fd with
  | none => rw [write_of_not_held held, write_of_not_held held, write_of_not_held held]
  | some handle =>
      have more : first ++ second ≠ [] := List.append_ne_nil_of_left_ne_nil none second
      rw [write_of_held held none, write_of_held held more]
      generalize begins : handle.start (store.files handle.object).content.length place = start
      have goes := handle.start_moved (store.files handle.object).content first place
      rw [begins] at goes
      rw [write_of_held (Function.update_self ..) last]
      simp only [edit, hold, Handle.object_moved, Function.update_self, goes,
        Handle.moved_moved, Function.update_idem, Bytes.put_put, List.length_append, Nat.add_assoc]

/-! ## Calls -/

theorem after_asked (store : Store) (purpose : Purpose) (fd : Descriptor) (bytes : Bytes)
    (count : Nat) (place : Placement) :
    store.after (place.asked purpose fd bytes (.ok count)) =
      store.write fd place (bytes.take count) := by
  cases place <;> rfl

theorem after_asked_error (store : Store) (purpose : Purpose) (fd : Descriptor) (bytes : Bytes)
    (errno : Errno) (place : Placement) :
    store.after (place.asked purpose fd bytes (.error errno)) = store := by
  cases place <;> rfl

theorem after_interrupted (store : Store) (purpose : Purpose) {call : Call}
    (restarts : call.restarts) : store.after ⟨purpose, ⟨call, .error .eintr⟩⟩ = store := by
  cases call <;> first | rfl | contradiction

theorem replay_of_answered {purpose : Purpose} {call : Call} {reply : Except Errno call.Reply}
    {asked : List Asked} (answered : Answered purpose call reply asked) (store : Store) :
    store.replay asked = store.after ⟨purpose, ⟨call, reply⟩⟩ := by
  induction answered with
  | once => rfl
  | again restarts _ ih => rw [replay_cons, after_interrupted store purpose restarts, ih]

/-- The offers of a write come to one write of all that was taken. -/
theorem replay_of_written {purpose : Purpose} {bytes : Bytes} {result : Except IoError Unit}
    {asked : List Asked} (written : FileSystem.Written purpose fd place bytes result asked)
    (store : Store) : store.replay asked = store.write fd place (Asked.taken asked) := by
  have alone : ∀ {store : Store} {place : Placement} {bytes : Bytes} {reply : Except Errno Nat}
      {asked : List Asked}, FileSystem.Offered purpose fd bytes place reply asked →
        store.replay asked = store.after (place.asked purpose fd bytes reply) := by
    intro store place bytes reply asked offered
    cases offered with
    | next answered | «at» answered => exact replay_of_answered answered store
  induction written generalizing store with
  | done => rfl
  | refused _ offered =>
      rw [alone offered, offered.taken_of_error, after_asked_error, write_nil]
  | stuck _ offered =>
      rw [alone offered, offered.taken_eq, after_asked, Asked.takenBytes_asked]
  | @took place bytes count _ _ _ _ _ offered later ih =>
      have size : (bytes.take count).length = count := by
        rw [List.length_take, Nat.min_eq_left offered.le]
      have parts := store.write_write fd place (bytes.take count)
      rw [size] at parts
      rw [replay_append, alone offered, after_asked, ih, Asked.taken_append, offered.taken_eq,
        Asked.takenBytes_asked, parts]

/-! ## What else is as it was -/

structure Alike (store left : Store) : Prop where
  names : left.names = store.names
  files : left.files = store.files

/-- One file has this content now, and all else is the same. -/
structure Refilled (store left : Store) (object : Nat) (content : Bytes) : Prop where
  names : left.names = store.names
  files : left.files = Function.update store.files object { store.files object with content }

section

variable {between left : Store} {object : Nat} {content further : Bytes}

protected theorem Alike.trans (first : store.Alike between) (second : between.Alike left) :
    store.Alike left :=
  ⟨second.names.trans first.names, second.files.trans first.files⟩

theorem Alike.refilled (same : store.Alike left) :
    store.Refilled left object (store.files object).content :=
  ⟨same.names, by rw [same.files, Function.update_eq_self]⟩

theorem Refilled.content_eq (filled : store.Refilled left object content) :
    (left.files object).content = content := by
  rw [filled.files, Function.update_self]

protected theorem Refilled.trans (first : store.Refilled between object content)
    (second : between.Refilled left object further) : store.Refilled left object further := by
  refine ⟨second.names.trans first.names, ?_⟩
  rw [second.files, first.files, Function.update_idem, Function.update_self]

theorem Refilled.after_alike (same : store.Alike between)
    (filled : between.Refilled left object content) : store.Refilled left object content :=
  same.refilled.trans filled

theorem Refilled.before_alike (filled : store.Refilled between object content)
    (same : between.Alike left) : store.Refilled left object content := by
  have last := filled.trans same.refilled
  rwa [filled.content_eq] at last

end

/-- A write refills the file that the number leads to. -/
theorem refilled_write {handle : Handle} (held : store.handles fd = some handle) {start : Nat}
    (starts : handle.start (store.files handle.object).content.length place = start)
    (within : start ≤ (store.files handle.object).content.length) (piece : Bytes) :
    store.Refilled (store.write fd place piece) handle.object
      ((store.files handle.object).content.put start piece) := by
  by_cases none : piece = []
  · rw [none, write_nil, Bytes.put_nil within]
    exact Alike.refilled ⟨rfl, rfl⟩
  · rw [write_of_held held none, starts]
    exact ⟨rfl, rfl⟩

end Store

/-! ## Calls that change nothing -/

/-- The call changes nothing and opens no file to be made or emptied. -/
def Call.Calm (call : Call) : Prop :=
  call.mutates = false ∧
    ∀ path flags, call = .openFile path flags → flags.create = none ∧ flags.truncate = false

theorem Asked.still_of_calm {asked : List Asked} (calm : ∀ one ∈ asked, one.call.Calm) :
    ∀ one ∈ asked, one.call.mutates = false :=
  fun one member => (calm one member).1

namespace Store

theorem after_of_calm {one : Asked} (calm : one.call.Calm) (store : Store) :
    store.Alike (store.after one) := by
  have ⟨still, opens⟩ := calm
  obtain ⟨purpose, call, reply⟩ := one
  cases call with
  | openFile path flags =>
      have ⟨makes, empties⟩ := opens path flags rfl
      cases reply with
      | error => exact ⟨rfl, rfl⟩
      | ok fd =>
          cases named : store.names path with
          | none => constructor <;> simp [after, opened, named, makes]
          | some => constructor <;> simp [after, opened, named, empties, hold]
  | write | pwrite | fchmod | unlink => contradiction
  | _ => exact ⟨rfl, rfl⟩

theorem replay_of_calm {asked : List Asked} (calm : ∀ one ∈ asked, one.call.Calm) (store : Store) :
    store.Alike (store.replay asked) := by
  induction asked generalizing store with
  | nil => exact ⟨rfl, rfl⟩
  | cons one rest ih =>
      have ⟨here, later⟩ := List.forall_mem_cons.1 calm
      exact (after_of_calm here store).trans (ih later _)

end Store

end CopyUp
