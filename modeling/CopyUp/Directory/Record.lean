import CopyUp.Kernel.Call

/-!
# Directory records

A directory buffer is a row of records. A record starts with a header of 19 bytes: the inode number
(8 bytes), the position cookie (8), the length of the whole record (2) and the kind of the entry
(1), all numbers little-endian. The name follows, ends at its first NUL and may be padded.
-/

namespace CopyUp.Directory

def headerLength : Nat := 19

inductive EntryKind
  | unknown
  | fifo
  | charDevice
  | directory
  | blockDevice
  | regular
  | symlink
  | socket
  deriving DecidableEq, Repr

namespace EntryKind

def ofByte (byte : UInt8) : EntryKind :=
  match byte.toNat with
  | 1 => fifo
  | 2 => charDevice
  | 4 => directory
  | 6 => blockDevice
  | 8 => regular
  | 10 => symlink
  | 12 => socket
  | _ => unknown

def name : EntryKind → String
  | unknown => "Unknown"
  | fifo => "Fifo"
  | charDevice => "CharDevice"
  | directory => "Directory"
  | blockDevice => "BlockDevice"
  | regular => "Regular"
  | symlink => "Symlink"
  | socket => "Socket"

end EntryKind

structure Entry where
  inode : UInt64
  /-- The position cookie, a signed number. -/
  cookie : Int64
  kind : EntryKind
  name : Bytes
  deriving DecidableEq, Repr

/-- Why the bytes at an offset are no record. -/
inductive RecordError
  | shortHeader (offset left : Nat)
  | zeroLength (offset : Nat)
  | undersized (offset claimed : Nat)
  | overrun (offset claimed left : Nat)
  | unterminatedName (offset : Nat)
  deriving DecidableEq, Repr

def RecordError.message : RecordError → String
  | shortHeader offset left =>
    s!"record at offset {offset} is truncated: {left} bytes left, header needs {headerLength}"
  | zeroLength offset => s!"record at offset {offset} has zero length"
  | undersized offset claimed =>
    s!"record at offset {offset} claims {claimed} bytes, less than its header"
  | overrun offset claimed left =>
    s!"record at offset {offset} claims {claimed} bytes but only {left} remain"
  | unterminatedName offset => s!"record at offset {offset} has an unterminated name"

/-- The length that a header claims for its record. -/
def claimedLength (bytes : Bytes) : Nat := (bytes.slice 16 18).ofLittleEndian

/-- The record at the front of `rest`, with its length. The checks come in this order: header
complete, length not zero, length covers the header, record complete, name terminated. -/
def readRecord (offset : Nat) (rest : Bytes) : Except RecordError (Entry × Nat) :=
  let claimed := claimedLength rest
  let padded := rest.slice headerLength claimed
  if rest.length < headerLength then .error (.shortHeader offset rest.length)
  else if claimed = 0 then .error (.zeroLength offset)
  else if claimed < headerLength then .error (.undersized offset claimed)
  else if rest.length < claimed then .error (.overrun offset claimed rest.length)
  else if 0 ∉ padded then .error (.unterminatedName offset)
  else .ok
    ({ inode := .ofNat (rest.slice 0 8).ofLittleEndian
       cookie := (UInt64.ofNat (rest.slice 8 16).ofLittleEndian).toInt64
       kind := .ofByte (rest[18]?.getD 0)
       name := padded.takeWhile (· ≠ 0) }, claimed)

/-- A record is at least as long as its header and ends within the buffer. -/
theorem length_of_readRecord {offset length : Nat} {rest : Bytes} {entry : Entry}
    (read : readRecord offset rest = .ok (entry, length)) :
    headerLength ≤ length ∧ length ≤ rest.length := by
  unfold readRecord at read
  simp only at read
  split at read <;> try contradiction
  split at read <;> try contradiction
  split at read <;> try contradiction
  split at read <;> try contradiction
  split at read <;> try contradiction
  simp only [Except.ok.injEq, Prod.mk.injEq] at read
  omega

/-! ## Rows of records -/

/-- Reads at most `bound` records from `rest`, which starts at `offset`. -/
def itemsWithin : Nat → Nat → Bytes → List (Except RecordError Entry)
  | 0, _, _ => []
  | _ + 1, _, [] => []
  | bound + 1, offset, rest =>
    match readRecord offset rest with
    | .error error => [.error error]
    | .ok (entry, length) =>
      .ok entry :: itemsWithin bound (offset + length) (rest.drop length)

/-- The entries from an offset on, in order, up to the first record that is malformed. There are
never more records than bytes. -/
def itemsFrom (offset : Nat) (rest : Bytes) : List (Except RecordError Entry) :=
  itemsWithin rest.length offset rest

/-- The entries of a buffer. -/
def items (buffer : Bytes) : List (Except RecordError Entry) := itemsFrom 0 buffer

/-- All entries of a buffer, or the error of its first malformed record. -/
def entries (buffer : Bytes) : Except RecordError (List Entry) :=
  (items buffer).mapM id

/-- Any bound from the number of bytes on gives the same items. -/
theorem itemsWithin_of_le {bound offset : Nat} {rest : Bytes} (enough : rest.length ≤ bound) :
    itemsWithin bound offset rest = itemsFrom offset rest := by
  suffices alike : ∀ first second, rest.length ≤ first → rest.length ≤ second →
      itemsWithin first offset rest = itemsWithin second offset rest from
    alike _ _ enough (Nat.le_refl _)
  clear enough
  intro first
  induction first generalizing offset rest with
  | zero =>
    intro second small _
    have empty : rest = [] := List.length_eq_zero_iff.1 (Nat.le_zero.1 small)
    cases second <;> simp [itemsWithin, empty]
  | succ first ih =>
    intro second small alike
    cases rest with
    | nil => cases second <;> simp [itemsWithin]
    | cons byte rest =>
      obtain _ | second := second
      · simp at alike
      simp only [itemsWithin]
      cases read : readRecord offset (byte :: rest) with
      | error => rfl
      | ok found =>
        have bounds := length_of_readRecord read
        simp only [headerLength, List.length_cons] at bounds small alike
        simp only [List.cons.injEq, true_and]
        exact ih second (by simp only [List.length_drop, List.length_cons]; omega)
          (by simp only [List.length_drop, List.length_cons]; omega)

@[simp] theorem itemsFrom_nil (offset : Nat) : itemsFrom offset [] = [] := rfl

/-- To read a row is to read its first record, and the row behind it if there was one. -/
theorem itemsFrom_of_ne_nil (offset : Nat) {rest : Bytes} (more : rest ≠ []) :
    itemsFrom offset rest =
      match readRecord offset rest with
      | .error error => [.error error]
      | .ok (entry, length) => .ok entry :: itemsFrom (offset + length) (rest.drop length) := by
  obtain ⟨byte, tail, rfl⟩ := List.exists_cons_of_ne_nil more
  rw [← itemsWithin_of_le (Nat.le_succ _)]
  simp only [itemsWithin]
  cases read : readRecord offset (byte :: tail) with
  | error => rfl
  | ok found =>
    simp only [List.cons.injEq, true_and]
    exact itemsWithin_of_le (by simp only [List.length_drop]; omega)

end CopyUp.Directory
