import CopyUp.Directory.Record
import Mathlib.Data.List.Forall2

/-!
# The grammar of directory buffers

A record is a row of bytes that tells its own length and holds a name that ends. Reading a buffer
succeeds exactly on the concatenations of records, takes them apart in the only possible way, and
gives back what was laid out in them, whatever pads the names.
-/

namespace CopyUp

namespace Bytes

/-! ## Numbers as bytes -/

/-- The `width` lowest base-256 digits of a number, lowest first. -/
def littleEndian : Nat → Nat → Bytes
  | 0, _ => []
  | width + 1, number => .ofNat number :: littleEndian width (number / 256)

@[simp] theorem length_littleEndian (width number : Nat) :
    (littleEndian width number).length = width := by
  induction width generalizing number with
  | zero => rfl
  | succ width ih => simp [littleEndian, ih]

theorem ofLittleEndian_littleEndian {width number : Nat} (fits : number < Nat.pow 256 width) :
    ofLittleEndian (littleEndian width number) = number := by
  induction width generalizing number with
  | zero =>
      have single : Nat.pow 256 0 = 1 := rfl
      have none : number = 0 := by omega
      rw [none]
      rfl
  | succ width ih =>
      have grows : Nat.pow 256 (width + 1) = Nat.pow 256 width * 256 := rfl
      have small : number / 256 < Nat.pow 256 width := by omega
      have digit : (UInt8.ofNat number).toNat = number % 256 := by simp
      rw [littleEndian, ofLittleEndian, ih small, digit]
      omega

/-- Eight bytes fill a word of 64 bits. -/
theorem ofLittleEndian_lt_word {bytes : Bytes} (short : bytes.length ≤ 8) :
    ofLittleEndian bytes < Nat.pow 2 64 := by
  have below := ofLittleEndian_lt bytes
  have grows : Nat.pow 256 bytes.length ≤ Nat.pow 256 8 :=
    Nat.pow_le_pow_right (by decide) short
  exact Nat.lt_of_lt_of_le below grows

/-! ## Slices -/

theorem length_slice_le (bytes : Bytes) (start width : Nat) :
    (slice bytes start (start + width)).length ≤ width := by
  unfold slice
  simp only [List.length_drop, List.length_take]
  omega

theorem slice_length (bytes : Bytes) (start : Nat) :
    slice bytes start bytes.length = bytes.drop start := by
  unfold slice
  rw [List.take_length]

theorem slice_append_left {first : Bytes} (second : Bytes) (start : Nat) {finish : Nat}
    (within : finish ≤ first.length) :
    slice (first ++ second) start finish = slice first start finish := by
  unfold slice
  rw [List.take_append_of_le_length within]

theorem slice_take (bytes : Bytes) (start : Nat) {finish length : Nat} (within : finish ≤ length) :
    slice (bytes.take length) start finish = slice bytes start finish := by
  unfold slice
  rw [List.take_take, Nat.min_eq_left within]

/-- What stands between a prefix and a rest. -/
theorem slice_append_append (first second third : Bytes) {start finish : Nat}
    (before : first.length = start) (behind : start + second.length = finish) :
    slice (first ++ (second ++ third)) start finish = second := by
  subst before behind
  unfold slice
  have whole : (first ++ second).length ≤ first.length + second.length :=
    Nat.le_of_eq List.length_append
  rw [← List.append_assoc, List.take_append_of_le_length (by simp), List.take_of_length_le whole]
  exact List.drop_left

end Bytes

namespace Directory

/-! ## Records -/

structure IsRecord (bytes : Bytes) : Prop where
  atLeast : 20 ≤ bytes.length
  atMost : bytes.length ≤ 65535
  /-- Its header tells its length. -/
  claimed : (bytes.slice 16 18).ofLittleEndian = bytes.length
  /-- A NUL stands behind the header. -/
  terminated : 0 ∈ bytes.drop 19

@[ext]
structure Record where
  bytes : Bytes
  isRecord : IsRecord bytes

def row (records : List Record) : Bytes := records.flatMap Record.bytes

@[simp] theorem row_nil : row [] = [] := rfl

@[simp] theorem row_cons (record : Record) (records : List Record) :
    row (record :: records) = record.bytes ++ row records := rfl

structure Decodes (bytes : Bytes) (entry : Entry) : Prop where
  inode : entry.inode.toNat = (bytes.slice 0 8).ofLittleEndian
  /-- The cookie is read in two's complement. -/
  cookie : entry.cookie.toInt = Int.bmod (bytes.slice 8 16).ofLittleEndian (Nat.pow 2 64)
  kind : ∃ byte, bytes[18]? = some byte ∧ entry.kind = .ofByte byte
  /-- The name goes from the header to the first NUL. -/
  name : 0 ∉ entry.name ∧ ∃ padding, bytes.drop 19 = entry.name ++ 0 :: padding

theorem takeWhile_name {name : Bytes} (free : 0 ∉ name) (padding : Bytes) :
    (name ++ 0 :: padding).takeWhile (· ≠ 0) = name := by
  have passed : ∀ byte ∈ name, (decide (byte ≠ 0)) = true := by
    intro byte member
    have other : byte ≠ 0 := fun same => free (same ▸ member)
    simpa using other
  rw [List.takeWhile_append_of_pos passed]
  simp

namespace Record

def entry (record : Record) : Entry where
  inode := .ofNat (record.bytes.slice 0 8).ofLittleEndian
  cookie := (UInt64.ofNat (record.bytes.slice 8 16).ofLittleEndian).toInt64
  kind := .ofByte (record.bytes[18]?.getD 0)
  name := (record.bytes.drop 19).takeWhile (· ≠ 0)

theorem decodes_entry (record : Record) : Decodes record.bytes record.entry := by
  have atLeast := record.isRecord.atLeast
  constructor
  · have small := Bytes.ofLittleEndian_lt_word (Bytes.length_slice_le record.bytes 0 8)
    simp only [entry, UInt64.toNat_ofNat']
    exact Nat.mod_eq_of_lt small
  · exact BitVec.toInt_ofNat ..
  · have within : 18 < record.bytes.length := by omega
    exact ⟨record.bytes[18], by simp [within], by simp [entry, within]⟩
  · obtain ⟨name, padding, split, free⟩ :=
      List.eq_append_cons_of_mem record.isRecord.terminated
    have same : record.entry.name = name := by
      unfold entry
      rw [split]
      exact takeWhile_name free padding
    rw [same]
    exact ⟨free, padding, split⟩

theorem ne_nil (record : Record) : record.bytes ≠ [] := by
  intro empty
  have atLeast := record.isRecord.atLeast
  rw [empty] at atLeast
  contradiction

/-! ## Reading a record -/

/-- The record at the front of a row is read whatever follows it. -/
theorem readRecord_append (record : Record) (offset : Nat) (rest : Bytes) :
    readRecord offset (record.bytes ++ rest) = .ok (record.entry, record.bytes.length) := by
  have atLeast := record.isRecord.atLeast
  have claimed : claimedLength (record.bytes ++ rest) = record.bytes.length := by
    unfold claimedLength
    rw [Bytes.slice_append_left rest 16 (by omega)]
    exact record.isRecord.claimed
  have padded : (record.bytes ++ rest).slice headerLength record.bytes.length =
      record.bytes.drop 19 := by
    rw [Bytes.slice_append_left rest headerLength (Nat.le_refl _), Bytes.slice_length]
    rfl
  have kind : (record.bytes ++ rest)[18]? = record.bytes[18]? :=
    List.getElem?_append_left (by omega)
  have complete : ¬ (record.bytes ++ rest).length < headerLength := by
    simp only [List.length_append, headerLength]
    omega
  have enough : ¬ (record.bytes ++ rest).length < record.bytes.length := by
    simp only [List.length_append]
    omega
  have some : record.bytes.length ≠ 0 := by omega
  have header : ¬ record.bytes.length < headerLength := by
    simp only [headerLength]
    omega
  unfold readRecord
  simp only [claimed, padded, kind, complete, enough, some, header, if_false,
    record.isRecord.terminated, not_true_eq_false]
  rw [Bytes.slice_append_left rest 0 (by omega), Bytes.slice_append_left rest 8 (by omega)]
  rfl

/-- What is read tells its length in its header and holds a NUL behind it. -/
theorem claimed_of_readRecord {offset length : Nat} {rest : Bytes} {entry : Entry}
    (read : readRecord offset rest = .ok (entry, length)) :
    claimedLength rest = length ∧ 0 ∈ rest.slice headerLength length := by
  unfold readRecord at read
  simp only at read
  split at read <;> try contradiction
  split at read <;> try contradiction
  split at read <;> try contradiction
  split at read <;> try contradiction
  split at read <;> try contradiction
  rename_i terminated
  simp only [Except.ok.injEq, Prod.mk.injEq] at read
  rw [← read.2]
  exact ⟨rfl, Decidable.not_not.1 terminated⟩

/-- Whatever is read is a record at the front. -/
theorem exists_of_readRecord {offset length : Nat} {rest : Bytes} {entry : Entry}
    (read : readRecord offset rest = .ok (entry, length)) :
    ∃ record : Record, record.bytes = rest.take length ∧ record.bytes.length = length := by
  obtain ⟨_, enough⟩ := length_of_readRecord read
  obtain ⟨claimed, terminated⟩ := claimed_of_readRecord read
  have whole : (rest.take length).length = length := by
    simp only [List.length_take]
    omega
  have atMost : length < 256 * 256 := by
    have below := Bytes.ofLittleEndian_lt (rest.slice 16 18)
    have grows : Nat.pow 256 (rest.slice 16 18).length ≤ Nat.pow 256 2 :=
      Nat.pow_le_pow_right (by decide) (Bytes.length_slice_le rest 16 2)
    rw [← claimed]
    exact Nat.lt_of_lt_of_le below grows
  have atLeast : headerLength < length := by
    have some := List.length_pos_of_mem terminated
    simp only [Bytes.slice, List.length_drop, List.length_take] at some
    omega
  refine ⟨⟨rest.take length, ?_, ?_, ?_, terminated⟩, rfl, whole⟩
  · rw [whole]
    exact atLeast
  · omega
  · unfold headerLength at atLeast
    rw [whole, Bytes.slice_take rest 16 (by omega)]
    exact claimed

end Record

/-! ## Reading a row -/

/-- Records in front are read one by one, and what follows them as if it stood alone. -/
theorem itemsFrom_row_append (records : List Record) (offset : Nat) (rest : Bytes) :
    itemsFrom offset (row records ++ rest) =
      records.map (.ok ·.entry) ++ itemsFrom (offset + (row records).length) rest := by
  induction records generalizing offset with
  | nil => rfl
  | cons record records ih =>
      have more : row (record :: records) ++ rest ≠ [] := by
        simp [record.ne_nil]
      rw [itemsFrom_of_ne_nil offset more, row_cons, List.append_assoc,
        record.readRecord_append offset]
      simp only [List.drop_left, ih, List.map_cons, List.cons_append, List.length_append,
        Nat.add_assoc]

theorem items_row (records : List Record) : items (row records) = records.map (.ok ·.entry) := by
  have read := itemsFrom_row_append records 0 []
  rw [List.append_nil, itemsFrom_nil, List.append_nil] at read
  exact read

/-- Every buffer is a row of records, and what follows them does not start with a record. -/
theorem exists_row_append (offset : Nat) (buffer : Bytes) :
    ∃ records rest, buffer = row records ++ rest ∧ (rest ≠ [] →
      ∃ error, readRecord (offset + (row records).length) rest = .error error) := by
  induction left : buffer.length using Nat.strongRecOn generalizing offset buffer with
  | ind size ih =>
      by_cases empty : buffer = []
      · exact ⟨[], [], empty, fun more => absurd rfl more⟩
      cases read : readRecord offset buffer with
      | error error => exact ⟨[], buffer, rfl, fun _ => ⟨error, read⟩⟩
      | ok found =>
          obtain ⟨entry, length⟩ := found
          obtain ⟨record, bytes, whole⟩ := Record.exists_of_readRecord read
          have header := (length_of_readRecord read).1
          have shorter : (buffer.drop length).length < size := by
            have some := List.length_pos_iff.2 empty
            simp only [headerLength] at header
            simp only [List.length_drop]
            omega
          obtain ⟨records, rest, same, stops⟩ := ih _ shorter (offset + length) _ rfl
          refine ⟨record :: records, rest, ?_, ?_⟩
          · rw [row_cons, List.append_assoc, ← same, bytes, List.take_append_drop]
          · rw [row_cons, List.length_append, whole, ← Nat.add_assoc]
            exact stops

/-- If nothing that is read is an error then records were read. -/
theorem exists_row_of_isOk {offset : Nat} {rest : Bytes}
    (fine : ∀ item ∈ itemsFrom offset rest, item.isOk) : ∃ records, rest = row records := by
  obtain ⟨records, behind, same, stops⟩ := exists_row_append offset rest
  by_cases empty : behind = []
  · exact ⟨records, by rw [same, empty, List.append_nil]⟩
  · obtain ⟨error, failed⟩ := stops empty
    rw [same, itemsFrom_row_append, itemsFrom_of_ne_nil _ empty, failed] at fine
    have impossible := fine (.error error) (by simp)
    contradiction

/-! ## The split of a row -/

/-- The header of the first record tells where it ends. -/
theorem Record.eq_of_append {first second : Record} {more others : Bytes}
    (same : first.bytes ++ more = second.bytes ++ others) : first = second ∧ more = others := by
  have left := first.readRecord_append 0 more
  have right := second.readRecord_append 0 others
  rw [same, right] at left
  have lengths : second.bytes.length = first.bytes.length := by
    simp only [Except.ok.injEq, Prod.mk.injEq] at left
    exact left.2
  obtain ⟨bytes, rests⟩ := List.append_inj same lengths.symm
  exact ⟨Record.ext bytes, rests⟩

theorem row_injective : Function.Injective row := by
  intro first
  induction first with
  | nil =>
      intro second same
      cases second with
      | nil => rfl
      | cons record records =>
          have empty : record.bytes ++ row records = [] := same.symm
          exact absurd (List.append_eq_nil_iff.1 empty).1 record.ne_nil
  | cons record records ih =>
      intro second same
      cases second with
      | nil =>
          have empty : record.bytes ++ row records = [] := same
          exact absurd (List.append_eq_nil_iff.1 empty).1 record.ne_nil
      | cons other others =>
          obtain ⟨alike, rest⟩ := Record.eq_of_append same
          rw [alike, ih rest]

/-! ## Laying out records -/

/-- What one record is to hold. The padding follows the NUL that ends the name. -/
structure Layout where
  inode : UInt64
  cookie : Int64
  kind : UInt8
  name : Bytes
  padding : Bytes
  free : 0 ∉ name
  fits : 20 + name.length + padding.length ≤ 65535

namespace Layout

def length (layout : Layout) : Nat := 20 + layout.name.length + layout.padding.length

def bytes (layout : Layout) : Bytes :=
  Bytes.littleEndian 8 layout.inode.toNat ++
    (Bytes.littleEndian 8 layout.cookie.toUInt64.toNat ++
      (Bytes.littleEndian 2 layout.length ++
        layout.kind :: (layout.name ++ 0 :: layout.padding)))

/-- What the record holds, without its padding. -/
def entry (layout : Layout) : Entry where
  inode := layout.inode
  cookie := layout.cookie
  kind := .ofByte layout.kind
  name := layout.name

theorem length_bytes (layout : Layout) : layout.bytes.length = layout.length := by
  simp only [bytes, length, List.length_append, List.length_cons, Bytes.length_littleEndian]
  omega

theorem drop_bytes (layout : Layout) :
    layout.bytes.drop 19 = layout.name ++ 0 :: layout.padding := by
  unfold bytes
  simp only [← List.append_assoc]
  rw [List.drop_append]
  simp

theorem slice_inode (layout : Layout) :
    layout.bytes.slice 0 8 = Bytes.littleEndian 8 layout.inode.toNat := by
  unfold bytes
  rw [Bytes.slice_append_left _ 0 (by simp)]
  simp [Bytes.slice, List.take_of_length_le]

theorem slice_cookie (layout : Layout) :
    layout.bytes.slice 8 16 = Bytes.littleEndian 8 layout.cookie.toUInt64.toNat := by
  unfold bytes
  apply Bytes.slice_append_append <;> simp

theorem slice_length (layout : Layout) :
    layout.bytes.slice 16 18 = Bytes.littleEndian 2 layout.length := by
  unfold bytes
  rw [← List.append_assoc]
  apply Bytes.slice_append_append <;> simp

theorem isRecord (layout : Layout) : IsRecord layout.bytes where
  atLeast := by
    rw [length_bytes]
    unfold length
    omega
  atMost := by
    rw [length_bytes]
    exact layout.fits
  claimed := by
    have fits := layout.fits
    have small : layout.length < Nat.pow 256 2 := by
      have square : Nat.pow 256 2 = 65536 := rfl
      unfold length
      omega
    rw [slice_length, length_bytes, Bytes.ofLittleEndian_littleEndian small]
  terminated := by
    rw [drop_bytes]
    simp

def record (layout : Layout) : Record := ⟨layout.bytes, layout.isRecord⟩

theorem entry_record (layout : Layout) : layout.record.entry = layout.entry := by
  have inode : layout.inode.toNat < Nat.pow 256 8 := layout.inode.toNat_lt
  have cookie : layout.cookie.toUInt64.toNat < Nat.pow 256 8 := layout.cookie.toUInt64.toNat_lt
  have kind : layout.bytes[18]? = some layout.kind := by
    simp [bytes, List.getElem?_append]
  unfold Record.entry record entry
  simp only [slice_inode, slice_cookie, drop_bytes, kind, Option.getD_some,
    Bytes.ofLittleEndian_littleEndian inode, Bytes.ofLittleEndian_littleEndian cookie,
    takeWhile_name layout.free, UInt64.ofNat_toNat]
  rfl

theorem flatMap_bytes (layouts : List Layout) :
    layouts.flatMap bytes = row (layouts.map record) := by
  unfold row
  rw [List.flatMap_map]
  rfl

end Layout

/-! ## Reading accepts the grammar -/

/-- A buffer is read without an error exactly if it is a row of records. There is one way at most to
see it as one, each item is what its record stands for, and laying out entries with any padding and
reading them gives them back. -/
theorem items_accept_rows :
    (∀ buffer, (∀ item ∈ items buffer, item.isOk) ↔ ∃ records, buffer = row records) ∧
      Function.Injective row ∧
      (∀ records, List.Forall₂ (fun item (record : Record) =>
        ∃ entry, item = .ok entry ∧ Decodes record.bytes entry) (items (row records)) records) ∧
      ∀ layouts : List Layout,
        items (layouts.flatMap Layout.bytes) = layouts.map (.ok ·.entry) := by
  refine ⟨fun buffer => ⟨exists_row_of_isOk, ?_⟩, row_injective, fun records => ?_, ?_⟩
  · rintro ⟨records, rfl⟩ item member
    rw [items_row] at member
    obtain ⟨record, _, rfl⟩ := List.mem_map.1 member
    rfl
  · rw [items_row]
    induction records with
    | nil => exact .nil
    | cons record records ih => exact .cons ⟨record.entry, rfl, record.decodes_entry⟩ ih
  · intro layouts
    rw [Layout.flatMap_bytes, items_row, List.map_map]
    exact List.map_congr_left fun layout _ => congrArg Except.ok layout.entry_record

end Directory

end CopyUp
