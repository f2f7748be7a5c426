import CopyUp.Directory.Record

/-!
# Cursors over directory buffers

A cursor hands out the entries of a buffer one at a time. Every byte that it looks at is looked up
with its bounds checked, so that a look beyond the buffer, which yields no answer at all, is told
apart from the end of the buffer and from a malformed record.
-/

namespace CopyUp

/-- The bytes from `start` up to but not including `finish`, if they are all there. -/
def Bytes.slice? (bytes : Bytes) (start finish : Nat) : Option Bytes :=
  if start ≤ finish ∧ finish ≤ bytes.length then some (bytes.slice start finish) else none

namespace Directory

structure Cursor where
  buffer : Bytes
  position : Nat := 0
  /-- A malformed record was met. -/
  failed : Bool := false
  deriving DecidableEq, Repr

namespace Cursor

/-- The entry in a complete record of the claimed length. -/
def decode? (offset : Nat) (rest : Bytes) (claimed : Nat) :
    Option (Except RecordError (Entry × Nat)) := do
  let inode ← rest.slice? 0 8
  let cookie ← rest.slice? 8 16
  let kind ← rest[18]?
  let padded ← rest.slice? headerLength claimed
  match padded.findIdx? (· = 0) with
  | none => some (.error (.unterminatedName offset))
  | some length =>
    let name ← padded.slice? 0 length
    some (.ok
      ({ inode := .ofNat inode.ofLittleEndian
         cookie := (UInt64.ofNat cookie.ofLittleEndian).toInt64
         kind := .ofByte kind
         name }, claimed))

/-- The record at the cursor, with its length. -/
def read? (cursor : Cursor) : Option (Except RecordError (Entry × Nat)) := do
  let offset := cursor.position
  let rest ← cursor.buffer.slice? offset cursor.buffer.length
  if rest.length < headerLength then some (.error (.shortHeader offset rest.length))
  else
    let low ← rest[16]?
    let high ← rest[17]?
    let claimed := Bytes.ofLittleEndian [low, high]
    if claimed = 0 then some (.error (.zeroLength offset))
    else if claimed < headerLength then some (.error (.undersized offset claimed))
    else if rest.length < claimed then some (.error (.overrun offset claimed rest.length))
    else decode? offset rest claimed

/-- The next item, if there is one, and the cursor behind it. A malformed record is the last
item. -/
def next? (cursor : Cursor) : Option (Option (Except RecordError Entry) × Cursor) :=
  if cursor.failed ∨ cursor.buffer.length ≤ cursor.position then some (none, cursor)
  else do
    match ← cursor.read? with
    | .error error => some (some (.error error), { cursor with failed := true })
    | .ok (entry, length) =>
      some (some (.ok entry), { cursor with position := cursor.position + length })

/-- What is handed out when the cursor was moved on so many times before. -/
def nth? : Nat → Cursor → Option (Option (Except RecordError Entry))
  | 0, cursor => cursor.next?.map Prod.fst
  | turns + 1, cursor => do
    let (_, later) ← cursor.next?
    nth? turns later

end Cursor

end Directory

end CopyUp
