/-!
# Bytes

What calls carry and what streams hold: rows of bytes, as the encoding of a text or as the digits
of a number.
-/

namespace CopyUp

abbrev Bytes := List UInt8

namespace Bytes

/-- The UTF-8 encoding of a text. -/
def ofText (text : String) : Bytes := text.toByteArray.data.toList

/-- The number whose base-256 digits are the bytes, lowest first. -/
def ofLittleEndian : Bytes → Nat
  | [] => 0
  | byte :: rest => byte.toNat + 256 * ofLittleEndian rest

theorem ofLittleEndian_lt (bytes : Bytes) : ofLittleEndian bytes < Nat.pow 256 bytes.length := by
  induction bytes with
  | nil => simp [ofLittleEndian]
  | cons byte rest ih =>
    have digit : byte.toNat < 256 := byte.toNat_lt
    have grows : Nat.pow 256 (byte :: rest).length = Nat.pow 256 rest.length * 256 := rfl
    rw [ofLittleEndian, grows]
    omega

/-- The bytes from `start` up to but not including `finish`. -/
def slice (bytes : Bytes) (start finish : Nat) : Bytes := (bytes.take finish).drop start

end Bytes

end CopyUp
