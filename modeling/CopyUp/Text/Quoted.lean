import CopyUp.Text.GraphemeExtend
import CopyUp.Text.Unprintable

/-!
# Quoted text

A quoted text stands between double quotes on one visible line: quotes and backslashes are
escaped, the usual blanks have a letter each, and every other character that would not show as
itself is written as its code point in hexadecimal.
-/

namespace CopyUp.Text

/-- The code point in lower-case hexadecimal, between braces. -/
def codePointEscape (c : Char) : List Char :=
  ['\\', 'u', '\x7b'] ++ Nat.toDigits 16 c.toNat ++ ['\x7d']

/-- The fillers of the Hangul script are letters that leave a blank. -/
def hangulFillers : List Char := ['\u115f', '\u1160', '\u3164', '\uffa0']

/-- The sound marks of halfwidth kana extend the character before them and yet are letters with a
form of their own. -/
def halfwidthSoundMarks : List Char := ['\uff9e', '\uff9f']

/-- Whether a character shows as itself wherever it stands. -/
def hasOwnForm (c : Char) : Bool :=
  !(isUnprintable c || hangulFillers.contains c ||
    isGraphemeExtend c && !halfwidthSoundMarks.contains c)

/-- The written form of one character between the quotes. -/
def quotedChar (c : Char) : List Char :=
  if c = '\x00' then ['\\', '0']
  else if c = '\t' then ['\\', 't']
  else if c = '\n' then ['\\', 'n']
  else if c = '\r' then ['\\', 'r']
  else if c = '"' || c = '\\' then ['\\', c]
  else if hasOwnForm c then [c]
  else codePointEscape c

/-- A text between double quotes, with what would not show escaped. -/
def quoted (text : String) : String :=
  String.ofList ('"' :: text.toList.flatMap quotedChar ++ ['"'])

end CopyUp.Text
