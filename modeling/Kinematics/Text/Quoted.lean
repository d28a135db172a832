import Kinematics.Text.GraphemeExtend
import Kinematics.Text.Printable

/-!
# Quoted text
-/

namespace Kinematics.Text

/-- The code point in hexadecimal digits, in braces. -/
def escapedCode (c : Char) : List Char :=
  ['\\', 'u', '\x7b'] ++ Nat.toDigits 16 c.toNat ++ ['\x7d']

/-- A character inside quotes. Quotes, backslashes and the usual controls have a letter of their
own; what cannot be seen by itself is written as its code point. -/
def escape (c : Char) : List Char :=
  if c = '"' then ['\\', '"']
  else if c = '\\' then ['\\', '\\']
  else if c = '\n' then ['\\', 'n']
  else if c = '\r' then ['\\', 'r']
  else if c = '\t' then ['\\', 't']
  else if c = Char.ofNat 0 then ['\\', '0']
  else if extendsGrapheme c || !isPrintable c then escapedCode c
  else [c]

def quoted (s : String) : String :=
  String.ofList ('"' :: s.toList.flatMap escape ++ ['"'])

/-- The quoted texts in brackets, with commas between them. -/
def quotedList (xs : List String) : String :=
  "[" ++ ", ".intercalate (xs.map quoted) ++ "]"

end Kinematics.Text
