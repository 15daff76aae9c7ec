/-
  Breadcrumb.Text.Quoted
  ──────────────────────
  **TEXTS SHOWN IN MESSAGES.**

  A message that repeats what somebody typed puts it in quotation marks, and
  writes characters that cannot be seen as escapes, so that the message stays on
  its line and two different texts never look the same.  Single marks are used
  unless the text has single marks and no double ones.
-/
import Breadcrumb.Text.Hexadecimal
import Breadcrumb.Text.Printable

namespace Breadcrumb.Text

namespace Quoted

/-- One character between marks of the given kind. -/
def escape (mark c : Char) : List Char :=
  if c = mark || c = '\\' then ['\\', c]
  else if c = '\n' then ['\\', 'n']
  else if c = '\r' then ['\\', 'r']
  else if c = '\t' then ['\\', 't']
  else if isPrintable c then [c]
  else if c.toNat < 0x100 then '\\' :: 'x' :: Hexadecimal.digits 2 c.toNat
  else if c.toNat < 0x10000 then '\\' :: 'u' :: Hexadecimal.digits 4 c.toNat
  else '\\' :: 'U' :: Hexadecimal.digits 8 c.toNat

/-- The mark that a text is put in. -/
def mark (cs : List Char) : Char :=
  if cs.contains '\x27' && !cs.contains '"' then '"' else '\x27'

/-- The text in quotation marks. -/
def encode (cs : List Char) : List Char :=
  mark cs :: (cs.flatMap (escape (mark cs)) ++ [mark cs])

end Quoted

/-- `Quoted.encode` on a string. -/
def quote (s : String) : String := String.ofList (Quoted.encode s.toList)

end Breadcrumb.Text
