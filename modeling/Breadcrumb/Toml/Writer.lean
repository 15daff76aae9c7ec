/-
  Breadcrumb.Toml.Writer
  ──────────────────────
  **WRITING TOML.**

  Strings are written between double marks.  Backslash, the mark and the control
  characters are escaped, five controls by a letter and the others by their code
  point; a tab and everything beyond ASCII stand for themselves.
-/
import Breadcrumb.Value
import Breadcrumb.Text.Hexadecimal

namespace Breadcrumb.Toml

open Breadcrumb.Number Breadcrumb.Text

/-- One character of a string. -/
def escape (c : Char) : List Char :=
  match c with
  | '"' => ['\\', '"']
  | '\\' => ['\\', '\\']
  | '\n' => ['\\', 'n']
  | '\r' => ['\\', 'r']
  | '\t' => ['\t']
  | c =>
    if c.toNat = 8 then ['\\', 'b']
    else if c.toNat = 12 then ['\\', 'f']
    else if c.toNat < 0x20 || c.toNat = 0x7F then '\\' :: 'u' :: Hexadecimal.digits 4 c.toNat
    else [c]

/-- A string between its marks. -/
def writeString (s : String) : String :=
  String.ofList ('"' :: (s.toList.flatMap escape ++ ['"']))

/-- A number or a truth value; nothing for an integer of too many digits. -/
def writeQuantity : Quantity → Option String
  | .whole n =>
    if (Decimal.digits n.natAbs).length ≤ Decimal.digitLimit then some (Decimal.intText n) else none
  | .flag b => some (if b then "true" else "false")
  | .real x => some x.text

/-- One assignment. -/
def writeEntry (key value : String) : String := key ++ " = " ++ value ++ "\n"

/-- The header of a table. -/
def writeHeader (name : String) : String := "[" ++ name ++ "]\n"

end Breadcrumb.Toml
