/-
  Breadcrumb.Json.Printer
  ───────────────────────
  **JSON AS TEXT.**

  Every level of nesting is indented by two blanks, an empty list or object stays
  on its line, and all that is not ASCII is escaped: a character beyond the basic
  plane as the two halves that UTF-16 gives it.  So are all control characters,
  the one at the end of ASCII too.

  `print` lays a value out with numbers of any length.  A value that holds a number
  of too many digits has no text, so `pretty?` refuses it.
-/
import Breadcrumb.Text.Decimal
import Breadcrumb.Text.Hexadecimal
import Breadcrumb.Text.Utf16

namespace Breadcrumb

open Breadcrumb.Text

/-- A value of JSON, as far as reports need it. -/
inductive Json where
  | number (n : Int)
  | text (s : String)
  | list (items : List Json)
  | object (entries : List (String × Json))
  deriving Repr, Inhabited

namespace Json

/-! ## §1. Texts. -/

/-- A 16-bit unit as an escape: the mark and four hexadecimal digits. -/
def unit (n : Nat) : List Char := '\\' :: 'u' :: Hexadecimal.digits 4 n

/-- One character of a text. -/
def escape (c : Char) : List Char :=
  match c with
  | '"' => ['\\', '"']
  | '\\' => ['\\', '\\']
  | '\n' => ['\\', 'n']
  | '\r' => ['\\', 'r']
  | '\t' => ['\\', 't']
  | c =>
    let n := c.toNat
    if n = 8 then ['\\', 'b']
    else if n = 12 then ['\\', 'f']
    else if 0x20 ≤ n && n < 0x7F then [c]
    else (Utf16.encodeChar c).flatMap unit

/-- A text between its marks. -/
def quoted (s : String) : List Char := '"' :: (s.toList.flatMap escape ++ ['"'])

/-! ## §2. Values. -/

/-- A new line and its indentation. -/
def newline (depth : Nat) : List Char := '\n' :: List.replicate (2 * depth) ' '

mutual

/-- A value at a depth of nesting. -/
def print (depth : Nat) : Json → List Char
  | number n => Decimal.ofInt n
  | text s => quoted s
  | list [] => ['[', ']']
  | list (item :: items) =>
    '[' :: (newline (depth + 1) ++ print (depth + 1) item ++ printItems (depth + 1) items ++
      newline depth ++ [']'])
  | object [] => ['\x7b', '\x7d']
  | object ((key, value) :: entries) =>
    '\x7b' :: (newline (depth + 1) ++ quoted key ++ ':' :: ' ' :: print (depth + 1) value ++
      printEntries (depth + 1) entries ++ newline depth ++ ['\x7d'])

/-- Further items of a list, each after a comma. -/
def printItems (depth : Nat) : List Json → List Char
  | [] => []
  | item :: items => ',' :: (newline depth ++ print depth item ++ printItems depth items)

/-- Further entries of an object, each after a comma. -/
def printEntries (depth : Nat) : List (String × Json) → List Char
  | [] => []
  | (key, value) :: entries =>
    ',' :: (newline depth ++ quoted key ++ ':' :: ' ' :: print depth value ++
      printEntries depth entries)

end

/-- A value as it is laid out, its numbers of any length. -/
def pretty (j : Json) : String := String.ofList (print 0 j)

/-! ## §3. Numbers that are too long. -/

mutual

/-- The numbers in a value. -/
def numbers : Json → List Int
  | number n => [n]
  | text _ => []
  | list items => itemNumbers items
  | object entries => entryNumbers entries

/-- The numbers in items. -/
def itemNumbers : List Json → List Int
  | [] => []
  | item :: items => numbers item ++ itemNumbers items

/-- The numbers in entries. -/
def entryNumbers : List (String × Json) → List Int
  | [] => []
  | (_, value) :: entries => numbers value ++ entryNumbers entries

end

/-- The text of a value; nothing if a number has too many digits to be written. -/
def pretty? (j : Json) : Option String :=
  if ∀ n ∈ j.numbers, Decimal.Short n then some j.pretty else none

end Json

end Breadcrumb
