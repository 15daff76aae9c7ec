/-
  Breadcrumb.Json.Reader
  ──────────────────────
  **READING JSON.**

  The reader takes what the printer writes and whatever else is JSON made of
  texts, integers, lists and objects: any blanks between the parts and any
  spelling of a character.  A text is read as 16-bit units first, because an
  escape names a unit and not a character.
-/
import Breadcrumb.Json.Printer

namespace Breadcrumb.Json

open Breadcrumb.Text

/-! ## §1. Texts and integers. -/

/-- The characters that may stand between the parts. -/
def isSpace (c : Char) : Bool := c = ' ' || c = '\n' || c = '\r' || c = '\t'

/-- The text after the blanks it begins with. -/
def skipSpace (cs : List Char) : List Char := cs.dropWhile isSpace

/-- The character of a short escape. -/
def shortEscape? : Char → Option Char
  | '"' => some '"'
  | '\\' => some '\\'
  | '/' => some '/'
  | 'b' => some (Char.ofNat 8)
  | 'f' => some (Char.ofNat 12)
  | 'n' => some '\n'
  | 'r' => some '\r'
  | 't' => some '\t'
  | _ => none

/-- The units of a text up to its closing mark, and what follows the mark. -/
def units? : List Char → Option (List Nat × List Char)
  | [] => none
  | '"' :: rest => some ([], rest)
  | '\\' :: 'u' :: a :: b :: c :: d :: rest =>
    match Hexadecimal.value? [a, b, c, d], units? rest with
    | some n, some (us, rest) => some (n :: us, rest)
    | _, _ => none
  | '\\' :: c :: rest =>
    match shortEscape? c, units? rest with
    | some c, some (us, rest) => some (c.toNat :: us, rest)
    | _, _ => none
  | c :: rest =>
    if c.toNat < 0x20 then none
    else (units? rest).map fun (us, rest) => (Utf16.encodeChar c ++ us, rest)

/-- A text after its opening mark. -/
def string? (cs : List Char) : Option (String × List Char) :=
  match units? cs with
  | some (us, rest) => (Utf16.decode? us).map fun cs => (String.ofList cs, rest)
  | none => none

/-- Digits without a needless zero in front. -/
def natural? (cs : List Char) : Option (Nat × List Char) :=
  let ds := cs.takeWhile Decimal.isDigit
  if ds.isEmpty || (ds.head? = some '0' && 1 < ds.length) then none
  else some (Decimal.value ds, cs.dropWhile Decimal.isDigit)

/-- An integer. -/
def integer? : List Char → Option (Int × List Char)
  | '-' :: cs => (natural? cs).map fun (n, rest) => (-(n : Int), rest)
  | cs => (natural? cs).map fun (n, rest) => ((n : Int), rest)

/-! ## §2. Values. -/

mutual

/-- A value, and what follows it. -/
def value? : Nat → List Char → Option (Json × List Char)
  | 0, _ => none
  | fuel + 1, cs =>
    match skipSpace cs with
    | '"' :: rest => (string? rest).map fun (s, rest) => (text s, rest)
    | '[' :: rest =>
      match skipSpace rest with
      | ']' :: rest => some (list [], rest)
      | rest => (items? fuel rest).map fun (items, rest) => (list items, rest)
    | '\x7b' :: rest =>
      match skipSpace rest with
      | '\x7d' :: rest => some (object [], rest)
      | rest => (entries? fuel rest).map fun (entries, rest) => (object entries, rest)
    | rest => (integer? rest).map fun (n, rest) => (number n, rest)

/-- The items of a list up to its end. -/
def items? : Nat → List Char → Option (List Json × List Char)
  | 0, _ => none
  | fuel + 1, cs => do
    let (item, rest) ← value? fuel cs
    match skipSpace rest with
    | ']' :: rest => return ([item], rest)
    | ',' :: rest =>
      let (items, rest) ← items? fuel rest
      return (item :: items, rest)
    | _ => none

/-- The entries of an object up to its end. -/
def entries? : Nat → List Char → Option (List (String × Json) × List Char)
  | 0, _ => none
  | fuel + 1, cs =>
    match skipSpace cs with
    | '"' :: rest => do
      let (key, rest) ← string? rest
      match skipSpace rest with
      | ':' :: rest =>
        let (value, rest) ← value? fuel rest
        match skipSpace rest with
        | '\x7d' :: rest => return ([(key, value)], rest)
        | ',' :: rest =>
          let (entries, rest) ← entries? fuel rest
          return ((key, value) :: entries, rest)
        | _ => none
      | _ => none
    | _ => none

end

/-- The value that a text holds; nothing may follow it but blanks.  Every second step takes a
character, which bounds the steps. -/
def parse (s : String) : Option Json :=
  match value? (2 * s.length + 2) s.toList with
  | some (j, rest) => if (skipSpace rest).isEmpty then some j else none
  | none => none

end Breadcrumb.Json
