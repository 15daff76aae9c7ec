/-
  Breadcrumb.Toml.Scan
  ────────────────────
  **THE LEXICAL LEVEL OF TOML: BLANKS, COMMENTS, STRINGS, NUMBERS, DATES.**

  Each scanner takes the rest of the document and gives what it read together
  with what is left.  A scanner that may find something else there answers
  `none`; one that has already seen its opening mark answers with a fault.

  Three faults exist.  A document that breaks the grammar is `malformed`, and
  where it does is not told; an integer of too many digits and values that nest
  too deep are told apart, because they are no question of grammar.
-/
import Breadcrumb.Text.Hexadecimal
import Breadcrumb.Value

namespace Breadcrumb.Toml

open Breadcrumb.Number Breadcrumb.Text

/-- Why a document was not read. -/
inductive Fault where
  /-- The document breaks the grammar, or defines a name twice. -/
  | malformed
  /-- A decimal integer has more digits than `Decimal.digitLimit`. -/
  | tooManyDigits (count : Nat)
  /-- Lists and inline tables lie in each other deeper than a reader goes. -/
  | tooDeep
  deriving DecidableEq, Repr

/-- What a scanner read, and the rest of the document. -/
abbrev Scanned (α : Type) := Except Fault (α × List Char)

/-! ## §1. Blanks and comments. -/

/-- A blank inside a line. -/
def isGap (c : Char) : Bool := c = ' ' || c = '\t'

/-- A blank inside or between lines. -/
def isGapOrNewline (c : Char) : Bool := isGap c || c = '\n'

/-- The rest after blanks inside the line. -/
def skipGap (cs : List Char) : List Char := cs.dropWhile isGap

/-- A control character of ASCII. -/
def isControl (c : Char) : Bool := c.toNat < 0x20 || c.toNat = 0x7F

/-- What a comment or a one-line string must not hold. -/
def forbiddenInLine (c : Char) : Bool := isControl c && c ≠ '\t'

/-- What a string of several lines must not hold. -/
def forbiddenInBlock (c : Char) : Bool := isControl c && c ≠ '\t' && c ≠ '\n'

/-- The rest after a comment, which ends before its newline. -/
def skipComment : List Char → Except Fault (List Char)
  | '#' :: rest =>
    if (rest.takeWhile (· ≠ '\n')).any forbiddenInLine then .error .malformed
    else .ok (rest.dropWhile (· ≠ '\n'))
  | cs => .ok cs

/-! ## §2. Strings. -/

/-- The rest of a literal string whose mark has been read. -/
def literal (cs : List Char) : Scanned (List Char) :=
  match cs.dropWhile (· ≠ '\x27') with
  | [] => .error .malformed
  | _ :: rest =>
    let body := cs.takeWhile (· ≠ '\x27')
    if body.any forbiddenInLine then .error .malformed else .ok (body, rest)

/-- What comes before and after the first three marks in a row. -/
def cutTriple (mark : Char) : List Char → Option (List Char × List Char)
  | a :: b :: c :: rest =>
    if a = mark && b = mark && c = mark then some ([], rest)
    else (cutTriple mark (b :: c :: rest)).map fun r => (a :: r.1, r.2)
  | _ => none

/-- Where the scanner of a basic string is. -/
inductive Place where
  /-- Between characters. -/
  | plain
  /-- After a backslash with blanks, before the end of its line. -/
  | beforeNewline
  /-- After a backslash at the end of a line: blanks are dropped. -/
  | dropping
  deriving DecidableEq, Repr

/-- The character with the code point that hexadecimal digits write; surrogates are none. -/
def scalar? (digits : List Char) : Option Char :=
  match Hexadecimal.value? digits with
  | some n => if n < 0xD800 || (0xDFFF < n && n < 0x110000) then some (Char.ofNat n) else none
  | none => none

/-- The character of a short escape. -/
def shortEscape? : Char → Option Char
  | 'b' => some (Char.ofNat 8)
  | 't' => some '\t'
  | 'n' => some '\n'
  | 'f' => some (Char.ofNat 12)
  | 'r' => some '\r'
  | '"' => some '"'
  | '\\' => some '\\'
  | _ => none

/-- One more character in front of what the rest of a string holds. -/
def Scanned.push (c : Char) : Scanned (List Char) → Scanned (List Char)
  | .ok (cs, rest) => .ok (c :: cs, rest)
  | .error f => .error f

/-- The rest of a basic string whose opening marks have been read: one mark, or three marks for a
string of several lines (`block`). -/
def basic (block : Bool) : Place → List Char → Scanned (List Char)
  | _, [] => .error .malformed
  | .beforeNewline, c :: rest =>
    if c = '\n' then basic block .dropping rest
    else if isGap c then basic block .beforeNewline rest
    else .error .malformed
  | place, c :: rest =>
    if place = .dropping && isGapOrNewline c then basic block .dropping rest
    else if c = '"' then
      if !block then .ok ([], rest)
      else match rest with
        | '"' :: '"' :: after => .ok ([], after)
        | _ => (basic block .plain rest).push '"'
    else if c = '\\' then
      match rest with
      | 'u' :: a :: b :: d :: e :: after =>
        match scalar? [a, b, d, e] with
        | some x => (basic block .plain after).push x
        | none => .error .malformed
      | 'U' :: a :: b :: d :: e :: f :: g :: h :: i :: after =>
        match scalar? [a, b, d, e, f, g, h, i] with
        | some x => (basic block .plain after).push x
        | none => .error .malformed
      | x :: after =>
        if block && x = '\n' then basic block .dropping after
        else if block && isGap x then basic block .beforeNewline after
        else match shortEscape? x with
          | some y => (basic block .plain after).push y
          | none => .error .malformed
      | [] => .error .malformed
    else if (if block then forbiddenInBlock c else forbiddenInLine c) then .error .malformed
    else (basic block .plain rest).push c

/-- Up to two marks right after a string of several lines still belong to it. -/
def extraMarks (mark : Char) (body : List Char) : List Char → List Char × List Char
  | a :: b :: rest =>
    if a = mark then
      if b = mark then (body ++ [mark, mark], rest) else (body ++ [mark], b :: rest)
    else (body, a :: b :: rest)
  | [a] => if a = mark then (body ++ [mark], []) else (body, [a])
  | [] => (body, [])

/-- The rest without a newline at its very start. -/
def dropNewline : List Char → List Char
  | '\n' :: rest => rest
  | cs => cs

/-- A string of any of the four kinds, if one begins here. -/
def string? : List Char → Option (Scanned (List Char))
  | '"' :: '"' :: '"' :: rest => some <|
    match basic true .plain (dropNewline rest) with
    | .ok (body, rest) => .ok (extraMarks '"' body rest)
    | .error f => .error f
  | '"' :: rest => some (basic false .plain rest)
  | '\x27' :: '\x27' :: '\x27' :: rest => some <|
    match cutTriple '\x27' (dropNewline rest) with
    | some (body, rest) =>
      if body.any forbiddenInBlock then .error .malformed
      else .ok (extraMarks '\x27' body rest)
    | none => .error .malformed
  | '\x27' :: rest => some (literal rest)
  | _ => none

/-! ## §3. Numbers. -/

/-- Digits that go on, each with at most one underscore before it, and the rest. -/
def moreDigits (p : Char → Bool) : List Char → List Char × List Char
  | '_' :: d :: rest =>
    if p d then let r := moreDigits p rest; (d :: r.1, r.2) else ([], '_' :: d :: rest)
  | d :: rest => if p d then let r := moreDigits p rest; (d :: r.1, r.2) else ([], d :: rest)
  | [] => ([], [])

/-- At least one digit. -/
def digits? (p : Char → Bool) : List Char → Option (List Char × List Char)
  | d :: rest => if p d then let r := moreDigits p rest; some (d :: r.1, r.2) else none
  | [] => none

/-- The number of digits in a base that is a power of two. -/
def baseValue (base : Nat) (ds : List Char) : Nat :=
  ds.foldl (fun n c => n * base + (Hexadecimal.digit? c).getD 0) 0

/-- An integer in hexadecimal, binary or octal digits. -/
def based? : List Char → Option (Nat × List Char)
  | '0' :: 'x' :: rest =>
    (digits? (fun c => (Hexadecimal.digit? c).isSome) rest).map fun r => (baseValue 16 r.1, r.2)
  | '0' :: 'b' :: rest =>
    (digits? (fun c => c = '0' || c = '1') rest).map fun r => (baseValue 2 r.1, r.2)
  | '0' :: 'o' :: rest =>
    (digits? (fun c => '0' ≤ c && c ≤ '7') rest).map fun r => (baseValue 8 r.1, r.2)
  | _ => none

/-- A sign, if there is one: whether it is a minus. -/
def sign : List Char → Bool × List Char
  | '-' :: rest => (true, rest)
  | '+' :: rest => (false, rest)
  | cs => (false, cs)

/-- The digits before a point: a lone zero, or digits that do not start with zero. -/
def integral? : List Char → Option (List Char × List Char)
  | '0' :: rest => some (['0'], rest)
  | cs => digits? Decimal.isDigit cs

/-- The digits after a point, if there is one with digits. -/
def fraction (cs : List Char) : Option (List Char) × List Char :=
  match cs with
  | '.' :: rest =>
    match digits? Decimal.isDigit rest with
    | some (ds, after) => (some ds, after)
    | none => (none, cs)
  | _ => (none, cs)

/-- The exponent, if there is one with digits. -/
def exponent (cs : List Char) : Option Int × List Char :=
  match cs with
  | e :: rest =>
    if e = 'e' || e = 'E' then
      let (negative, rest) := sign rest
      match digits? Decimal.isDigit rest with
      | some (ds, after) =>
        let n : Int := Decimal.value ds
        (some (if negative then -n else n), after)
      | none => (none, cs)
    else (none, cs)
  | [] => (none, cs)

/-- A number, if one begins here. -/
def number? (cs : List Char) : Option (Scanned Quantity) :=
  match based? cs with
  | some (n, rest) => some (.ok (.whole n, rest))
  | none =>
    let (negative, unsigned) := sign cs
    match integral? unsigned with
    | none => none
    | some (ds, rest) =>
      match fraction rest with
      | (places, rest) =>
        match exponent rest with
        | (power, rest) =>
          if places.isNone && power.isNone then
            if Decimal.digitLimit < ds.length then some (.error (.tooManyDigits ds.length))
            else
              let n : Int := Decimal.value ds
              some (.ok (.whole (if negative then -n else n), rest))
          else
            let all := ds ++ places.getD []
            let shift : Int := power.getD 0 - (places.getD []).length
            some (.ok (.real (Binary64.ofDecimal negative (Decimal.value all) all.length shift),
              rest))

/-- An infinity or a NaN, if one begins here. -/
def special? : List Char → Option (Binary64 × List Char)
  | 'i' :: 'n' :: 'f' :: rest => some (.infinite false, rest)
  | 'n' :: 'a' :: 'n' :: rest => some (.nan, rest)
  | '+' :: 'i' :: 'n' :: 'f' :: rest => some (.infinite false, rest)
  | '-' :: 'i' :: 'n' :: 'f' :: rest => some (.infinite true, rest)
  | '+' :: 'n' :: 'a' :: 'n' :: rest => some (.nan, rest)
  | '-' :: 'n' :: 'a' :: 'n' :: rest => some (.nan, rest)
  | _ => none

/-! ## §4. Dates and times. -/

/-- Two digits whose number is in a range. -/
def twoDigits? (low high : Nat) : List Char → Option (Nat × List Char)
  | a :: b :: rest =>
    if Decimal.isDigit a && Decimal.isDigit b then
      let n := Decimal.value [a, b]
      if low ≤ n && n ≤ high then some (n, rest) else none
    else none
  | _ => none

/-- A fraction of a second in microseconds; digits after the sixth are dropped. -/
def micros (cs : List Char) : Nat × List Char :=
  match cs with
  | '.' :: rest =>
    let ds := rest.takeWhile Decimal.isDigit
    if ds.isEmpty then (0, cs)
    else
      let six := (ds ++ List.replicate 6 '0').take 6
      (Decimal.value six, rest.dropWhile Decimal.isDigit)
  | _ => (0, cs)

/-- A time of day, if one begins here. -/
def time? (cs : List Char) : Option (TimeOfDay × List Char) := do
  let (hour, rest) ← twoDigits? 0 23 cs
  let rest ← expect ':' rest
  let (minute, rest) ← twoDigits? 0 59 rest
  let rest ← expect ':' rest
  let (second, rest) ← twoDigits? 0 59 rest
  let (micro, rest) := micros rest
  return (⟨hour, minute, second, micro⟩, rest)
where
  expect (c : Char) : List Char → Option (List Char)
    | d :: rest => if d = c then some rest else none
    | [] => none

/-- An offset from universal time in minutes, if one follows. -/
def offset (cs : List Char) : Option Int × List Char :=
  match cs with
  | c :: rest =>
    if c = 'Z' || c = 'z' then (some 0, rest)
    else if c = '+' || c = '-' then
      match twoDigits? 0 23 rest with
      | some (hours, ':' :: after) =>
        match twoDigits? 0 59 after with
        | some (minutes, after) =>
          let n : Int := hours * 60 + minutes
          (some (if c = '-' then -n else n), after)
        | none => (none, cs)
      | _ => (none, cs)
    else (none, cs)
  | [] => (none, cs)

/-- A calendar date as written, which need not exist. -/
def date? : List Char → Option (Date × List Char)
  | a :: b :: c :: d :: '-' :: rest =>
    if [a, b, c, d].all Decimal.isDigit then
      match twoDigits? 1 12 rest with
      | some (month, '-' :: after) =>
        match twoDigits? 1 31 after with
        | some (day, after) => some (⟨Decimal.value [a, b, c, d], month, day⟩, after)
        | none => none
      | _ => none
    else none
  | _ => none

/-- A date, with a time of day if one follows, or a time of day alone. -/
def moment? (cs : List Char) : Option (Scanned Moment) :=
  match date? cs with
  | some (d, rest) => some <|
    if !d.valid then .error .malformed
    else
      let alone : Scanned Moment := .ok (.date d, rest)
      match rest with
      | c :: after =>
        if c = 'T' || c = 't' || c = ' ' then
          match time? after with
          | some (t, after) =>
            let (zone, after) := offset after
            .ok (.dateTime d t zone, after)
          | none => alone
        else alone
      | [] => alone
  | none => (time? cs).map fun r => .ok (.time r.1, r.2)

end Breadcrumb.Toml
