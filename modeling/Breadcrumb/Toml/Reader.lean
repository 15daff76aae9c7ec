/-
  Breadcrumb.Toml.Reader
  ──────────────────────
  **READING A TOML DOCUMENT.**

  Values nest, so their reader calls itself; every call goes with a smaller
  amount of fuel, and the amount it starts with is more than the document has
  characters to use up.  How deep values may nest is bounded besides: each list
  and each inline table takes its share of the room that there is for what it
  holds, and the first one without room ends the reading, whatever comes after
  it.  `load` takes the octets of a file: they must be UTF-8
  and a document.
-/
import Breadcrumb.Toml.Document
import Breadcrumb.Text.Lines
import Breadcrumb.Text.Utf8

namespace Breadcrumb.Toml

open Breadcrumb.Number Breadcrumb.Text

/-! ## §1. Keys. -/

/-- A character of a key without quotation marks. -/
def isBareKey (c : Char) : Bool :=
  ('A' ≤ c && c ≤ 'Z') || ('a' ≤ c && c ≤ 'z') || Decimal.isDigit c || c = '-' || c = '_'

/-- One part of a dotted key. -/
def keyPart (cs : List Char) : Except Fault (String × List Char) :=
  match cs with
  | '"' :: rest => (basic false .plain rest).map fun r => (String.ofList r.1, r.2)
  | '\x27' :: rest => (literal rest).map fun r => (String.ofList r.1, r.2)
  | _ =>
    let bare := cs.takeWhile isBareKey
    if bare.isEmpty then .error .malformed
    else .ok (String.ofList bare, cs.dropWhile isBareKey)

/-- A dotted key and the blanks after it. -/
def key (fuel : Nat) (cs : List Char) : Except Fault (Key × List Char) :=
  match fuel with
  | 0 => .error .malformed
  | fuel + 1 => do
    let (part, rest) ← keyPart cs
    match skipGap rest with
    | '.' :: rest =>
      let (parts, rest) ← key fuel (skipGap rest)
      return (part :: parts, rest)
    | rest => return ([part], rest)

/-- The rest after an equals sign and the blanks after it. -/
def equalsSign : List Char → Except Fault (List Char)
  | '=' :: rest => .ok (skipGap rest)
  | _ => .error .malformed

/-! ## §2. Values. -/

/-- The rest after the blanks, newlines and comments between the items of a list. -/
def skipBetween (fuel : Nat) (cs : List Char) : Except Fault (List Char) :=
  match fuel with
  | 0 => .error .malformed
  | fuel + 1 => do
    match cs.dropWhile isGapOrNewline with
    | '#' :: rest =>
      let rest ← skipComment ('#' :: rest)
      skipBetween fuel rest
    | rest => return rest

/-- A value that holds no other: a string, a truth value, a moment or a number. -/
def leaf (cs : List Char) : Scanned Value :=
  match string? cs with
  | some r => r.map fun r => (.text (String.ofList r.1), r.2)
  | none =>
    match cs with
    | 't' :: 'r' :: 'u' :: 'e' :: rest => .ok (.amount (.flag true), rest)
    | 'f' :: 'a' :: 'l' :: 's' :: 'e' :: rest => .ok (.amount (.flag false), rest)
    | _ =>
      match moment? cs with
      | some r => r.map fun r => (.moment r.1, r.2)
      | none =>
        match number? cs with
        | some r => r.map fun r => (.amount r.1, r.2)
        | none =>
          match special? cs with
          | some (x, rest) => .ok (.amount (.real x), rest)
          | none => .error .malformed

/-- The room for values that a document starts with. -/
def nestingRoom : Nat := 982

/-- The room that a list takes from its items. -/
def listRoom : Nat := 2

/-- The room that an inline table takes from its entries. -/
def tableRoom : Nat := 3

/-- What is left of the room after a share of it is taken. -/
def narrowed (room share : Nat) : Except Fault Nat :=
  if room < share then .error .tooDeep else .ok (room - share)

/-- A share is taken exactly if there is room for it, and no more than the share is taken. -/
theorem narrowed_eq_ok_iff {room share left : Nat} :
    narrowed room share = .ok left ↔ left + share = room := by
  unfold narrowed
  split
  · simp only [reduceCtorEq, false_iff]
    omega
  · simp only [Except.ok.injEq]
    omega

mutual

/-- A value, for which there is some room. -/
def value (fuel room : Nat) (cs : List Char) : Except Fault (Value × List Char) :=
  match fuel with
  | 0 => .error .malformed
  | fuel + 1 =>
    match cs with
    | '[' :: rest => do
      let room ← narrowed room listRoom
      let rest ← skipBetween fuel rest
      let (items, rest) ← listItems fuel room rest
      return (.list items, rest)
    | '\x7b' :: rest => do
      let room ← narrowed room tableRoom
      match skipGap rest with
      | '\x7d' :: rest => return (.table [], rest)
      | rest =>
        let (entries, rest) ← inlineEntries fuel room [] [] rest
        return (.table entries, rest)
    | _ => leaf cs

/-- The items of a list up to its closing bracket. -/
def listItems (fuel room : Nat) (cs : List Char) : Except Fault (List Value × List Char) :=
  match fuel with
  | 0 => .error .malformed
  | fuel + 1 =>
    match cs with
    | ']' :: rest => .ok ([], rest)
    | _ => do
      let (v, rest) ← value fuel room cs
      let rest ← skipBetween fuel rest
      match rest with
      | ']' :: rest => return ([v], rest)
      | ',' :: rest =>
        let rest ← skipBetween fuel rest
        let (vs, rest) ← listItems fuel room rest
        return (v :: vs, rest)
      | _ => .error .malformed

/-- The entries of an inline table up to its closing brace.  Keys that hold a list or a table are
frozen for the entries after them. -/
def inlineEntries (fuel room : Nat) (entries : Table) (frozen : List Key) (cs : List Char) :
    Except Fault (Table × List Char) :=
  match fuel with
  | 0 => .error .malformed
  | fuel + 1 => do
    let (k, rest) ← key fuel cs
    let rest ← equalsSign rest
    let (v, rest) ← value fuel room rest
    if frozen.any (·.isPrefixOf k) then .error .malformed
    let entries ← reach false (define (k.getLastD "") v) k.dropLast entries
    match skipGap rest with
    | '\x7d' :: rest => return (entries, rest)
    | ',' :: rest =>
      inlineEntries fuel room entries (if isContainer v then k :: frozen else frozen)
        (skipGap rest)
    | _ => .error .malformed

end

/-! ## §3. Statements. -/

/-- A header or an assignment. -/
def statement (fuel : Nat) (d : Document) (cs : List Char) :
    Except Fault (Document × List Char) :=
  match cs with
  | '[' :: '[' :: rest => do
    let (k, rest) ← key fuel (skipGap rest)
    let d ← d.closeSection.openListItem k
    match rest with
    | ']' :: ']' :: rest => return (d, rest)
    | _ => .error .malformed
  | '[' :: rest => do
    let (k, rest) ← key fuel (skipGap rest)
    let d ← d.closeSection.openTable k
    match rest with
    | ']' :: rest => return (d, rest)
    | _ => .error .malformed
  | _ => do
    let (k, rest) ← key fuel cs
    let rest ← equalsSign rest
    let (v, rest) ← value fuel nestingRoom rest
    let d ← d.assign k v
    return (d, rest)

/-- The statements up to the end of the document, one a line. -/
def statements (fuel : Nat) (d : Document) (cs : List Char) : Except Fault Document :=
  match fuel with
  | 0 => .error .malformed
  | fuel + 1 =>
    match skipGap cs with
    | [] => .ok d
    | '\n' :: rest => statements fuel d rest
    | c :: rest => do
      let (d, rest) ← if c = '#' then pure (d, c :: rest) else statement fuel d (c :: rest)
      let rest ← skipComment (skipGap rest)
      match rest with
      | [] => return d
      | '\n' :: rest => statements fuel d rest
      | _ => .error .malformed

/-- The data of a document. -/
def parse (cs : List Char) : Except Fault Table :=
  let cs := foldPairs cs
  (statements (2 * cs.length + 4) {} cs).map (·.root)

/-! ## §4. Files. -/

/-- Why a file was not read. -/
inductive LoadFault where
  /-- Its octets are no UTF-8. -/
  | encoding (f : Utf8.Fault)
  /-- Its text is no document. -/
  | document (f : Fault)
  deriving DecidableEq, Repr

/-- The data of a file. -/
def load (octets : List Utf8.Octet) : Except LoadFault Table :=
  match Utf8.decodeStrict? octets with
  | .error f => .error (.encoding f)
  | .ok cs =>
    match parse cs with
    | .error f => .error (.document f)
    | .ok t => .ok t

/-- A fault of a file in words.  Where and how a document breaks the grammar is not worked out, so a
mark stands in the place of that detail. -/
def LoadFault.message : LoadFault → String
  | .encoding f => f.message
  | .document .malformed => "Invalid TOML in config file: <detail>"
  | .document (.tooManyDigits n) =>
    s!"Exceeds the limit ({Decimal.digitLimit} digits) for integer string conversion: " ++
      s!"value has {n} digits; use sys.set_int_max_str_digits() to increase the limit"
  | .document .tooDeep => "maximum recursion depth exceeded"

end Breadcrumb.Toml
