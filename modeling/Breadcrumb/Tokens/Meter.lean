/-
  Breadcrumb.Tokens.Meter
  ───────────────────────
  **COUNTING TOKENS.**

  All that the library asks of a tokenizer is a number for a text, or a failure
  (`Tokenizer`).  The meters of this module are tokenizers that need no
  vocabulary: words, characters or octets, a constant, or a table of texts.  A
  meter may be told to fail on texts that contain a certain part.
-/
import Breadcrumb.Failure
import Breadcrumb.Text.Blank
import Breadcrumb.Text.Search

namespace Breadcrumb.Tokens

open Breadcrumb.Text

/-- The number of tokens of a text, or why there is none. -/
abbrev Tokenizer := String → Except Failure Int

/-- What a meter measures. -/
inductive Measure where
  /-- Words between blanks. -/
  | words
  /-- Groups of so many characters, a last smaller one counting as one. -/
  | chars (per : Nat)
  /-- Groups of so many octets of UTF-8. -/
  | bytes (per : Nat)
  /-- Always the same. -/
  | const (n : Int)
  /-- The number of the text in a table, or a default. -/
  | table (entries : List (String × Int)) (default : Int)
  deriving Repr, Inhabited

/-- A quotient rounded up. -/
def groups (n per : Nat) : Nat := (n + per - 1) / per

/-- The measure of a text. -/
def Measure.of : Measure → String → Int
  | words, s => (Text.words s : Nat)
  | chars per, s => groups s.length per
  | bytes per, s => groups s.utf8ByteSize per
  | const n, _ => n
  | table entries default, s => (entries.lookup s).getD default

/-- A measure, and a part of a text on which it fails. -/
structure Meter where
  measure : Measure := .words
  failOn : Option (String × Failure) := none
  deriving Repr, Inhabited

/-- The tokenizer of a meter. -/
def Meter.count (m : Meter) : Tokenizer := fun s =>
  match m.failOn with
  | some (part, failure) =>
    if occursIn part.toList s.toList then .error failure else .ok (m.measure.of s)
  | none => .ok (m.measure.of s)

end Breadcrumb.Tokens
