/-
  Breadcrumb.Failure
  ──────────────────
  **WHY THE WORK ON A FILE STOPS.**

  Parsers and tokenizers come from outside and may fail in their own words.  Two
  failures are the library's own: a budget that leaves no room for anything, and
  an encoding that cannot be loaded.
-/
import Breadcrumb.Text.Quoted

namespace Breadcrumb

open Breadcrumb.Text

/-- A failure while a file is worked on. -/
inductive Failure where
  /-- Something broke. -/
  | breakdown (message : String)
  /-- A value was not acceptable. -/
  | badValue (message : String)
  /-- Something was looked up and not found. -/
  | unknownKey (key : String)
  /-- A rule was broken; there may be a hint what to do. -/
  | reported (message : String) (hint : Option String)
  /-- The budget is zero or less; it is given as it reads. -/
  | invalidBudget (given : String)
  /-- An encoding cannot be loaded, and why. -/
  | encodingUnavailable (name reason : String)
  deriving DecidableEq, Repr, Inhabited

namespace Failure

/-- The failure in words. -/
def message : Failure → String
  | breakdown message => message
  | badValue message => message
  | unknownKey key => quote key
  | reported message _ => message
  | invalidBudget given => "max_chunk_size must be positive, got " ++ given
  | encodingUnavailable name reason => s!"Failed to load tiktoken encoding {name}: {reason}"

/-- What to do about it, if that is known. -/
def hint : Failure → Option String
  | reported _ hint => hint
  | invalidBudget _ =>
    some "Pass --max-tokens with a positive value or fix [chunking] in config.toml"
  | _ => none

end Failure

end Breadcrumb
