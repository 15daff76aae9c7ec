/-
  Breadcrumb.CommandLine.Switch
  ─────────────────────────────
  **SWITCHES, AND TELLING THEM FROM WORDS.**

  An argument that starts with a dash and has more than the dash is a switch.  A
  long name stands alone, and a value may follow it after an equals sign; short
  names may share one dash, and the first of them that takes a value takes the
  rest of the argument.  A value that is not there is the next argument, whatever
  that looks like.  After two dashes alone everything is a word.

  `scan` reads arguments from left to right and stops at the first one that does
  not fit.  For a long name that is not known it finds those that it looks like.
-/
import Breadcrumb.Text.Lines
import Breadcrumb.Text.Similarity

namespace Breadcrumb.CommandLine

open Breadcrumb.Text

/-! ## §1. The switches. -/

/-- The switches of all commands. -/
inductive Switch where
  | version
  | verbose
  | quiet
  | maxTokens
  | encoding
  | json
  | global
  | force
  | help
  deriving DecidableEq, Repr, Inhabited

namespace Switch

/-- The long name. -/
def long : Switch → String
  | version => "--version"
  | verbose => "--verbose"
  | quiet => "--quiet"
  | maxTokens => "--max-tokens"
  | encoding => "--encoding"
  | json => "--json"
  | global => "--global"
  | force => "--force"
  | help => "--help"

/-- The letter of the short name. -/
def letter? : Switch → Option Char
  | verbose => some 'v'
  | quiet => some 'q'
  | maxTokens => some 'm'
  | force => some 'f'
  | _ => none

/-- The kind of value that it takes. -/
def value? : Switch → Option String
  | maxTokens => some "INTEGER"
  | encoding => some "TEXT"
  | _ => none

/-- The short name of a letter. -/
def ofLetter (c : Char) : String := String.ofList ['-', c]

/-- All names, as the help gives them. -/
def term (s : Switch) : String :=
  (match s.letter? with
    | some c => ofLetter c ++ ", "
    | none => "") ++ s.long ++
  (match s.value? with
    | some kind => " " ++ kind
    | none => "")

end Switch

/-! ## §2. Reading arguments. -/

/-- A switch that was given, with its value if it takes one. -/
structure Given where
  switch : Switch
  value : String := ""
  deriving DecidableEq, Repr, Inhabited

/-- An argument that does not fit. -/
inductive Misfit where
  /-- There is no such switch; there are some with names like it. -/
  | unknown (name : String) (near : List String)
  /-- The value of the switch is missing. -/
  | needsValue (name : String)
  /-- The switch takes no value. -/
  | takesNoValue (name : String)
  deriving DecidableEq, Repr

/-- What one argument gives: complete switches, and a last one that waits for its value. -/
structure Read where
  given : List Given := []
  waiting : Option (Switch × String) := none
  deriving DecidableEq, Repr, Inhabited

/-- Switches by their letters behind one dash. -/
def letters (known : List Switch) : List Char → Except Misfit Read
  | [] => .ok {}
  | c :: rest =>
    match known.find? (·.letter? = some c) with
    | none => .error (.unknown (Switch.ofLetter c) [])
    | some s =>
      if s.value?.isSome then
        if rest.isEmpty then .ok { waiting := some (s, Switch.ofLetter c) }
        else .ok { given := [⟨s, String.ofList rest⟩] }
      else (letters known rest).map fun r => { r with given := ⟨s, ""⟩ :: r.given }

/-- A switch by its long name. -/
def longName (known : List Switch) (cs : List Char) : Except Misfit Read :=
  let name := String.ofList (cs.takeWhile (· ≠ '='))
  match known.find? (·.long = name), cs.dropWhile (· ≠ '=') with
  | none, _ => .error (.unknown name (nearest (known.map Switch.long) name))
  | some s, [] =>
    if s.value?.isSome then .ok { waiting := some (s, name) } else .ok { given := [⟨s, ""⟩] }
  | some s, _ :: value =>
    if s.value?.isSome then .ok { given := [⟨s, String.ofList value⟩] }
    else .error (.takesNoValue name)

/-- An argument that is a switch. -/
def switches (known : List Switch) (cs : List Char) : Except Misfit Read :=
  if ['-', '-'].isPrefixOf cs then longName known cs else letters known (cs.drop 1)

/-- Whether an argument is a switch. -/
def isSwitch : List Char → Bool
  | '-' :: _ :: _ => true
  | _ => false

/-- What arguments give: the switches in order, and the words. -/
structure Arguments where
  given : List Given := []
  words : List String := []
  deriving DecidableEq, Repr, Inhabited

/-- Arguments with switches in front. -/
def Arguments.push (gs : List Given) (a : Arguments) : Arguments :=
  { a with given := gs ++ a.given }

/-- Reads arguments.  Where words end the switches, the first word and all after it are words. -/
def scan (known : List Switch) (wordsEnd : Bool) : List String → Except Misfit Arguments
  | [] => .ok {}
  | arg :: rest =>
    if arg = "--" then .ok { words := rest }
    else if isSwitch arg.toList then
      match switches known arg.toList with
      | .error m => .error m
      | .ok ⟨given, none⟩ => (scan known wordsEnd rest).map (·.push given)
      | .ok ⟨given, some (s, name)⟩ =>
        match rest with
        | [] => .error (.needsValue name)
        | value :: rest => (scan known wordsEnd rest).map (·.push (given ++ [⟨s, value⟩]))
    else if wordsEnd then .ok { words := arg :: rest }
    else (scan known wordsEnd rest).map fun a => { a with words := arg :: a.words }

namespace Arguments

/-- Whether a switch was given. -/
def has (a : Arguments) (s : Switch) : Bool := a.given.any (·.switch = s)

/-- The value that was given last. -/
def last? (a : Arguments) (s : Switch) : Option String :=
  (a.given.reverse.find? (·.switch = s)).map Given.value

end Arguments

end Breadcrumb.CommandLine
