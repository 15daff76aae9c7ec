/-
  Breadcrumb.Language.Registry
  ────────────────────────────
  **LANGUAGES AND PARSERS, MADE WHEN FIRST ASKED FOR.**

  Making a language or a parser gives a new object, so a registry makes one of
  each per name and hands out the same one from then on.  Objects are told apart
  by a serial number that languages and parsers share.
-/
import Breadcrumb.Failure
import Breadcrumb.Language.Grammar
import Breadcrumb.Log
import Breadcrumb.Text.Utf8
import Breadcrumb.Tree

namespace Breadcrumb.Language

open Breadcrumb.Text

/-- An object of its own: a language or a parser. -/
abbrev Serial := Nat

/-- A parser, and the language it was made from. -/
structure Parser where
  serial : Serial
  language : Serial
  deriving DecidableEq, Repr, Inhabited

/-- The objects made so far, by name, and the serial number of the next one. -/
structure Registry where
  languages : List (String × Serial) := []
  parsers : List (String × Parser) := []
  next : Serial := 0
  deriving DecidableEq, Repr, Inhabited

/-- What parsers make of the octets of a file: a tree, or a failure. -/
abbrev Parsing := Parser → List Utf8.Octet → Except Failure Node

/-- An answer, the registry after it, and what was told. -/
structure Answer (α : Type) where
  value : α
  registry : Registry
  logs : List Log.Record := []

namespace Registry

/-! ## §1. Requests. -/

/-- The language of a name. -/
def language (r : Registry) (name : String) : Answer (Option Serial) :=
  match r.languages.lookup name with
  | some serial => ⟨some serial, r, []⟩
  | none =>
    match byName? name with
    | none => ⟨none, r, []⟩
    | some _ =>
      ⟨some r.next, { r with languages := (name, r.next) :: r.languages, next := r.next + 1 }, []⟩

/-- The record that a parser was made. -/
def made (name : String) : Log.Record :=
  ⟨.debug, .languages, "Initialized tree-sitter parser for " ++ name⟩

/-- The parser of a name, made from the language of that name. -/
def parser (r : Registry) (name : String) : Answer (Option Parser) :=
  match r.parsers.lookup name with
  | some p => ⟨some p, r, []⟩
  | none =>
    match r.language name with
    | ⟨none, r, logs⟩ => ⟨none, r, logs⟩
    | ⟨some language, r, logs⟩ =>
      let p : Parser := ⟨r.next, language⟩
      ⟨some p, { r with parsers := (name, p) :: r.parsers, next := r.next + 1 },
        logs ++ [made name]⟩

/-- The parser of a file. -/
def parserForPath (r : Registry) (path : Path) : Answer (Option Parser) :=
  match byPath? path with
  | none => ⟨none, r, []⟩
  | some g => r.parser g.name

/-- Whether a file can be parsed; its parser is made for that. -/
def parses (r : Registry) (path : Path) : Answer Bool :=
  let a := r.parserForPath path
  ⟨a.value.isSome, a.registry, a.logs⟩

/-- The tree that a parser makes of a text; there is none without a parser. -/
def treeBy (parsing : Parsing) (contents : String) : Option Parser → Except Failure (Option Node)
  | none => .ok none
  | some p => (parsing p (Utf8.encodeString contents)).map some

/-- The tree of a file by the parser of its path. -/
def parse (r : Registry) (parsing : Parsing) (path : Path) (contents : String) :
    Answer (Except Failure (Option Node)) :=
  let a := r.parserForPath path
  ⟨treeBy parsing contents a.value, a.registry, a.logs⟩

/-! ## §2. Runs. -/

/-- What a registry can be asked for. -/
inductive Ask where
  | language (name : String)
  | parser (name : String)
  | parserForPath (path : Path)
  /-- Whether a file can be parsed. -/
  | parses (path : Path)
  deriving DecidableEq, Repr

/-- What it hands out. -/
inductive Reply where
  | object (serial : Option Serial)
  | truth (b : Bool)
  deriving DecidableEq, Repr

/-- An answer with its value changed. -/
def reply {α : Type} (a : Answer α) (f : α → Reply) : Answer Reply :=
  ⟨f a.value, a.registry, a.logs⟩

/-- One request. -/
def ask (r : Registry) : Ask → Answer Reply
  | .language name => reply (r.language name) .object
  | .parser name => reply (r.parser name) fun p => .object (p.map Parser.serial)
  | .parserForPath path => reply (r.parserForPath path) fun p => .object (p.map Parser.serial)
  | .parses path => reply (r.parses path) .truth

/-- Requests one after the other. -/
def asks (r : Registry) : List Ask → List (Answer Reply)
  | [] => []
  | a :: as => let answer := r.ask a; answer :: asks answer.registry as

end Registry

end Breadcrumb.Language
