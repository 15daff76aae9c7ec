/-
  Breadcrumb.CommandLine.Request
  ──────────────────────────────
  **WHAT THE ARGUMENTS ASK FOR.**

  `request` turns arguments into an action, or says why none is to be taken: help
  or the version is wanted, or the arguments are misused.  Help and version win
  over everything but a switch that does not fit, and of the two the one given
  first.

  How much is to be told is known as soon as a command is found; a request that
  stops before that has no verbosity.
-/
import Breadcrumb.CommandLine.Page
import Breadcrumb.Text.Decimal
import Breadcrumb.Text.Quoted

namespace Breadcrumb.CommandLine

open Breadcrumb.Text

/-! ## §1. Types. -/

/-- How much is to be told. -/
structure Verbosity where
  verbose : Bool := false
  quiet : Bool := false
  deriving DecidableEq, Repr, Inhabited

/-- What the chunk command is asked for. -/
structure ChunkOrder where
  /-- The files and directories, as they were typed. -/
  paths : List String
  maxTokens : Option Int := none
  encoding : Option String := none
  json : Bool := false
  deriving DecidableEq, Repr, Inhabited

/-- An action to be taken. -/
inductive Action where
  | chunk (order : ChunkOrder)
  | languages
  | configShow
  /-- Create a file of settings: a person's rather than a project's, and even where there is one. -/
  | configInit (isGlobal force : Bool)
  deriving DecidableEq, Repr, Inhabited

/-- Arguments that make no sense. -/
inductive Misuse where
  | misfit (m : Misfit)
  | noCommand
  /-- There is no such command; there are some with names like it. -/
  | unknownCommand (name : String) (near : List String)
  | notAnInteger (s : Switch) (typed : String)
  | noPaths
  | noSuchPath (typed : String)
  | extraWords (words : List String)
  deriving DecidableEq, Repr

/-- Why no action is taken. -/
inductive Stop where
  /-- Help was asked for. -/
  | help (page : Page)
  /-- Help is given because nothing was asked for. -/
  | nothingAsked (page : Page)
  /-- The version was asked for. -/
  | version
  | misuse (page : Page) (m : Misuse)
  /-- A path that cannot be asked for breaks everything off. -/
  | unaskable (typed : String)
  deriving DecidableEq, Repr

/-- What is known of a typed path. -/
inductive Presence where
  /-- It names a file or directory. -/
  | there
  /-- It names nothing. -/
  | missing
  /-- It has a NUL in it, so that it cannot even be asked for. -/
  | unaskable
  deriving DecidableEq, Repr

/-- What arguments ask for. -/
structure Request where
  /-- How much is to be told; nothing if no command was found. -/
  verbosity : Option Verbosity
  ending : Except Stop Action

/-! ## §2. Misuse in words. -/

/-- The question whether another name was meant. -/
def suggestion : List String → String
  | [] => ""
  | [name] => " Did you mean " ++ quote name ++ "?"
  | names => " (Did you mean one of: " ++ join ", " (names.map quote) ++ "?)"

/-- The words for an argument that does not fit. -/
def Misfit.message : Misfit → String
  | .unknown name near => "No such option " ++ quote name ++ "." ++ suggestion near
  | .needsValue name => "Option " ++ quote name ++ " requires an argument."
  | .takesNoValue name => "Option " ++ quote name ++ " does not take a value."

/-- How the paths are called. -/
def pathsTerm : String := "PATHS..."

/-- The names of a switch, each in quotation marks. -/
def quotedNames (s : Switch) : String :=
  quote s.long ++
  (match s.letter? with
    | some c => " / " ++ quote (Switch.ofLetter c)
    | none => "")

/-- The words for misuse. -/
def Misuse.message : Misuse → String
  | misfit m => m.message
  | noCommand => "Missing command."
  | unknownCommand name near => "No such command " ++ quote name ++ "." ++ suggestion near
  | notAnInteger s typed =>
    "Invalid value for " ++ quotedNames s ++ ": " ++ quote typed ++ " is not a valid integer."
  | noPaths => "Missing argument " ++ quote pathsTerm ++ "."
  | noSuchPath typed =>
    "Invalid value for " ++ quote pathsTerm ++ ": Path " ++ quote typed ++ " does not exist."
  | extraWords words =>
    "Got unexpected extra argument" ++ (if words.length = 1 then "" else "s") ++
      " (" ++ join " " words ++ ")"

/-- Whether the usage line stands above the words: only a value that is missing or one too many
goes without. -/
def Misuse.showsUsage : Misuse → Bool
  | misfit (.needsValue _) => false
  | misfit (.takesNoValue _) => false
  | _ => true

/-! ## §3. From arguments to a request. -/

/-- Help or version, whichever was given first. -/
def Arguments.question? (a : Arguments) (page : Page) : Option Stop :=
  a.given.findSome? fun g =>
    match g.switch with
    | .help => some (.help page)
    | .version => some .version
    | _ => none

/-- The arguments of a page. -/
def Page.arguments (page : Page) (args : List String) : Except Stop Arguments :=
  match scan page.switches (!page.commands.isEmpty) args with
  | .error m => .error (.misuse page (.misfit m))
  | .ok a =>
    match a.question? page with
    | some stop => .error stop
    | none => .ok a

/-- The arguments of a page that has commands below it. -/
def Page.groupArguments (page : Page) (args : List String) : Except Stop Arguments :=
  if args.isEmpty then .error (.nothingAsked page) else page.arguments args

/-- The command that words name, and the words after its name.  A name with a dash in front is
first read as arguments once more, for what it may ask. -/
def Page.resolve (page : Page) : List String → Except Stop (Page × List String)
  | [] => .error (.misuse page .noCommand)
  | name :: rest =>
    match page.commands.find? (·.name = name) with
    | some command => .ok (command, rest)
    | none =>
      let unknown : Except Stop (Page × List String) :=
        .error (.misuse page (.unknownCommand name (nearest (page.commands.map Page.name) name)))
      if name.toList.head? = some '-' then
        match page.groupArguments (name :: rest) with
        | .error stop => .error stop
        | .ok _ => unknown
      else unknown

/-- No words may be left over. -/
def noWords (page : Page) (a : Arguments) : Except Stop Unit :=
  if a.words.isEmpty then .ok () else .error (.misuse page (.extraWords a.words))

/-- The number of tokens that was typed. -/
def typedTokens (a : Arguments) : Except Stop (Option Int) :=
  match a.last? .maxTokens with
  | none => .ok none
  | some typed =>
    match Decimal.readInt? typed with
    | some n => .ok (some n)
    | none => .error (.misuse .chunk (.notAnInteger .maxTokens typed))

/-- The paths that were typed, each of which has to be there. -/
def typedPaths (presence : String → Presence) (a : Arguments) : Except Stop (List String) :=
  if a.words.isEmpty then .error (.misuse .chunk .noPaths)
  else
    match a.words.find? (presence · ≠ .there) with
    | some typed =>
      if presence typed = .unaskable then .error (.unaskable typed)
      else .error (.misuse .chunk (.noSuchPath typed))
    | none => .ok a.words

/-- The action of a command that has no commands below it. -/
def Page.action (presence : String → Presence) (page : Page) (args : List String) :
    Except Stop Action := do
  let a ← page.arguments args
  match page with
  | .chunk =>
    let maxTokens ← typedTokens a
    let paths ← typedPaths presence a
    return .chunk { paths, maxTokens, encoding := a.last? .encoding, json := a.has .json }
  | .configInit =>
    noWords page a
    return .configInit (a.has .global) (a.has .force)
  | .configShow =>
    noWords page a
    return .configShow
  | .languages =>
    noWords page a
    return .languages
  | .program | .config => .error (.misuse page .noCommand)

/-- The action of a command. -/
def Page.descend (presence : String → Presence) (page : Page) (args : List String) :
    Except Stop Action :=
  match page with
  | .config => do
    let a ← page.groupArguments args
    let (command, rest) ← page.resolve a.words
    command.action presence rest
  | _ => page.action presence args

/-- What arguments ask for.  `presence` says what is known of a path. -/
def request (presence : String → Presence) (args : List String) : Request :=
  match Page.program.groupArguments args with
  | .error stop => ⟨none, .error stop⟩
  | .ok a =>
    match Page.program.resolve a.words with
    | .error stop => ⟨none, .error stop⟩
    | .ok (command, rest) =>
      ⟨some ⟨a.has .verbose, a.has .quiet⟩, command.descend presence rest⟩

end Breadcrumb.CommandLine
