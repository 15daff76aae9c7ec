/-
  Breadcrumb.CommandLine.Page
  ───────────────────────────
  **THE COMMANDS AND THEIR HELP.**

  Every command has a page: the words that name it, the switches and commands it
  knows, and what its help says.  Help is set in two columns, a term and what it
  means, the second column two blanks to the right of the longest term.  A text
  that does not fit into its column goes on below its own beginning.
-/
import Breadcrumb.CommandLine.Switch
import Breadcrumb.Text.Wrapped

namespace Breadcrumb.CommandLine

open Breadcrumb.Text

/-- The program itself and its commands. -/
inductive Page where
  | program
  | chunk
  | config
  | configInit
  | configShow
  | languages
  deriving DecidableEq, Repr, Inhabited

/-- The version of the program. -/
def version : String := "0.1.0"

/-- The name under which the program prints its version. -/
def productName : String := "scopechunk"

namespace Page

/-! ## §1. Names and parts. -/

/-- The words that name a command. -/
def words : Page → List String
  | program => []
  | chunk => ["chunk"]
  | config => ["config"]
  | configInit => ["config", "init"]
  | configShow => ["config", "show"]
  | languages => ["languages"]

/-- The last of the words that name a command. -/
def name (p : Page) : String := p.words.getLastD ""

/-- The switches that a command knows. -/
def switches : Page → List Switch
  | program => [.version, .verbose, .quiet, .help]
  | chunk => [.maxTokens, .encoding, .json, .help]
  | configInit => [.global, .force, .help]
  | config | configShow | languages => [.help]

/-- The commands below a command. -/
def commands : Page → List Page
  | program => [chunk, config, languages]
  | config => [configInit, configShow]
  | _ => []

/-- What follows the name in the usage line. -/
def operands : Page → String
  | program | config => "[OPTIONS] COMMAND [ARGS]..."
  | chunk => "[OPTIONS] PATHS..."
  | configInit | configShow | languages => "[OPTIONS]"

/-- The full name of a command of a program. -/
def fullName (p : Page) (programName : String) : String := join " " (programName :: p.words)

/-- The usage line, broken where it is wider than `width`. -/
def usage (p : Page) (width : Nat) (programName : String) : String :=
  join "\n" (hanging width ("Usage: " ++ p.fullName programName ++ " ") p.operands)

/-! ## §2. Help. -/

/-- What a command does, in paragraphs. -/
def description : Page → List String
  | program =>
    ["scopechunk - Context-aware source chunking.",
      "Splits source files into token-bounded chunks, each prefixed with the signatures of " ++
        "its enclosing functions and classes."]
  | chunk =>
    ["Chunk source files into token-bounded, context-prefixed pieces.",
      "PATHS may be files or directories; directories are searched recursively for supported " ++
        "source files."]
  | config => ["Inspect and create configuration files."]
  | configInit => ["Create a config.toml populated with defaults."]
  | configShow => ["Show config file locations and the effective configuration."]
  | languages => ["List supported file extensions and their breadcrumb comment marker."]

/-- What a switch does. -/
def meaning : Switch → String
  | .version => "Show the version and exit."
  | .verbose => "Enable verbose output."
  | .quiet => "Suppress non-essential output."
  | .maxTokens => "Token budget per chunk (default: from config, 512)."
  | .encoding => "tiktoken encoding used to count tokens (default: from config)."
  | .json => "Output chunks as JSON."
  | .global => "Create the global config instead of the project config."
  | .force => "Overwrite an existing config file."
  | .help => "Show this message and exit."

/-- The length of the longest term. -/
def longest (terms : List String) : Nat := (terms.map String.length).foldl max 0

/-- Terms and meanings in two columns. -/
def columns (width : Nat) (rows : List (String × String)) : List String :=
  let column := longest (rows.map Prod.fst) + 2
  rows.flatMap fun (term, meaning) => hanging width ("  " ++ fill column term) meaning

/-- The switches of a command with what they do. -/
def switchRows (p : Page) : List (String × String) :=
  p.switches.map fun s => (s.term, meaning s)

/-- The commands below a command with what they do, cut short so that each has one line. -/
def commandRows (p : Page) (width : Nat) : List (String × String) :=
  let limit := width - 6 - longest (p.commands.map name)
  p.commands.map fun c => (c.name, summary limit (c.description.headD ""))

/-- A titled part of the help, none if it has no rows. -/
def part (width : Nat) (title : String) (rows : List (String × String)) : List (List String) :=
  if rows.isEmpty then [] else [title :: columns width rows]

/-- The help of a command: parts with an empty line between each two of them. -/
def help (p : Page) (width : Nat) (programName : String) : String :=
  let parts := [p.usage width programName] :: p.description.map (hanging width "  ") ++
    part width "Options:" p.switchRows ++ part width "Commands:" (p.commandRows width)
  join "\n\n" (parts.map (join "\n"))

end Page

end Breadcrumb.CommandLine
