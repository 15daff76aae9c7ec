/-
  Breadcrumb.CommandLine.Session
  ──────────────────────────────
  **A RUN OF THE PROGRAM, FROM ARGUMENTS TO OUTPUT.**

  A run is a function: from the arguments, the place where the program runs and
  the tools it works with to what it prints, tells, writes and answers.

  A file that fails while it is chunked is reported and the run goes on; the run
  then ends with exit code one.  Trouble outside a file (settings that cannot be
  read, a size that cannot be counted for the report) ends the run.
-/
import Breadcrumb.CommandLine.Request
import Breadcrumb.CommandLine.Screen
import Breadcrumb.Language.Registry
import Breadcrumb.Outcome
import Breadcrumb.Report.Listing
import Breadcrumb.Settings.Cascade
import Breadcrumb.Tokens.Encoding

namespace Breadcrumb.CommandLine

open Breadcrumb.Number Breadcrumb.Packing Breadcrumb.Report Breadcrumb.Settings Breadcrumb.Text
open Breadcrumb.Tokens

/-! ## §1. Types. -/

/-- Where the program runs. -/
structure Place where
  surroundings : Surroundings := {}
  files : FileTree
  cwd : Location
  deriving Repr, Inhabited

/-- What the program works with. -/
structure Tools where
  parse : Packing.Parser
  encoding : String → Except String Encoding

/-- Why a command ends early. -/
inductive Trouble where
  /-- The command says so, perhaps with a hint. -/
  | refusal (message : String) (hint : Option String)
  /-- A value was not acceptable. -/
  | badValue (message : String)
  /-- Something broke. -/
  | breakdown (message : String)
  deriving DecidableEq, Repr, Inhabited

/-- What a command leaves behind. -/
structure Effects where
  out : String := ""
  err : String := ""
  logs : List Log.Record := []
  files : FileTree
  /-- The number of files that failed, or why the command ended early. -/
  ending : Except Trouble Nat := .ok 0

/-- A run of the program as seen from outside. -/
structure Run where
  exitCode : Nat
  out : String
  err : String
  /-- The level from which on records are kept; nothing if that was never settled. -/
  threshold : Option Log.Level
  /-- The records at or above it. -/
  logs : List Log.Record
  files : FileTree
  /-- The refusal at which the run broke off without a word, if it did. -/
  brokenOff : Option FileFault := none

/-! ## §2. Trouble. -/

/-- No file with a grammar was found. -/
def noFiles : Trouble :=
  .refusal "No supported source files found"
    (some "Run 'scopechunk languages' to see the supported extensions")

/-- There is a file of settings already. -/
def settingsExist (path : String) : Trouble :=
  .refusal ("Config file already exists: " ++ path) (some "Use --force to overwrite it")

/-- A failure of the work on files as trouble of a command. -/
def Trouble.ofFailure (f : Failure) : Trouble :=
  match f with
  | .reported message hint => .refusal message hint
  | .invalidBudget _ => .refusal f.message f.hint
  | .badValue message => .badValue message
  | .breakdown _ | .unknownKey _ | .encodingUnavailable _ _ => .breakdown f.message

/-- A value that is refused as trouble of a command. -/
def Trouble.ofInvalid (i : Invalid) : Trouble :=
  match i with
  | .notANumber _ => .breakdown i.message
  | .notPositive _ _ | .blankEncoding => .badValue i.message

/-- A message with its hint. -/
def hinted (message : String) : Option String → String
  | none => message
  | some hint => if hint = "" then message else message ++ "\nHint: " ++ hint

/-- The words for trouble in a command. -/
def Trouble.message (page : Page) : Trouble → String
  | refusal message hint => hinted message hint
  | badValue message =>
    hinted message (some "Check the command options and config.toml values")
  | breakdown message =>
    hinted ("Unexpected error in " ++ join " " page.words ++ ": " ++ message)
      (some "Run with --verbose for more details")

/-- The line in place of an account of where something broke. -/
def traceLine : String := "<traceback>\n"

/-- What is printed for trouble in a command. -/
def Trouble.text (page : Page) (verbose : Bool) (t : Trouble) : String :=
  (match t with
    | breakdown _ => if verbose then traceLine else ""
    | _ => "") ++
  "Error: " ++ t.message page ++ "\n"

/-! ## §3. The chunk command. -/

/-- The directory of the place as a path. -/
def Place.here (p : Place) : Path := ⟨1, p.cwd⟩

/-- The settings that hold at the place. -/
def Place.settings (p : Place) : Loaded :=
  cascade p.surroundings p.files p.cwd (localDirectory p.here)

/-- The data that an order lays over the settings. -/
def ChunkOrder.data (o : ChunkOrder) : Table :=
  (match o.maxTokens with
    | some n => [(chunkingSection, Value.table [(Field.maxChunkSize.key, .amount (.whole n))])]
    | none => []) ++
  (match o.encoding with
    | some name => [(tokenizerSection, Value.table [(encodingKey, .text name)])]
    | none => [])

/-- The files that a typed path stands for: the files below a directory that have a grammar, and
anything else itself. -/
def Place.filesOf (p : Place) (typed : String) : List Path :=
  let path := Path.ofString typed
  match p.files.locate p.cwd path.text with
  | .ok there =>
    if p.files.entry? there = some .directory then
      ((p.files.filesBelow there).map fun names => names.foldl Path.child path).filter
        Language.isSupported
    else [path]
  | .error _ => [path]

/-- The text of a file. -/
def contents (octets : Octets) : String :=
  String.ofList (foldLineEnds (Utf8.decode octets))

/-- The outcome of every file in order, up to trouble that is not of a file. -/
structure Outcomes where
  settled : List (Path × Settled) := []
  trouble : Option Trouble := none

/-- Works on one file after the other. -/
def work (p : Place) (c : Chunker) (budget : Quantity) : List Path → Outcomes
  | [] => {}
  | path :: paths =>
    match p.files.octetsOf p.cwd path with
    | .error f => { trouble := some (.breakdown f.message) }
    | .ok octets =>
      match c.attempt ⟨path, contents octets, budget⟩ with
      | .error f => { trouble := some (Trouble.ofFailure f) }
      | .ok s =>
        let later := work p c budget paths
        { later with settled := (path, s) :: later.settled }

namespace Outcomes

/-- The chunks to be reported. -/
def chunks (o : Outcomes) : List FileChunks :=
  o.settled.filterMap fun (path, s) =>
    match s.outcome with
    | .chunked cs => some ⟨path, cs⟩
    | _ => none

/-- How many files failed. -/
def failures (o : Outcomes) : Nat := o.settled.countP fun (_, s) => !s.outcome.isSuccess

/-- What is printed of the files that were passed over or failed. -/
def complaints (o : Outcomes) (quiet : Bool) : String :=
  String.join (o.settled.map fun (path, s) =>
    match s.outcome with
    | .chunked _ => ""
    | .skipped message =>
      if quiet then "" else "Warning: skipped " ++ path.text ++ ": " ++ message ++ "\n"
    | .failed message => "Error: " ++ message ++ "\n")

/-- The records, with the one that an encoding was loaded before those of the first file for which
texts were counted. -/
def logs (loading : List Log.Record) : List (Path × Settled) → List Log.Record
  | [] => []
  | (_, s) :: rest =>
    if s.counted then loading ++ s.logs ++ rest.flatMap (·.2.logs)
    else s.logs ++ logs loading rest

end Outcomes

/-- The report of chunks, each line of it ended; a listing of nothing is not printed. -/
def reportText (count : Tokenizer) (json : Bool) (files : List FileChunks) :
    Except Failure String :=
  if json then (jsonText count files).map (· ++ "\n")
  else (listing count true files).map fun s => if s = "" then "" else s ++ "\n"

/-- The chunk command. -/
def chunkCommand (t : Tools) (p : Place) (quiet : Bool) (o : ChunkOrder) : Effects :=
  let loaded := p.settings
  let early (trouble : Trouble) : Effects :=
    { logs := loaded.logs, files := p.files, ending := .error trouble }
  match loaded.result with
  | .error f => early (.breakdown f.message)
  | .ok base =>
    match base.overlay o.data with
    | .error i => early (Trouble.ofInvalid i)
    | .ok config =>
      match o.paths.flatMap p.filesOf with
      | [] => early noFiles
      | path :: paths =>
        let answer := t.encoding config.encoding
        let count := steady config.encoding answer
        let loading := match answer with
          | .ok _ => [Tokens.loaded config.encoding]
          | .error _ => []
        let os := work p ⟨t.parse, count⟩ config.chunking.maxChunkSize (path :: paths)
        let seen : Effects :=
          { err := os.complaints quiet
            logs := loaded.logs ++ Outcomes.logs loading os.settled
            files := p.files }
        match os.trouble with
        | some trouble => { seen with ending := .error trouble }
        | none =>
          match reportText count o.json os.chunks with
          | .error f => { seen with ending := .error (Trouble.ofFailure f) }
          | .ok text => { seen with out := text, ending := .ok os.failures }

/-! ## §4. The other commands. -/

/-- One line of the list of languages. -/
def languageLine (extension : String) : String :=
  let name := ((Language.byExtension? extension).map Language.Grammar.name).getD ""
  "." ++ fill 6 extension ++ " " ++ fill 12 name ++ " " ++
    Language.markerFor extension ++ "\n"

/-- The languages command. -/
def languagesCommand (p : Place) : Effects :=
  { out := String.join (Language.extensions.map languageLine), files := p.files }

/-- The file of a project's settings at the place. -/
def Place.localFile (p : Place) : Path := (localDirectory p.here).child fileName

/-- What is shown of a file of settings. -/
def fileLine (title : String) (path : Path) (present : Bool) : String :=
  title ++ " config: " ++ path.text ++ (if present then " (exists)\n" else " (not found)\n")

/-- The command that shows the settings. -/
def configShowCommand (p : Place) : Effects :=
  let early (trouble : Trouble) : Effects := { files := p.files, ending := .error trouble }
  match globalFile p.surroundings with
  | .error f => early (.breakdown f.message)
  | .ok globalPath =>
    match p.files.isPresent p.cwd globalPath, p.files.isPresent p.cwd p.localFile with
    | .error f, _ => early (.breakdown f.message)
    | .ok _, .error f => early (.breakdown f.message)
    | .ok globalPresent, .ok localPresent =>
      let loaded := p.settings
      let shown : Effects :=
        { out := fileLine "Global" globalPath globalPresent ++
            fileLine "Local" p.localFile localPresent ++ "\n"
          logs := loaded.logs
          files := p.files }
      match loaded.result with
      | .error f => { shown with ending := .error (.breakdown f.message) }
      | .ok config =>
        match config.write with
        | none => { shown with ending := .error (.badValue unwritable) }
        | some text => { shown with out := shown.out ++ trimRight text ++ "\n" }

/-- The command that creates a file of settings. -/
def configInitCommand (p : Place) (quiet isGlobal force : Bool) : Effects :=
  let early (trouble : Trouble) : Effects := { files := p.files, ending := .error trouble }
  match if isGlobal then globalFile p.surroundings else .ok p.localFile with
  | .error f => early (.breakdown f.message)
  | .ok path =>
    match p.files.isPresent p.cwd path with
    | .error f => early (.breakdown f.message)
    | .ok present =>
      if present && !force then early (settingsExist path.text)
      else
        let change := createFile p.files p.cwd path
        match change.fault with
        | some f => { files := change.tree, ending := .error (.breakdown f.message) }
        | none =>
          { out := if quiet then "" else "Created config at " ++ path.text ++ "\n"
            files := change.tree }

/-! ## §5. Runs. -/

/-- The page of an action. -/
def Action.page : Action → Page
  | chunk _ => .chunk
  | languages => .languages
  | configShow => .configShow
  | configInit _ _ => .configInit

/-- The effects of an action. -/
def Action.perform (t : Tools) (p : Place) (quiet : Bool) : Action → Effects
  | chunk order => chunkCommand t p quiet order
  | languages => languagesCommand p
  | configShow => configShowCommand p
  | configInit isGlobal force => configInitCommand p quiet isGlobal force

/-- The level from which on records are kept. -/
def Verbosity.threshold (v : Verbosity) : Log.Level :=
  if v.verbose then .debug else if v.quiet then .error else .warning

/-- The words for misuse of a command. -/
def misuseText (width : Nat) (programName : String) (page : Page) (m : Misuse) : String :=
  (if m.showsUsage then
    page.usage width programName ++ "\n" ++
      "Try '" ++ page.fullName programName ++ " --help' for help.\n\n"
    else "") ++
  "Error: " ++ m.message ++ "\n"

/-- What a stop prints, as output and as complaint, and its exit code. -/
def Stop.shown (width : Nat) (programName : String) : Stop → String × String × Nat
  | help page => (page.help width programName ++ "\n", "", 0)
  | nothingAsked page => ("", page.help width programName ++ "\n", 2)
  | version => (productName ++ ", version " ++ CommandLine.version ++ "\n", "", 0)
  | misuse page m => ("", misuseText width programName page m, 2)
  | unaskable _ => ("", "", 1)

/-- The refusal behind a stop that has no words. -/
def Stop.fault? : Stop → Option FileFault
  | unaskable typed => some ⟨.holdsNul, Path.ofString typed⟩
  | help _ | nothingAsked _ | version | misuse _ _ => none

/-- What is known at the place of a typed path. -/
def Place.presence (p : Place) (typed : String) : Presence :=
  match p.files.stat p.cwd typed with
  | .ok _ => .there
  | .error .holdsNul => .unaskable
  | .error _ => .missing

/-- A run before styles are taken out. -/
def perform (t : Tools) (p : Place) (width : Nat) (programName : String) (args : List String) :
    Run :=
  let r := request p.presence args
  let threshold := r.verbosity.map Verbosity.threshold
  match r.ending with
  | .error stop =>
    let (out, err, exitCode) := stop.shown width programName
    { exitCode, out, err, threshold, logs := [], files := p.files, brokenOff := stop.fault? }
  | .ok action =>
    let v := r.verbosity.getD {}
    let e := action.perform t p v.quiet
    let logs := Log.keep v.threshold e.logs
    match e.ending with
    | .ok failures =>
      { exitCode := if failures = 0 then 0 else 1
        out := e.out, err := e.err, threshold, logs, files := e.files }
    | .error trouble =>
      { exitCode := 1
        out := e.out, err := e.err ++ trouble.text action.page v.verbose
        threshold, logs, files := e.files }

/-- A run; where styles are not wanted, none is printed. -/
def run (t : Tools) (p : Place) (screen : Screen) (programName : String) (args : List String) :
    Run :=
  let r := perform t p screen.width programName args
  if screen.styled then r else { r with out := withoutStyles r.out, err := withoutStyles r.err }

end Breadcrumb.CommandLine
