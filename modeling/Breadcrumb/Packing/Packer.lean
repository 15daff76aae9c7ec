/-
  Breadcrumb.Packing.Packer
  ─────────────────────────
  **PACKING LINES INTO PIECES.**

  Lines go one by one into the piece at hand.  Where the next line would take it
  over the limit, the piece is closed and the declarations that enclose that line
  are collected for the next one; the limit is the budget less a margin, because
  the breadcrumb of the next piece is not known before it is closed.  A line that
  alone fills the budget can never fit and is dropped, but the lines a piece
  covers still run without a gap.

  A complete run (`run`) is one pass over the lines.  It stops at the first text
  that cannot be counted and keeps the pieces closed before.
-/
import Breadcrumb.Language.Marker
import Breadcrumb.Log
import Breadcrumb.Number.Quantity
import Breadcrumb.Packing.Chunk

namespace Breadcrumb.Packing

open Breadcrumb.Number Breadcrumb.Text Breadcrumb.Tokens

/-! ## §1. One line. -/

/-- Tokens held back from the budget when a piece is to be closed. -/
def margin : Nat := 5

/-- What stays the same while a file is packed. -/
structure Plan where
  count : Tokenizer
  budget : Quantity
  root : Node
  scope : Scope

/-- The limit of a piece. -/
def Plan.limit (p : Plan) : Quantity := p.budget.less margin

/-- The piece at hand. -/
structure State where
  /-- Where collecting declarations has got to. -/
  cursor : Int := -1
  /-- The first line of the piece, counted from one. -/
  start : Nat := 1
  /-- The lines kept in it. -/
  kept : List Line := []
  /-- Their tokens, and one for each newline. -/
  used : Int := 0
  /-- The declarations of its breadcrumb. -/
  crumbs : List Capture := []
  deriving Repr, Inhabited

/-- The piece at hand, closed at a line. -/
def State.close (s : State) (endLine : Nat) : Piece := ⟨s.crumbs, s.kept, s.start, endLine⟩

/-- The state after a piece was closed before a row. -/
def State.reopen (s : State) (row : Nat) : State :=
  { s with start := row + 1, kept := [], used := 0 }

/-- The state with the declarations for the piece that begins at a row. -/
def State.collect (p : Plan) (s : State) (row : Nat) : State :=
  let (crumbs, cursor) := p.scope.collect p.root row s.cursor
  { s with crumbs, cursor }

/-- The state with a line taken in, unless the line alone fills the budget. -/
def State.take (p : Plan) (s : State) (l : Line) : State :=
  if Quantity.below l.tokens p.budget then
    { s with kept := s.kept ++ [l], used := s.used + l.tokens + 1 }
  else s

/-- One line: the state after it, and the piece that was closed before it. -/
def step (p : Plan) (s : State) (l : Line) : Except Failure (State × Option Piece) :=
  match p.count (Scope.breadcrumb s.crumbs) with
  | .error f => .error f
  | .ok crumbTokens =>
    if Quantity.exceeds (s.used + l.tokens + crumbTokens) p.limit then
      if s.kept.isEmpty then .ok (((s.collect p l.row).take p l), none)
      else .ok ((((s.reopen l.row).collect p l.row).take p l), some (s.close l.row))
    else .ok (s.take p l, none)

/-- The last piece, unless all its lines are blank. -/
def finish (s : State) (lineCount : Nat) : Option Piece :=
  if s.kept.all (allBlank ·.text) then none else some (s.close lineCount)

/-! ## §2. A complete run. -/

/-- What a run gave: the pieces closed, and what ended it early. -/
structure Run where
  pieces : List Piece
  failure : Option Failure
  deriving Repr, Inhabited

/-- A run with one more piece in front. -/
def Run.push (piece : Piece) (r : Run) : Run := { r with pieces := piece :: r.pieces }

/-- Packs the lines that are left; the file has `lineCount` of them in all. -/
def packFrom (p : Plan) (lineCount : Nat) : State → List Line → Run
  | s, [] => ⟨(finish s lineCount).toList, none⟩
  | s, l :: ls =>
    match step p s l with
    | .error f => ⟨[], some f⟩
    | .ok (s, none) => packFrom p lineCount s ls
    | .ok (s, some piece) => (packFrom p lineCount s ls).push piece

/-- Packs the lines of a file. -/
def pack (p : Plan) (ls : List Line) : Run := packFrom p ls.length {} ls

/-! ## §3. A file. -/

/-- The tree of a file, none for a file that has no grammar, or a failure. -/
abbrev Parser := Path → String → Except Failure (Option Node)

/-- What a file is packed with. -/
structure Chunker where
  parse : Parser
  count : Tokenizer

/-- A file to be packed. -/
structure Job where
  path : Path
  contents : String
  budget : Quantity
  deriving DecidableEq, Repr, Inhabited

/-- A run over a file: the chunks, what ended it early, the records, and how far it got. -/
structure Report where
  pieces : List Piece := []
  failure : Option Failure := none
  logs : List Log.Record := []
  /-- The file was parsed, or parsing it failed. -/
  parsed : Bool := false
  /-- Texts were counted. -/
  counted : Bool := false
  deriving Repr, Inhabited

/-- The chunks of a report. -/
def Report.chunks (r : Report) : List Chunk := r.pieces.map Piece.chunk

/-- The record that a file has no grammar. -/
def noGrammar (path : Path) : Log.Record :=
  ⟨.warning, .packing, "Failed to load parser for file " ++ path.text⟩

/-- The plan for a file whose tree is known. -/
def Chunker.plan (c : Chunker) (j : Job) (root : Node) : Plan where
  count := c.count
  budget := j.budget
  root
  scope := ⟨Utf8.encodeString j.contents, Language.markerForPath j.path⟩

/-- Packs a file from beginning to end. -/
def Chunker.run (c : Chunker) (j : Job) : Report :=
  if allBlank j.contents then {}
  else
    match c.parse j.path j.contents with
    | .error f => { failure := some f, parsed := true }
    | .ok none => { logs := [noGrammar j.path], parsed := true }
    | .ok (some root) =>
      match countLines c.count (lines j.contents) with
      | .error f => { failure := some f, parsed := true, counted := true }
      | .ok ls =>
        let r := pack (c.plan j root) ls
        { pieces := r.pieces, failure := r.failure, parsed := true, counted := true }

/-- The check of a budget, made before anything else. -/
def checkBudget (budget : Quantity) : Except Failure Unit :=
  if budget.notPositive then .error (.invalidBudget budget.text) else .ok ()

/-- Packs a file if the budget admits it. -/
def Chunker.chunkFile (c : Chunker) (j : Job) : Except Failure Report := do
  checkBudget j.budget
  return c.run j

/-- The check of a number of workers. -/
def checkWorkers (workers : Quantity) : Except Failure Unit :=
  if workers.notPositive then .error (.badValue "token_workers must be positive") else .ok ()

end Breadcrumb.Packing
