/-
  Breadcrumb.Packing.Chunk
  ────────────────────────
  **LINES, PIECES AND CHUNKS.**

  A chunk is what a caller sees: a text and the lines it stands for.  A piece is
  what the packer makes: the declarations collected for it and the lines kept in
  it, each with its row and its tokens.  The chunk of a piece forgets all but the
  text.
-/
import Breadcrumb.Scope
import Breadcrumb.Tokens.Meter

namespace Breadcrumb.Packing

open Breadcrumb.Text Breadcrumb.Tokens

/-- A chunk: its text, and the first and last line it covers, counted from one. -/
structure Chunk where
  content : String
  startLine : Int
  endLine : Int
  deriving DecidableEq, Repr, Inhabited

/-- How many lines a chunk covers. -/
def Chunk.lineCount (c : Chunk) : Int := c.endLine - c.startLine + 1

/-- A line of a file without its newline, its row counted from zero, and its tokens. -/
structure Line where
  row : Nat
  text : String
  tokens : Int
  deriving DecidableEq, Repr, Inhabited

/-- A run of lines under a breadcrumb. -/
structure Piece where
  /-- The declarations of the breadcrumb, outermost first. -/
  crumbs : List Capture
  /-- The lines kept, in order. -/
  lines : List Line
  /-- The first line covered, counted from one; lines that were dropped are covered too. -/
  startLine : Nat
  /-- The last line covered, counted from one. -/
  endLine : Nat
  deriving Repr, Inhabited

/-- The text of lines, each ended. -/
def bodyText : List Line → String
  | [] => ""
  | l :: ls => l.text ++ "\n" ++ bodyText ls

/-- The chunk of a piece: the breadcrumb, and then the lines as they are. -/
def Piece.chunk (p : Piece) : Chunk :=
  ⟨Scope.breadcrumb p.crumbs ++ bodyText p.lines, p.startLine, p.endLine⟩

/-- Counts the lines of a file in order; the first failure in that order is the failure of all. -/
def countFrom (count : Tokenizer) : Nat → List String → Except Failure (List Line)
  | _, [] => .ok []
  | row, text :: texts =>
    match count text with
    | .error f => .error f
    | .ok tokens =>
      match countFrom count (row + 1) texts with
      | .error f => .error f
      | .ok ls => .ok (⟨row, text, tokens⟩ :: ls)

/-- Counts the lines of a file. -/
def countLines (count : Tokenizer) (texts : List String) : Except Failure (List Line) :=
  countFrom count 0 texts

end Breadcrumb.Packing
