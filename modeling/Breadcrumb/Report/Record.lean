/-
  Breadcrumb.Report.Record
  ────────────────────────
  **THE REPORT AS DATA.**

  A report has one record for every chunk, in the order of the files and of the
  chunks in them.  A record gives the tokens of the text as it is printed, so
  they are counted anew.  Records with a number of too many digits can be made, but
  have no text.
-/
import Breadcrumb.Json.Printer
import Breadcrumb.Packing.Chunk
import Breadcrumb.Path

namespace Breadcrumb.Report

open Breadcrumb.Packing Breadcrumb.Tokens

/-- The chunks of a file. -/
structure FileChunks where
  path : Path
  chunks : List Chunk
  deriving DecidableEq, Repr, Inhabited

/-- What a report says of a chunk. -/
structure Record where
  path : String
  startLine : Int
  endLine : Int
  tokens : Int
  content : String
  deriving DecidableEq, Repr, Inhabited

/-- The record of a chunk. -/
def record (count : Tokenizer) (path : Path) (c : Chunk) : Except Failure Record :=
  (count c.content).map fun tokens => ⟨path.text, c.startLine, c.endLine, tokens, c.content⟩

/-- The records of a file, or the first failure. -/
def fileRecords (count : Tokenizer) (path : Path) : List Chunk → Except Failure (List Record)
  | [] => .ok []
  | c :: cs => do
    let r ← record count path c
    let rs ← fileRecords count path cs
    return r :: rs

/-- The records of all files, or the first failure. -/
def records (count : Tokenizer) : List FileChunks → Except Failure (List Record)
  | [] => .ok []
  | f :: fs => do
    let first ← fileRecords count f.path f.chunks
    let later ← records count fs
    return first ++ later

/-- A record as JSON. -/
def Record.json (r : Record) : Json :=
  .object [("path", .text r.path), ("start_line", .number r.startLine),
    ("end_line", .number r.endLine), ("tokens", .number r.tokens), ("content", .text r.content)]

/-- The text of records; nothing if one has a number of too many digits. -/
def recordsText? (rs : List Record) : Option String := Json.pretty? (.list (rs.map Record.json))

/-- The report as JSON text. -/
def jsonText (count : Tokenizer) (files : List FileChunks) : Except Failure String := do
  let rs ← records count files
  match recordsText? rs with
  | some text => return text
  | none => throw (.badValue Text.Decimal.tooLong)

end Breadcrumb.Report
