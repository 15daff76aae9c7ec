/-
  Breadcrumb.Outcome
  ──────────────────
  **WHAT BECOMES OF ONE FILE AMONG MANY.**

  A file is chunked, or skipped because no language owns its extension, or it
  fails.  A failure keeps none of the chunks made before it, so that a caller
  never takes a part of a file for the whole.  A file of blanks is chunked into
  nothing, whatever its extension.
-/
import Breadcrumb.Language.Grammar
import Breadcrumb.Packing.Packer

namespace Breadcrumb

open Breadcrumb.Number Breadcrumb.Packing Breadcrumb.Text

/-- What became of a file. -/
inductive Outcome where
  /-- All its chunks. -/
  | chunked (chunks : List Chunk)
  /-- It was passed over, and why. -/
  | skipped (message : String)
  /-- It failed, and why. -/
  | failed (message : String)
  deriving DecidableEq, Repr, Inhabited

namespace Outcome

/-- The chunks, none unless the file was chunked. -/
def chunks : Outcome → List Chunk
  | chunked cs => cs
  | _ => []

/-- The file was passed over. -/
def isSkipped : Outcome → Bool
  | skipped _ => true
  | _ => false

/-- The file did not fail. -/
def isSuccess : Outcome → Bool
  | failed _ => false
  | _ => true

/-- Why the file was passed over or failed. -/
def message? : Outcome → Option String
  | chunked _ => none
  | skipped message => some message
  | failed message => some message

end Outcome

/-- The chunks that a file gave one after the other, and what ended them early. -/
structure Stream where
  chunks : List Chunk
  failure : Option Failure := none
  logs : List Log.Record := []
  /-- Texts were counted for them. -/
  counted : Bool := false
  deriving Repr, Inhabited

/-- The stream of a complete run. -/
def Packing.Report.stream (r : Report) : Stream := ⟨r.chunks, r.failure, r.logs, r.counted⟩

/-- An outcome, the records that led to it, and whether texts were counted. -/
structure Settled where
  outcome : Outcome
  logs : List Log.Record := []
  counted : Bool := false
  deriving Repr, Inhabited

/-- The outcome of a stream for a file. -/
def Stream.settle (s : Stream) (path : Path) : Settled :=
  match s.failure with
  | some f =>
    let message := "Failed to chunk " ++ path.text ++ ": " ++ f.message
    ⟨.failed message, s.logs ++ [⟨.error, .outcome, message⟩], s.counted⟩
  | none =>
    let message :=
      "Chunked " ++ path.text ++ " into " ++ Decimal.text s.chunks.length ++ " chunks"
    ⟨.chunked s.chunks, s.logs ++ [⟨.debug, .outcome, message⟩], s.counted⟩

/-- The outcome of a file whose chunks come from `chunk`.  Only a budget that is refused is a
failure of the caller. -/
def attempt (chunk : Job → Stream) (j : Job) : Except Failure Settled :=
  match checkBudget j.budget with
  | .error f => .error f
  | .ok () =>
    if allBlank j.contents then .ok ⟨.chunked [], [], false⟩
    else if !Language.isSupported j.path then
      .ok ⟨.skipped ("No parser available for " ++ j.path.text), [], false⟩
    else .ok ((chunk j).settle j.path)

/-- The outcome of a file packed by a chunker. -/
def Packing.Chunker.attempt (c : Chunker) (j : Job) : Except Failure Settled :=
  Breadcrumb.attempt (fun j => (c.run j).stream) j

end Breadcrumb
