/-
  Breadcrumb.Settings.Basic
  ─────────────────────────
  **THE SETTINGS, AND HOW DATA IS LAID OVER THEM.**

  There are three settings in two sections.  Data of any shape may be laid over
  settings (`overlay`): a section that is no table and a key that is no setting
  are passed over, and every value that replaces one is checked.  The check of a
  number is that it is not zero or less, so a NaN passes; the check of the
  encoding is that it is a text that is not blank.

  A fault in any value leaves the settings as they were: there is no half-laid
  overlay.
-/
import Breadcrumb.Value
import Breadcrumb.Text.Blank

namespace Breadcrumb.Settings

open Breadcrumb.Number Breadcrumb.Text

/-! ## §1. Types. -/

/-- The section that bounds the work on one file. -/
structure Chunking where
  /-- The most tokens of a chunk. -/
  maxChunkSize : Quantity := .whole 512
  /-- How many lines may be counted at a time. -/
  tokenWorkers : Quantity := .whole 8
  deriving DecidableEq, Repr, Inhabited

/-- All settings. -/
structure Config where
  chunking : Chunking := {}
  /-- The name of the encoding that counts tokens. -/
  encoding : String := "cl100k_base"
  deriving DecidableEq, Repr, Inhabited

/-- The numbers among the settings. -/
inductive Field where
  | maxChunkSize
  | tokenWorkers
  deriving DecidableEq, Repr

/-- The key of a number. -/
def Field.key : Field → String
  | .maxChunkSize => "max_chunk_size"
  | .tokenWorkers => "token_workers"

/-- The key of the encoding. -/
def encodingKey : String := "encoding"

/-- The name of the section of the two numbers. -/
def chunkingSection : String := "chunking"

/-- The name of the section of the encoding. -/
def tokenizerSection : String := "tokenizer"

/-! ## §2. Checks. -/

/-- Why a value is refused. -/
inductive Invalid where
  /-- The number is zero or less. -/
  | notPositive (field : Field) (given : Quantity)
  /-- The value is of a kind that has no order. -/
  | notANumber (kind : String)
  /-- The encoding is no text, or a blank one. -/
  | blankEncoding
  deriving DecidableEq, Repr

/-- A refusal in words. -/
def Invalid.message : Invalid → String
  | .notPositive field given => field.key ++ " must be positive, got " ++ given.text
  | .notANumber kind => s!"'<=' not supported between instances of '{kind}' and 'int'"
  | .blankEncoding => "encoding must not be empty"

/-- The check of a number. -/
def checkAmount (field : Field) : Value → Except Invalid Quantity
  | .amount q => if q.notPositive then .error (.notPositive field q) else .ok q
  | v => .error (.notANumber v.kind)

/-- The check of the encoding. -/
def checkEncoding : Value → Except Invalid String
  | .text s => if allBlank s then .error .blankEncoding else .ok s
  | _ => .error .blankEncoding

/-! ## §3. Overlays. -/

/-- The number under a key of a section, or the one that it would replace. -/
def amountOr (field : Field) (old : Quantity) (section_ : Table) : Except Invalid Quantity :=
  match section_.get? field.key with
  | some v => checkAmount field v
  | none => .ok old

/-- The numbers with those of a table laid over them; the size is checked before the workers. -/
def Chunking.overlay (base : Chunking) (section_ : Table) : Except Invalid Chunking := do
  let maxChunkSize ← amountOr .maxChunkSize base.maxChunkSize section_
  let tokenWorkers ← amountOr .tokenWorkers base.tokenWorkers section_
  return { maxChunkSize, tokenWorkers }

/-- The encoding with that of a table laid over it. -/
def overlayEncoding (base : String) (section_ : Table) : Except Invalid String :=
  match section_.get? encodingKey with
  | some v => checkEncoding v
  | none => .ok base

/-- The table under a name; anything else counts as an empty section. -/
def section? (data : Table) (name : String) : Table :=
  match data.get? name with
  | some (.table entries) => entries
  | _ => []

/-- Settings with data laid over them, section by section. -/
def Config.overlay (base : Config) (data : Table) : Except Invalid Config := do
  let chunking ← base.chunking.overlay (section? data chunkingSection)
  let encoding ← overlayEncoding base.encoding (section? data tokenizerSection)
  return { chunking, encoding }

end Breadcrumb.Settings
