/-
  Breadcrumb.Settings.Text
  ────────────────────────
  **SETTINGS AS A TOML DOCUMENT.**

  `Config.write` writes settings so that reading the document and laying it over
  any settings gives them back.  `template` is the document a person starts from:
  it spells out the defaults, with a comment to each.
-/
import Breadcrumb.Settings.Basic
import Breadcrumb.Toml.Writer

namespace Breadcrumb.Settings

open Breadcrumb.Text Breadcrumb.Toml

/-- The document of settings; nothing if a number has too many digits to be written. -/
def Config.write (c : Config) : Option String := do
  let size ← writeQuantity c.chunking.maxChunkSize
  let workers ← writeQuantity c.chunking.tokenWorkers
  return writeHeader chunkingSection ++
    writeEntry Field.maxChunkSize.key size ++
    writeEntry Field.tokenWorkers.key workers ++ "\n" ++
    writeHeader tokenizerSection ++
    writeEntry encodingKey (writeString c.encoding)

/-- The words for settings that cannot be written. -/
def unwritable : String := Decimal.tooLong

/-- The document a person starts from. -/
def template : String :=
  "# scopechunk configuration\n" ++
  "# Created by: scopechunk config init\n" ++
  "\n" ++
  "[chunking]\n" ++
  "# Token budget for one chunk, breadcrumb included\n" ++
  "max_chunk_size = 512\n" ++
  "\n" ++
  "# Threads used to count line tokens before packing\n" ++
  "token_workers = 8\n" ++
  "\n" ++
  "[tokenizer]\n" ++
  "# tiktoken encoding used to count tokens\n" ++
  "# Options: cl100k_base, o200k_base, p50k_base\n" ++
  "encoding = \"cl100k_base\"\n"

end Breadcrumb.Settings
