/-
  Breadcrumb.Log
  ──────────────
  **WHAT HAPPENED, FOR THE RECORD.**

  Operations that have something to tell answer with a list of records, oldest
  first, beside their result.  A record names the part of the program it comes
  from; a threshold decides afterwards which records are kept.
-/
namespace Breadcrumb.Log

/-- How serious a record is. -/
inductive Level where
  | debug
  | warning
  | error
  deriving DecidableEq, Repr, Inhabited

/-- Levels in ascending order. -/
def Level.rank : Level → Nat
  | .debug => 10
  | .warning => 30
  | .error => 40

/-- The name of a level. -/
def Level.text : Level → String
  | .debug => "DEBUG"
  | .warning => "WARNING"
  | .error => "ERROR"

/-- The part of the program that tells. -/
inductive Channel where
  /-- The packing of one file. -/
  | packing
  /-- The outcome of one file. -/
  | outcome
  /-- The grammars in use. -/
  | languages
  /-- The encoding that counts tokens. -/
  | encoding
  /-- The files that settings come from. -/
  | settings
  deriving DecidableEq, Repr, Inhabited

/-- The name under which a part of the program tells. -/
def Channel.text : Channel → String
  | .packing => "scopechunk.core.chunking.code_chunker"
  | .outcome => "scopechunk.core.chunking.chunk_usecase"
  | .languages => "scopechunk.adapters.parsers.language_registry"
  | .encoding => "scopechunk.adapters.tokenizers.tiktoken_tokenizer"
  | .settings => "scopechunk.adapters.config.toml_config_provider"

/-- One record. -/
structure Record where
  level : Level
  channel : Channel
  message : String
  deriving DecidableEq, Repr, Inhabited

/-- How a record is laid out: when, how serious, from where, and what. -/
def layout (time level channel message : String) : String :=
  time ++ " [" ++ level ++ "] " ++ channel ++ ": " ++ message

/-- A record as a line without its end. -/
def Record.line (r : Record) (time : String) : String :=
  layout time r.level.text r.channel.text r.message

/-- The records at or above a level. -/
def keep (threshold : Level) (rs : List Record) : List Record :=
  rs.filter fun r => threshold.rank ≤ r.level.rank

/-- Nothing is dropped at the lowest level. -/
theorem keep_debug (rs : List Record) : keep .debug rs = rs := by
  rw [keep, List.filter_eq_self]
  intro r _
  obtain ⟨level, channel, message⟩ := r
  cases level <;> simp [Level.rank]

end Breadcrumb.Log
