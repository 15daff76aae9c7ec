/-
  Breadcrumb.Assembly
  ───────────────────
  **THE PARTS OF A CHUNKER.**

  A chunker needs a tokenizer and a registry of languages.  A caller may bring
  either, to use it for other work too; a part that is not brought is made from
  the settings.  There is one registry for both, finding out whether a file can
  be parsed and parsing it.
-/
import Breadcrumb.Language.Registry
import Breadcrumb.Packing.Packer
import Breadcrumb.Settings.Basic
import Breadcrumb.Tokens.Encoding

namespace Breadcrumb

open Breadcrumb.Language Breadcrumb.Number Breadcrumb.Settings Breadcrumb.Tokens

/-- A part, and whether the caller brought it. -/
inductive Part (α : Type) where
  | brought (part : α)
  | made (part : α)
  deriving DecidableEq, Repr

/-- The part itself. -/
def Part.get {α : Type} : Part α → α
  | brought part => part
  | made part => part

/-- The caller brought the part. -/
def Part.isBrought {α : Type} : Part α → Bool
  | brought _ => true
  | made _ => false

/-- The part that was brought, or else one that is made. -/
def Part.or {α : Type} (given : Option α) (new : α) : Part α :=
  match given with
  | some part => brought part
  | none => made new

/-- The parts of a chunker.  A tokenizer is known by its name here. -/
structure Assembly where
  tokenizer : Part String
  registry : Part Registry
  workers : Quantity
  deriving DecidableEq, Repr

/-- The tokenizer that settings ask for. -/
def tokenizerFor (c : Config) : Loader := { name := c.encoding }

/-- Puts a chunker together from settings and what the caller brings. -/
def assemble (c : Config) (tokenizer : Option String) (registry : Option Registry) : Assembly where
  tokenizer := Part.or tokenizer (tokenizerFor c).name
  registry := Part.or registry {}
  workers := c.chunking.tokenWorkers

/-- The chunker that parses files with a registry as it stands. -/
def chunkerOf (r : Registry) (parsing : Parsing) (count : Tokenizer) : Packing.Chunker where
  parse path contents := (r.parse parsing path contents).value
  count

theorem chunkerOf_parse (r : Registry) (parsing : Parsing) (count : Tokenizer) (path : Path)
    (contents : String) :
    (chunkerOf r parsing count).parse path contents = (r.parse parsing path contents).value := by
  simp only [chunkerOf]

end Breadcrumb
