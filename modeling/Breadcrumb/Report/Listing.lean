/-
  Breadcrumb.Report.Listing
  ─────────────────────────
  **THE REPORT TO BE READ.**

  Every chunk is printed under a line that says where it is from and how many
  tokens it has; the parts of that line may be set off by terminal styles.
  `withoutStyles` takes styles, and all else that only steers a terminal, out of a
  text again.
-/
import Breadcrumb.Report.Record

namespace Breadcrumb.Report

open Breadcrumb.Packing Breadcrumb.Text Breadcrumb.Tokens

/-! ## §1. Styles. -/

/-- The character that begins a style. -/
def escapeChar : Char := Char.ofNat 0x1B

/-- The mark of a style by its number. -/
def style (n : Nat) : String := String.ofList [escapeChar, '['] ++ Decimal.text n ++ "m"

/-- A text in magenta and bold. -/
def emphasised (s : String) : String := style 35 ++ style 1 ++ s ++ style 0

/-- A text dimmed. -/
def dimmed (s : String) : String := style 2 ++ s ++ style 0

/-- Whether a character may stand among the parameters of a style. -/
def isParameter (c : Char) : Bool := '0' ≤ c && c ≤ '?'

/-- Whether a character may stand between the parameters and the end of a style. -/
def isIntermediate (c : Char) : Bool := ' ' ≤ c && c ≤ '/'

/-- Whether a character may end a style. -/
def isFinal (c : Char) : Bool := '@' ≤ c && c ≤ '~'

/-- The rest after the style that a text begins with: an escape and a bracket, parameters,
intermediate characters and a final one, which is `m` where colours and weights are set. -/
def afterStyle? : List Char → Option (List Char)
  | e :: '[' :: rest =>
    if e = escapeChar then
      match (rest.dropWhile isParameter).dropWhile isIntermediate with
      | c :: rest => if isFinal c then some rest else none
      | [] => none
    else none
  | _ => none

theorem length_afterStyle {cs rest : List Char} (h : afterStyle? cs = some rest) :
    rest.length < cs.length := by
  unfold afterStyle? at h
  split at h
  · rename_i e inside
    split at h
    · split at h
      · rename_i c after found
        split at h
        · have outer := (List.dropWhile_suffix isIntermediate
            (l := inside.dropWhile isParameter)).length_le
          have inner := (List.dropWhile_suffix isParameter (l := inside)).length_le
          simp only [Option.some.injEq] at h
          simp only [found, h, List.length_cons] at outer ⊢
          omega
        · cases h
      · cases h
    · cases h
  · cases h

/-- A text without its styles. -/
def plain (cs : List Char) : List Char :=
  match _h : afterStyle? cs with
  | some rest => plain rest
  | none =>
    match cs with
    | [] => []
    | c :: rest => c :: plain rest
termination_by cs.length
decreasing_by
  · exact length_afterStyle (by assumption)
  · simp

/-- `plain` on a string. -/
def withoutStyles (s : String) : String := String.ofList (plain s.toList)

/-! ## §2. The listing. -/

/-- The line above a chunk of so many tokens.  Its numbers are written out whatever their length; a
conversion would refuse one of more than `Decimal.digitLimit` digits, but no file has so many lines
and no text so many tokens. -/
def heading (styled : Bool) (path : Path) (c : Chunk) (n : Int) : String :=
  let place :=
    path.text ++ ":" ++ Decimal.intText c.startLine ++ "-" ++ Decimal.intText c.endLine
  let tokens := "(" ++ Decimal.intText n ++ " tokens)"
  if styled then emphasised place ++ " " ++ dimmed tokens else place ++ " " ++ tokens

/-- The line above a chunk. -/
def header (count : Tokenizer) (styled : Bool) (path : Path) (c : Chunk) : Except Failure String :=
  (count c.content).map (heading styled path c)

/-- The lines above all chunks, or the first failure. -/
def headers (count : Tokenizer) (styled : Bool) (files : List FileChunks) :
    Except Failure (List String) :=
  files.foldr (fun f later => do
    let first ← f.chunks.mapM (header count styled f.path)
    return first ++ (← later)) (.ok [])

/-- The blocks of the listing: for every chunk the line above it and its text. -/
def blocks (count : Tokenizer) (styled : Bool) (files : List FileChunks) :
    Except Failure (List String) :=
  files.foldr (fun f later => do
    let first ← f.chunks.mapM fun c =>
      (header count styled f.path c).map fun h => h ++ "\n" ++ c.content
    return first ++ (← later)) (.ok [])

/-- The listing: blocks with a line end between each two of them. -/
def listing (count : Tokenizer) (styled : Bool) (files : List FileChunks) :
    Except Failure String :=
  (blocks count styled files).map (join "\n")

end Breadcrumb.Report
