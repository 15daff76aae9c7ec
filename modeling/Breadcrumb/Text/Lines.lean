/-
  Breadcrumb.Text.Lines
  ─────────────────────
  **CUTTING A TEXT INTO LINES.**

  A text of `k` newlines has `k + 1` lines: cutting at a separator and joining
  with it are inverse to each other (`joinWith_splitOn`).  The conventions of
  other systems for the end of a line are folded into the newline before a text
  is cut, by `foldLineEnds` (every carriage return) or by `foldPairs` (only a
  carriage return that a newline follows).
-/
namespace Breadcrumb.Text

/-! ## §1. Cutting and joining. -/

/-- The pieces between the occurrences of `sep`, one more than there are occurrences. -/
def splitOn (sep : Char) : List Char → List (List Char)
  | [] => [[]]
  | c :: rest =>
    if c = sep then [] :: splitOn sep rest
    else
      match splitOn sep rest with
      | [] => [[c]]
      | piece :: pieces => (c :: piece) :: pieces

/-- The pieces with `sep` between each two of them. -/
def joinWith (sep : Char) : List (List Char) → List Char
  | [] => []
  | [piece] => piece
  | piece :: next :: pieces => piece ++ sep :: joinWith sep (next :: pieces)

theorem splitOn_ne_nil (sep : Char) (cs : List Char) : splitOn sep cs ≠ [] := by
  cases cs with
  | nil => simp [splitOn]
  | cons c rest =>
    simp only [splitOn]
    split
    · simp
    · split <;> simp

/-- Nothing is lost by cutting. -/
theorem joinWith_splitOn (sep : Char) (cs : List Char) :
    joinWith sep (splitOn sep cs) = cs := by
  induction cs with
  | nil => rfl
  | cons c rest ih =>
    simp only [splitOn]
    split
    · rename_i h
      subst h
      cases hs : splitOn c rest with
      | nil => exact absurd hs (splitOn_ne_nil c rest)
      | cons piece pieces => simp [joinWith, ← hs, ih]
    · cases hs : splitOn sep rest with
      | nil => exact absurd hs (splitOn_ne_nil sep rest)
      | cons piece pieces =>
        rw [hs] at ih
        cases pieces with
        | nil => simpa [joinWith] using ih
        | cons next more => simpa [joinWith] using ih

/-! ## §2. Line ends. -/

/-- A carriage return, with the newline after it if there is one, becomes one newline. -/
def foldLineEnds : List Char → List Char
  | '\r' :: '\n' :: rest => '\n' :: foldLineEnds rest
  | '\r' :: rest => '\n' :: foldLineEnds rest
  | c :: rest => c :: foldLineEnds rest
  | [] => []

/-- A carriage return with a newline after it becomes that newline; others stay. -/
def foldPairs : List Char → List Char
  | '\r' :: '\n' :: rest => '\n' :: foldPairs rest
  | c :: rest => c :: foldPairs rest
  | [] => []

/-! ## §3. On strings. -/

/-- The lines of a text, without their newlines. -/
def lines (s : String) : List String := (splitOn '\n' s.toList).map String.ofList

/-- The parts with a separating text between each two of them. -/
def join (sep : String) : List String → String
  | [] => ""
  | [part] => part
  | part :: next :: parts => part ++ sep ++ join sep (next :: parts)

/-- A text filled up with blanks to a width. -/
def fill (width : Nat) (s : String) : String :=
  s ++ String.ofList (List.replicate (width - s.length) ' ')

end Breadcrumb.Text
