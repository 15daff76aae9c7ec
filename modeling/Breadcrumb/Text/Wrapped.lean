/-
  Breadcrumb.Text.Wrapped
  ───────────────────────
  **FILLING LINES, AND CUTTING A SENTENCE SHORT.**

  A text is words with one blank between each two of them.  `lineUp` fills lines
  with it: every line takes what fits, and the next one starts where the last one
  ended.  A word may be broken after a hyphen that has two letters on each side.

  Nothing but blanks is lost (`solid_lineUp`), and a line is too long only if it
  is one part that is never broken (`fits_or_unbroken`).

  `shortened` keeps the first sentence of a text if it fits, and otherwise the
  words that leave room for three dots (`length_shortened_le`).
-/
import Breadcrumb.Text.Lines

namespace Breadcrumb.Text

/-! ## §1. Where a text may be broken. -/

/-- Whether the first two characters are letters. -/
def startsWithLetters : List Char → Bool
  | a :: b :: _ => a.isAlpha && b.isAlpha
  | _ => false

/-- The parts of a word, all but the last of them up to a hyphen with two letters on each side.
`before` is what has been read of the part, backwards. -/
def hyphenated (before : List Char) : List Char → List (List Char)
  | [] => [before.reverse]
  | c :: rest =>
    if c == '-' && startsWithLetters before && startsWithLetters rest then
      (c :: before).reverse :: hyphenated [] rest
    else hyphenated (c :: before) rest

/-- The parts make up the word. -/
theorem flatten_hyphenated (before word : List Char) :
    (hyphenated before word).flatten = before.reverse ++ word := by
  induction word generalizing before with
  | nil => simp [hyphenated]
  | cons c rest ih =>
    simp only [hyphenated]
    split <;> simp [ih]

/-- A part of a text that is never broken. -/
structure Fragment where
  chars : List Char
  /-- Whether a blank stands before it on a line; none does after a hyphen. -/
  spaced : Bool
  deriving DecidableEq, Repr

/-- The part with what stands before it on a line. -/
def Fragment.after (f : Fragment) : List Char := if f.spaced then ' ' :: f.chars else f.chars

/-- The parts of a text. -/
def fragments (cs : List Char) : List Fragment :=
  (splitOn ' ' cs).flatMap fun word =>
    match hyphenated [] word with
    | [] => []
    | first :: others => ⟨first, true⟩ :: others.map (⟨·, false⟩)

/-! ## §2. Lines. -/

/-- Lines of at most `width` characters, of which `line` is the first so far. -/
def lineUp (width : Nat) (line : List Char) : List Fragment → List (List Char)
  | [] => [line]
  | f :: rest =>
    if (line ++ f.after).length ≤ width then lineUp width (line ++ f.after) rest
    else line :: lineUp width f.chars rest

/-- A line fits, or is one part that is never broken. -/
theorem fits_or_unbroken {width : Nat} {line l : List Char} {fs : List Fragment}
    (h : l ∈ lineUp width line fs) : l.length ≤ width ∨ l = line ∨ ∃ f ∈ fs, l = f.chars := by
  induction fs generalizing line with
  | nil => exact Or.inr (Or.inl (by simpa [lineUp] using h))
  | cons f rest ih =>
    simp only [lineUp] at h
    split at h
    · rename_i fits
      rcases ih h with h | rfl | ⟨g, hg, rfl⟩
      · exact Or.inl h
      · exact Or.inl fits
      · exact Or.inr (Or.inr ⟨g, List.mem_cons_of_mem f hg, rfl⟩)
    · rcases List.mem_cons.1 h with rfl | h
      · exact Or.inr (Or.inl rfl)
      · rcases ih h with h | rfl | ⟨g, hg, rfl⟩
        · exact Or.inl h
        · exact Or.inr (Or.inr ⟨f, List.mem_cons_self, rfl⟩)
        · exact Or.inr (Or.inr ⟨g, List.mem_cons_of_mem f hg, rfl⟩)

/-- The characters that are not blanks. -/
def solid (cs : List Char) : List Char := cs.filter (· != ' ')

theorem solid_append (xs ys : List Char) : solid (xs ++ ys) = solid xs ++ solid ys := by
  simp [solid]

theorem solid_after (f : Fragment) : solid f.after = solid f.chars := by
  unfold Fragment.after
  split <;> simp [solid]

/-- Nothing but blanks is lost. -/
theorem solid_lineUp (width : Nat) (line : List Char) (fs : List Fragment) :
    solid (lineUp width line fs).flatten = solid line ++ solid (fs.flatMap Fragment.chars) := by
  induction fs generalizing line with
  | nil => simp [lineUp, solid]
  | cons f rest ih =>
    simp only [lineUp, List.flatMap_cons, solid_append]
    split
    · rw [ih, solid_append, solid_after, List.append_assoc]
    · rw [List.flatten_cons, solid_append, ih]

/-! ## §3. Cutting short. -/

/-- The words up to the first that ends with a period. -/
def firstSentence : List (List Char) → List (List Char)
  | [] => []
  | word :: others => if word.getLast? = some '.' then [word] else word :: firstSentence others

/-- The first words that take no more than `room` characters, a blank after each of them. -/
def fitting (room : Nat) : List (List Char) → List (List Char)
  | [] => []
  | word :: others =>
    if word.length < room then word :: fitting (room - (word.length + 1)) others else []

/-- How many characters words take with a blank after each of them. -/
def extent : List (List Char) → Nat
  | [] => 0
  | word :: others => word.length + 1 + extent others

theorem extent_fitting_le (room : Nat) (words : List (List Char)) :
    extent (fitting room words) ≤ room := by
  induction words generalizing room with
  | nil => simp [fitting, extent]
  | cons word others ih =>
    simp only [fitting]
    split
    · have := ih (room - (word.length + 1))
      simp only [extent] at this ⊢
      omega
    · simp [extent]

/-- Joined words have one blank less. -/
theorem length_joinWith_le (words : List (List Char)) :
    (joinWith ' ' words).length ≤ extent words - 1 := by
  induction words with
  | nil => simp [joinWith]
  | cons word others ih =>
    cases others with
    | nil => simp [joinWith, extent]
    | cons next more =>
      simp only [joinWith, extent, List.length_append, List.length_cons] at ih ⊢
      omega

/-- The first sentence if it has at most `limit` characters, and otherwise the words that leave
room for three dots. -/
def shortened (limit : Nat) (cs : List Char) : List Char :=
  let sentence := firstSentence (splitOn ' ' cs)
  if (joinWith ' ' sentence).length ≤ limit then joinWith ' ' sentence
  else joinWith ' ' (fitting (limit - 2) sentence) ++ ['.', '.', '.']

/-- What is kept is no longer than the limit. -/
theorem length_shortened_le {limit : Nat} (h : 3 ≤ limit) (cs : List Char) :
    (shortened limit cs).length ≤ limit := by
  simp only [shortened]
  split
  · assumption
  · have joined := length_joinWith_le (fitting (limit - 2) (firstSentence (splitOn ' ' cs)))
    have kept := extent_fitting_le (limit - 2) (firstSentence (splitOn ' ' cs))
    simp only [List.length_append, List.length_cons, List.length_nil]
    omega

/-! ## §4. On strings. -/

/-- The lines that a text fills, none longer than `width` if its parts are not. -/
def wrapped (width : Nat) (s : String) : List String :=
  match fragments s.toList with
  | [] => []
  | first :: others => (lineUp width first.chars others).map String.ofList

/-- The lines of a text that starts after `lead`, the others as far to the right as the first. -/
def hanging (width : Nat) (lead s : String) : List String :=
  match wrapped (width - lead.length) s with
  | [] => [lead]
  | first :: others => (lead ++ first) :: others.map (fill lead.length "" ++ ·)

/-- `shortened` on a string. -/
def summary (limit : Nat) (s : String) : String := String.ofList (shortened limit s.toList)

end Breadcrumb.Text
