/-
  Breadcrumb.Text.Blank
  ─────────────────────
  **BLANK CHARACTERS, TRIMMING AND WORDS.**

  One set of characters decides everywhere what is "blank": whether a file is
  empty enough to be left alone, whether a tail of lines is worth a chunk, where
  a rendered header ends and where a word ends.  The set is the Unicode property
  White_Space together with the four information separators U+001C to U+001F.

  Texts are lists of characters here; the functions on `String` at the end of
  the module are the ones the rest of the library calls.
-/
namespace Breadcrumb.Text

/-! ## §1. The set. -/

/-- Blank: White_Space, or one of the information separators U+001C to U+001F. -/
def isBlank (c : Char) : Bool :=
  let n := c.toNat
  (0x09 ≤ n && n ≤ 0x0D) || (0x1C ≤ n && n ≤ 0x20) || n == 0x85 || n == 0xA0
    || n == 0x1680 || (0x2000 ≤ n && n ≤ 0x200A) || n == 0x2028 || n == 0x2029
    || n == 0x202F || n == 0x205F || n == 0x3000

/-- A character of a class is none that the class leaves out. -/
theorem ne_of_class {p : Char → Bool} {c x : Char} (h : p c = true) (hx : p x = false) : c ≠ x := by
  intro heq
  rw [heq, hx] at h
  cases h

/-! ## §2. Trimming. -/

/-- The text without its leading blanks. -/
def trimStart (cs : List Char) : List Char := cs.dropWhile isBlank

/-- The text without its trailing blanks. -/
def trimEnd (cs : List Char) : List Char := (cs.reverse.dropWhile isBlank).reverse

/-- The text without its leading and trailing blanks. -/
def trimBoth (cs : List Char) : List Char := trimEnd (trimStart cs)

/-! ## §3. Words. -/

/-- How many maximal runs of characters that are not blank the text has. -/
def wordCount (cs : List Char) : Nat := go false cs
where
  /-- `inside` tells whether the character before was part of a word. -/
  go (inside : Bool) : List Char → Nat
    | [] => 0
    | c :: rest =>
      if isBlank c then go false rest
      else (if inside then 0 else 1) + go true rest

/-! ## §4. On strings. -/

/-- No character of the text is anything but blank. -/
def allBlank (s : String) : Bool := s.toList.all isBlank

/-- `trimBoth` on a string. -/
def trim (s : String) : String := String.ofList (trimBoth s.toList)

/-- `trimEnd` on a string. -/
def trimRight (s : String) : String := String.ofList (trimEnd s.toList)

/-- `wordCount` on a string. -/
def words (s : String) : Nat := wordCount s.toList

end Breadcrumb.Text
