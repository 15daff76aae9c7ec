/-
  Breadcrumb.Text.Utf16
  ─────────────────────
  **CHARACTERS AS 16-BIT UNITS.**

  A character of the basic plane is one unit, and any other is a high half and a
  low half.  The halves are units that no character has, so reading units back
  never has a choice: `decode?_encode` says that nothing is lost.
-/
namespace Breadcrumb.Text.Utf16

/-- The units of a character. -/
def encodeChar (c : Char) : List Nat :=
  if c.toNat < 0x10000 then [c.toNat]
  else [0xD800 + (c.toNat - 0x10000) / 0x400, 0xDC00 + (c.toNat - 0x10000) % 0x400]

/-- The first half of a character. -/
def isHigh (u : Nat) : Bool := 0xD800 ≤ u && u < 0xDC00

/-- The second half of a character. -/
def isLow (u : Nat) : Bool := 0xDC00 ≤ u && u < 0xE000

/-- The character of two halves. -/
def ofHalves (high low : Nat) : Char :=
  Char.ofNat (0x10000 + (high - 0xD800) * 0x400 + (low - 0xDC00))

/-- The characters that units make; none if a half stands alone or a unit has more than 16 bits. -/
def decode? : List Nat → Option (List Char)
  | [] => some []
  | u :: rest =>
    if isHigh u then
      match rest with
      | v :: rest => if isLow v then (decode? rest).map (ofHalves u v :: ·) else none
      | [] => none
    else if isLow u || 0x10000 ≤ u then none
    else (decode? rest).map (Char.ofNat u :: ·)

/-- No character is a half. -/
theorem not_half (c : Char) : ¬ (0xD800 ≤ c.toNat ∧ c.toNat < 0xE000) := by
  have h := c.valid
  simp only [UInt32.isValidChar, Nat.isValidChar] at h
  have hn : c.toNat = c.val.toNat := rfl
  omega

/-- The units of a character are read as that character. -/
theorem decode?_encodeChar_append (c : Char) (us : List Nat) :
    decode? (encodeChar c ++ us) = (decode? us).map (c :: ·) := by
  have hhalf := not_half c
  unfold encodeChar
  split
  · rename_i h
    have h1 : isHigh c.toNat = false := by
      simp only [isHigh, Bool.and_eq_false_iff, decide_eq_false_iff_not]
      omega
    have h2 : (isLow c.toNat || decide (0x10000 ≤ c.toNat)) = false := by
      simp only [isLow, Bool.or_eq_false_iff, Bool.and_eq_false_iff, decide_eq_false_iff_not]
      omega
    rw [List.singleton_append, decode?.eq_def]
    simp [h1, h2]
  · rename_i h
    have hv := c.valid
    simp only [UInt32.isValidChar, Nat.isValidChar] at hv
    have hn : c.toNat = c.val.toNat := rfl
    have h1 : isHigh (0xD800 + (c.toNat - 0x10000) / 0x400) = true := by
      simp only [isHigh, Bool.and_eq_true, decide_eq_true_eq]
      omega
    have h2 : isLow (0xDC00 + (c.toNat - 0x10000) % 0x400) = true := by
      simp only [isLow, Bool.and_eq_true, decide_eq_true_eq]
      omega
    have h3 : ofHalves (0xD800 + (c.toNat - 0x10000) / 0x400)
        (0xDC00 + (c.toNat - 0x10000) % 0x400) = c := by
      unfold ofHalves
      rw [show 0x10000 + (0xD800 + (c.toNat - 0x10000) / 0x400 - 0xD800) * 0x400 +
          (0xDC00 + (c.toNat - 0x10000) % 0x400 - 0xDC00) = c.toNat by omega]
      exact Char.ofNat_toNat c
    simp [decode?, h1, h2, h3]

/-- Reading units gives back the characters written. -/
theorem decode?_encode (cs : List Char) : decode? (cs.flatMap encodeChar) = some cs := by
  induction cs with
  | nil => rfl
  | cons c cs ih => rw [List.flatMap_cons, decode?_encodeChar_append, ih]; rfl

end Breadcrumb.Text.Utf16
