/-
  Breadcrumb.Proofs.Text.Utf8
  ───────────────────────────
  **WHAT IS WRITTEN IN UTF-8 IS READ BACK.**

  A character of one to four octets is one cut of the scanner, whatever follows it
  (`go_encodeChar`): its first octet announces how many follow and the range of the
  next one, and that the next one lies in that range is what the bounds of each
  width are for.  So a text is cut into its characters, and none is broken
  (`pieces_encode`), and either reader gives back what was written.
-/
import Mathlib
import Breadcrumb.Text.Utf8

namespace Breadcrumb.Text.Utf8

/-! ## §1. One octet. -/

theorem toNat_continuation (n : Nat) : (continuation n).toNat = 0x80 + n % 0x40 := by
  unfold continuation
  exact UInt8.toNat_ofNat_of_lt (show 0x80 + n % 0x40 < 256 by omega)

/-- An octet in its range ends a character that one octet is owed to. -/
theorem go_last {b : Begun} {n : Nat} (howed : b.owed = 1) (hlow : b.low ≤ 0x80 + n % 0x40)
    (hhigh : 0x80 + n % 0x40 ≤ b.high) (os : List Octet) :
    pieces.go (some b) (continuation n :: os)
      = .whole (Char.ofNat (b.bits * 0x40 + n % 0x40)) (b.width + 1) :: pieces.go none os := by
  have hbits : 0x80 + n % 0x40 - 0x80 = n % 0x40 := by omega
  rw [pieces.go, toNat_continuation, if_pos ⟨hlow, hhigh⟩, if_pos (Nat.le_of_eq howed), hbits]

/-- It goes on with a character that more are owed to. -/
theorem go_more {b : Begun} {n : Nat} (howed : 1 < b.owed) (hlow : b.low ≤ 0x80 + n % 0x40)
    (hhigh : 0x80 + n % 0x40 ≤ b.high) (os : List Octet) :
    pieces.go (some b) (continuation n :: os)
      = pieces.go (some ⟨b.first, b.width + 1, b.owed - 1, 0x80, 0xBF, b.bits * 0x40 + n % 0x40⟩)
          os := by
  have hbits : 0x80 + n % 0x40 - 0x80 = n % 0x40 := by omega
  rw [pieces.go, toNat_continuation, if_pos ⟨hlow, hhigh⟩, if_neg (Nat.not_le.mpr howed), hbits]

theorem go_lead {o : Octet} {b : Begun} (h : lead o = .multi b) (os : List Octet) :
    pieces.go none (o :: os) = pieces.go (some b) os := by
  rw [pieces.go, h]

/-! ## §2. The first octet. -/

theorem lead_two {n : Nat} (hleast : 0x80 ≤ n) (hless : n < 0x800) :
    lead (UInt8.ofNat (0xC0 + n / 0x40))
      = .multi ⟨UInt8.ofNat (0xC0 + n / 0x40), 1, 1, 0x80, 0xBF, n / 0x40⟩ := by
  have hoctet : (UInt8.ofNat (0xC0 + n / 0x40)).toNat = 0xC0 + n / 0x40 :=
    UInt8.toNat_ofNat_of_lt (show 0xC0 + n / 0x40 < 256 by omega)
  have hbits : 0xC0 + n / 0x40 - 0xC0 = n / 0x40 := by omega
  unfold lead
  simp only [hoctet]
  rw [if_neg (by omega), if_neg (by omega), if_pos (by omega), hbits]

/-- The octet after the first of three shows that a character was not too small for them, and that
it is no surrogate. -/
theorem lead_three {n : Nat} (hleast : 0x800 ≤ n) (hless : n < 0x10000)
    (hhalf : ¬ (0xD800 ≤ n ∧ n < 0xE000)) :
    ∃ b : Begun, lead (UInt8.ofNat (0xE0 + n / 0x1000)) = .multi b ∧ b.width = 1 ∧ b.owed = 2
      ∧ b.bits = n / 0x1000 ∧ b.low ≤ 0x80 + n / 0x40 % 0x40 ∧ 0x80 + n / 0x40 % 0x40 ≤ b.high := by
  have hoctet : (UInt8.ofNat (0xE0 + n / 0x1000)).toNat = 0xE0 + n / 0x1000 :=
    UInt8.toNat_ofNat_of_lt (show 0xE0 + n / 0x1000 < 256 by omega)
  unfold lead
  simp only [hoctet]
  rw [if_neg (by omega), if_neg (by omega), if_neg (by omega)]
  split
  · exact ⟨_, rfl, rfl, rfl, by dsimp only; omega, by dsimp only; omega, by dsimp only; omega⟩
  · split
    · exact ⟨_, rfl, rfl, rfl, by dsimp only; omega, by dsimp only; omega, by dsimp only; omega⟩
    · rw [if_pos (by omega)]
      exact ⟨_, rfl, rfl, rfl, by dsimp only; omega, by dsimp only; omega, by dsimp only; omega⟩

/-- The octet after the first of four shows that a character was not too small for them, and that
it is none beyond the last. -/
theorem lead_four {n : Nat} (hleast : 0x10000 ≤ n) (hless : n < 0x110000) :
    ∃ b : Begun, lead (UInt8.ofNat (0xF0 + n / 0x40000)) = .multi b ∧ b.width = 1 ∧ b.owed = 3
      ∧ b.bits = n / 0x40000 ∧ b.low ≤ 0x80 + n / 0x1000 % 0x40
      ∧ 0x80 + n / 0x1000 % 0x40 ≤ b.high := by
  have hoctet : (UInt8.ofNat (0xF0 + n / 0x40000)).toNat = 0xF0 + n / 0x40000 :=
    UInt8.toNat_ofNat_of_lt (show 0xF0 + n / 0x40000 < 256 by omega)
  unfold lead
  simp only [hoctet]
  rw [if_neg (by omega), if_neg (by omega), if_neg (by omega), if_neg (by omega), if_neg (by omega),
    if_neg (by omega)]
  split
  · exact ⟨_, rfl, rfl, rfl, by dsimp only; omega, by dsimp only; omega, by dsimp only; omega⟩
  · split
    · exact ⟨_, rfl, rfl, rfl, by dsimp only; omega, by dsimp only; omega, by dsimp only; omega⟩
    · rw [if_pos (by omega)]
      exact ⟨_, rfl, rfl, rfl, by dsimp only; omega, by dsimp only; omega, by dsimp only; omega⟩

/-! ## §3. Characters. -/

/-- No character is a surrogate, and none is beyond the last. -/
theorem toNat_bounds (c : Char) : ¬ (0xD800 ≤ c.toNat ∧ c.toNat < 0xE000) ∧ c.toNat < 0x110000 := by
  have hvalid := c.valid
  simp only [UInt32.isValidChar, Nat.isValidChar] at hvalid
  have hn : c.toNat = c.val.toNat := rfl
  omega

/-- **The octets of a character are one cut**, whatever follows them. -/
theorem go_encodeChar (c : Char) (os : List Octet) :
    pieces.go none (encodeChar c ++ os)
      = .whole c (encodeChar c).length :: pieces.go none os := by
  obtain ⟨hhalf, hlast⟩ := toNat_bounds c
  unfold encodeChar
  generalize hn : c.toNat = n at hhalf hlast
  have hback : Char.ofNat n = c := hn ▸ Char.ofNat_toNat c
  simp only
  split
  · -- One octet is the character itself.
    rename_i h
    have hoctet : (UInt8.ofNat n).toNat = n := UInt8.toNat_ofNat_of_lt (show n < 256 by omega)
    have hlead : lead (UInt8.ofNat n) = .single c := by
      unfold lead
      simp only [hoctet]
      rw [if_pos h, hback]
    rw [List.singleton_append, pieces.go, hlead]
    rfl
  · split
    · have hbits : n / 0x40 * 0x40 + n % 0x40 = n := by omega
      rw [List.cons_append, List.cons_append, List.nil_append,
        go_lead (lead_two (by omega) (by omega)),
        go_last rfl (by dsimp only; omega) (by dsimp only; omega)]
      simp only [hbits, hback, List.length_cons, List.length_nil]
    · split
      · obtain ⟨b, hlead, hwidth, howed, hb, hlow, hhigh⟩ :=
          lead_three (n := n) (by omega) (by omega) hhalf
        have hbits : (n / 0x1000 * 0x40 + n / 0x40 % 0x40) * 0x40 + n % 0x40 = n := by omega
        rw [List.cons_append, List.cons_append, List.cons_append, List.nil_append, go_lead hlead,
          go_more (by omega) hlow hhigh,
          go_last (by dsimp only; omega) (by dsimp only; omega) (by dsimp only; omega)]
        simp only [hb, hwidth, hbits, hback, List.length_cons, List.length_nil]
      · obtain ⟨b, hlead, hwidth, howed, hb, hlow, hhigh⟩ :=
          lead_four (n := n) (by omega) hlast
        have hbits : ((n / 0x40000 * 0x40 + n / 0x1000 % 0x40) * 0x40 + n / 0x40 % 0x40) * 0x40
            + n % 0x40 = n := by omega
        rw [List.cons_append, List.cons_append, List.cons_append, List.cons_append, List.nil_append,
          go_lead hlead, go_more (by omega) hlow hhigh,
          go_more (by dsimp only; omega) (by dsimp only; omega) (by dsimp only; omega),
          go_last (by dsimp only; omega) (by dsimp only; omega) (by dsimp only; omega)]
        simp only [hb, hwidth, hbits, hback, List.length_cons, List.length_nil]

/-! ## §4. Texts. -/

/-- **A text is cut into its characters.** -/
theorem pieces_encode (cs : List Char) :
    pieces (encode cs) = cs.map fun c => .whole c (encodeChar c).length := by
  unfold pieces
  induction cs with
  | nil => rfl
  | cons c cs ih =>
    rw [encode, List.flatMap_cons, go_encodeChar, List.map_cons]
    exact congrArg _ ih

theorem encode_append (as bs : List Char) : encode (as ++ bs) = encode as ++ encode bs :=
  List.flatMap_append

/-- **Reading with replacement gives back the text written.** -/
theorem decode_encode (cs : List Char) : decode (encode cs) = cs := by
  unfold decode
  rw [pieces_encode, List.map_map]
  exact List.map_id cs

/-- Whole characters are read as they are. -/
theorem decodeStrict?_go_whole (width : Char → Nat) (cs : List Char) :
    ∀ start : Nat, decodeStrict?.go start (cs.map fun c => .whole c (width c)) = .ok cs := by
  induction cs with
  | nil => exact fun _ => rfl
  | cons c cs ih =>
    intro start
    rw [List.map_cons, decodeStrict?.go, ih]

/-- **Strict reading gives back the text written.** -/
theorem decodeStrict?_encode (cs : List Char) : decodeStrict? (encode cs) = .ok cs := by
  unfold decodeStrict?
  rw [pieces_encode]
  exact decodeStrict?_go_whole (fun c => (encodeChar c).length) cs 0

end Breadcrumb.Text.Utf8
