/-
  Breadcrumb.Proofs.Text.Newlines
  ───────────────────────────────
  **A TEXT THAT IS READ HAS THE NEWLINES OF ITS OCTETS.**

  Reading with replacement makes something of any octets, and it may cut them
  where no character ends.  It never loses a newline by that and never makes one:
  the octet of a newline is no part of a longer character, so that it is read by
  itself wherever it stands (`newlines_broken`), and no longer character comes to
  a newline, because the ranges of the table leave out what one octet is enough
  for (`Begun.Long`).  So the rows of a text can be counted in its octets
  (`count_newline_decode`).
-/
import Breadcrumb.Proofs.Text.Utf8

namespace Breadcrumb.Text.Utf8

/-! ## §1. Longer characters. -/

/-- The least number that octets begun can still come to. -/
def Begun.least (b : Begun) : Nat := (b.bits * 0x40 + (b.low - 0x80)) * 0x40 ^ (b.owed - 1)

/-- The octets begun come to no character that one octet is enough for. -/
structure Begun.Long (b : Begun) : Prop where
  low_le : 0x80 ≤ b.low
  least_le : 0x80 ≤ b.least

theorem eq_of_lead_single {o : Octet} {c : Char} (h : lead o = .single c) :
    c = Char.ofNat o.toNat := by
  unfold lead at h
  dsimp only at h
  split_ifs at h
  exact (Lead.single.inj h).symm

theorem le_of_lead_invalid {o : Octet} (h : lead o = .invalid) : 0x80 ≤ o.toNat := by
  unfold lead at h
  dsimp only at h
  split_ifs at h <;> omega

/-- No octet that begins a longer character is a character itself. -/
theorem le_of_lead_multi {o : Octet} {b : Begun} (h : lead o = .multi b) : 0x80 ≤ o.toNat := by
  unfold lead at h
  dsimp only at h
  split_ifs at h <;> omega

/-- The ranges of the table leave out what fewer octets are enough for. -/
theorem long_of_lead {o : Octet} {b : Begun} (h : lead o = .multi b) : b.Long := by
  unfold lead at h
  dsimp only at h
  split_ifs at h
  all_goals
    obtain rfl := Lead.multi.inj h
    constructor
    · dsimp only
      omega
    · unfold Begun.least
      dsimp only
      omega

/-- One more octet leaves the least number where it was, or moves it up. -/
theorem Begun.Long.more {b : Begun} (h : b.Long) {o : Octet} (howed : 1 < b.owed)
    (hlow : b.low ≤ o.toNat) :
    Begun.Long
      ⟨b.first, b.width + 1, b.owed - 1, 0x80, 0xBF, b.bits * 0x40 + (o.toNat - 0x80)⟩ where
  low_le := Nat.le_refl _
  least_le := by
    -- One octet less is owed, and its factor goes over to the bits.
    obtain ⟨k, hk⟩ : ∃ k, b.owed = k + 2 := ⟨b.owed - 2, by omega⟩
    have hleast : 0x80 ≤ (b.bits * 0x40 + (b.low - 0x80)) * 0x40 ^ (k + 1) := by
      have hleast := h.least_le
      unfold Begun.least at hleast
      rw [hk] at hleast
      exact hleast
    have hgrow : (b.bits * 0x40 + (b.low - 0x80)) * 0x40
        ≤ (b.bits * 0x40 + (o.toNat - 0x80)) * 0x40 + (0x80 - 0x80) := by
      omega
    rw [pow_succ', ← Nat.mul_assoc] at hleast
    unfold Begun.least
    rw [hk]
    exact hleast.trans (Nat.mul_le_mul_right (0x40 ^ k) hgrow)

theorem ofNat_ne_newline {n : Nat} (h : n ≠ 10) : Char.ofNat n ≠ '\n' := by
  unfold Char.ofNat
  split
  · intro heq
    exact h (congrArg Char.toNat heq)
  · decide

/-! ## §2. Newlines. -/

/-- How many newlines octets are read as, behind those of a character begun. -/
def newlines (begun : Option Begun) (os : List Octet) : Nat :=
  ((pieces.go begun os).map Piece.char).count '\n'

/-- Octets are read as so many newlines as there are newline octets among them. -/
def Counted (os : List Octet) : Prop :=
  ∀ begun : Option Begun, (∀ b ∈ begun, b.Long) → newlines begun os = os.count 10

theorem Counted.none {os : List Octet} (h : Counted os) : newlines none os = os.count 10 :=
  h Option.none fun _ hb => absurd hb (Option.not_mem_none _)

theorem Counted.some {os : List Octet} (h : Counted os) {b : Begun} (hb : b.Long) :
    newlines (some b) os = os.count 10 := by
  refine h (Option.some b) ?_
  intro b' hb'
  rw [← Option.mem_some_iff.mp hb']
  exact hb

theorem ne_newline_of_le {o : Octet} (h : 0x80 ≤ o.toNat) : o ≠ 10 := by
  intro heq
  rw [heq] at h
  exact absurd h (by decide)

/-- Between two characters, an octet is a newline, or it begins or is something else. -/
theorem newlines_fresh {os : List Octet} (h : Counted os) (o : Octet) :
    newlines none (o :: os) = (o :: os).count 10 := by
  cases hlead : lead o with
  | single c =>
    unfold newlines
    rw [pieces.go, hlead, eq_of_lead_single hlead]
    show (Char.ofNat o.toNat :: ((pieces.go none os).map Piece.char)).count '\n' = _
    by_cases ho : o = 10
    · rw [ho]
      show ('\n' :: _).count '\n' = _
      rw [List.count_cons_self, List.count_cons_self, ← h.none]
      rfl
    · have hn : o.toNat ≠ 10 := fun heq => ho (UInt8.toNat_inj.mp heq)
      rw [List.count_cons_of_ne (ofNat_ne_newline hn), List.count_cons_of_ne ho]
      exact h.none
  | multi b =>
    rw [List.count_cons_of_ne (ne_newline_of_le (le_of_lead_multi hlead))]
    unfold newlines
    rw [go_lead hlead]
    exact h.some (long_of_lead hlead)
  | invalid =>
    rw [List.count_cons_of_ne (ne_newline_of_le (le_of_lead_invalid hlead)), ← h.none]
    unfold newlines
    rw [pieces.go, hlead]
    exact List.count_cons_of_ne (show replacement ≠ '\n' by decide)

/-- Inside a character an octet that goes on with it is no newline, nor is the character. -/
theorem newlines_within {os : List Octet} (h : Counted os) {b : Begun} (hb : b.Long) {o : Octet}
    (hrange : b.low ≤ o.toNat ∧ o.toNat ≤ b.high) :
    newlines (some b) (o :: os) = (o :: os).count 10 := by
  rw [List.count_cons_of_ne (ne_newline_of_le (hb.low_le.trans hrange.1))]
  unfold newlines
  rw [pieces.go, if_pos hrange]
  dsimp only
  by_cases howed : b.owed ≤ 1
  · -- The character is whole, and no less than what the octets before could come to.
    rw [if_pos howed, ← h.none]
    refine List.count_cons_of_ne (ofNat_ne_newline ?_)
    have hleast := hb.least_le
    unfold Begun.least at hleast
    rw [show b.owed - 1 = 0 by omega, pow_zero] at hleast
    omega
  · rw [if_neg howed]
    exact h.some (hb.more (Nat.not_le.mp howed) hrange.1)

/-- An octet that does not go on with the character begun is read afresh behind it. -/
theorem newlines_broken {b : Begun} {o : Octet} (hrange : ¬(b.low ≤ o.toNat ∧ o.toNat ≤ b.high))
    (os : List Octet) : newlines (some b) (o :: os) = newlines none (o :: os) := by
  have hgo : pieces.go (some b) (o :: os)
      = .broken b.first b.width .invalidContinuation :: pieces.go none (o :: os) := by
    conv_lhs => rw [pieces.go, if_neg hrange]
    rw [pieces.go]
  unfold newlines
  rw [hgo]
  exact List.count_cons_of_ne (show replacement ≠ '\n' by decide)

theorem counted (os : List Octet) : Counted os := by
  induction os with
  | nil =>
    intro begun _
    cases begun with
    | none => rfl
    | some b => rfl
  | cons o os ih =>
    intro begun hlong
    cases begun with
    | none => exact newlines_fresh ih o
    | some b =>
      by_cases hrange : b.low ≤ o.toNat ∧ o.toNat ≤ b.high
      · exact newlines_within ih (hlong b rfl) hrange
      · rw [newlines_broken hrange]
        exact newlines_fresh ih o

/-- **The newlines of a text that is read are the newline octets**, however broken the rest is. -/
theorem count_newline_decode (os : List Octet) : (decode os).count '\n' = os.count 10 :=
  (counted os).none

end Breadcrumb.Text.Utf8
