/-
  Breadcrumb.Text.Hexadecimal
  ───────────────────────────
  **NUMBERS IN HEXADECIMAL DIGITS.**

  Escapes of all formats have hexadecimal digits of a fixed number.  They are
  written in small letters and read in letters of either case; `value?_digits`
  says that a number that fits its digits is read back.
-/
namespace Breadcrumb.Text.Hexadecimal

/-- The last `width` digits of a number. -/
def digits (width n : Nat) : List Char :=
  match width with
  | 0 => []
  | width + 1 => digits width (n / 16) ++ [Nat.digitChar (n % 16)]

/-- The number of a digit. -/
def digit? (c : Char) : Option Nat :=
  if '0' ≤ c && c ≤ '9' then some (c.toNat - 0x30)
  else if 'a' ≤ c && c ≤ 'f' then some (c.toNat - 0x57)
  else if 'A' ≤ c && c ≤ 'F' then some (c.toNat - 0x37)
  else none

/-- The number that is `n` followed by further digits. -/
def valueFrom? : Nat → List Char → Option Nat
  | n, [] => some n
  | n, c :: cs =>
    match digit? c with
    | some d => valueFrom? (n * 16 + d) cs
    | none => none

/-- The number that digits write; none if there is a character that is no digit. -/
def value? (cs : List Char) : Option Nat := valueFrom? 0 cs

theorem digit?_digitChar {d : Nat} (h : d < 16) : digit? (Nat.digitChar d) = some d := by
  match d, h with
  | 0, _ | 1, _ | 2, _ | 3, _ | 4, _ | 5, _ | 6, _ | 7, _ => rfl
  | 8, _ | 9, _ | 10, _ | 11, _ | 12, _ | 13, _ | 14, _ | 15, _ => rfl
  | d + 16, h => omega

theorem isSome_digit?_of_mem_digits {width n : Nat} {c : Char} (h : c ∈ digits width n) :
    (digit? c).isSome = true := by
  induction width generalizing n with
  | zero => cases h
  | succ width ih =>
    rcases List.mem_append.mp h with hc | hc
    · exact ih hc
    · have hdigit : digit? (Nat.digitChar (n % 16)) = some (n % 16) :=
        digit?_digitChar (Nat.mod_lt n (by omega))
      rw [List.mem_singleton.mp hc, hdigit]
      rfl

theorem valueFrom?_append (n : Nat) (cs ds : List Char) :
    valueFrom? n (cs ++ ds) = (valueFrom? n cs).bind fun m => valueFrom? m ds := by
  induction cs generalizing n with
  | nil => rfl
  | cons c cs ih =>
    simp only [List.cons_append, valueFrom?]
    split
    · rw [ih]
    · rfl

/-- A number that fits its digits is read back. -/
theorem value?_digits {width n : Nat} (h : n < Nat.pow 16 width) :
    value? (digits width n) = some n := by
  unfold value?
  induction width generalizing n with
  | zero =>
    have : n = 0 := by simpa using h
    rw [this]
    rfl
  | succ width ih =>
    have hdiv : n / 16 < Nat.pow 16 width := by
      have hpow : Nat.pow 16 (width + 1) = Nat.pow 16 width * 16 := rfl
      omega
    have hmod : n % 16 < 16 := by omega
    rw [digits, valueFrom?_append, ih hdiv]
    simp only [Option.bind_some, valueFrom?, digit?_digitChar hmod, Option.some.injEq]
    omega

end Breadcrumb.Text.Hexadecimal
