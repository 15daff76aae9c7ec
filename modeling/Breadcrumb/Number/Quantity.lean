/-
  Breadcrumb.Number.Quantity
  ──────────────────────────
  **AMOUNTS AS SETTINGS GIVE THEM.**

  A budget or a number of workers may be given as an integer, as a truth value
  (one or zero) or as a double precision number.  All that the library asks of an
  amount is how it lies to an integer (`compareInt`), what is left when a margin is
  taken off it (`less`), and how it reads in a message or a file.

  For integers these are the operations of `Int` (`exceeds_whole`, `below_whole`,
  `less_whole`, `notPositive_whole`).
-/
import Breadcrumb.Number.Binary64
import Breadcrumb.Text.Decimal

namespace Breadcrumb.Number

open Breadcrumb.Text

/-! ## §1. Texts of double precision numbers. -/

/-- How a double precision number is written: the fewest digits that read back, positional for
decimal exponents from -4 to 15, and with a fraction of at least one digit. -/
def Binary64.text : Binary64 → String
  | .nan => "nan"
  | .infinite negative => if negative then "-inf" else "inf"
  | .finite negative m e =>
    let body := if m = 0 then ['0', '.', '0'] else
      let (d, p) := Binary64.shortest m e
      let trimmed := trimZeros (Decimal.digits d) p
      layOut trimmed.1 trimmed.2
    String.ofList (if negative then '-' :: body else body)
where
  /-- Trailing zeros move into the exponent. -/
  trimZeros (ds : List Char) (p : Int) : List Char × Int :=
    let zeros := (ds.reverse.takeWhile (· = '0')).length
    (ds.take (ds.length - zeros), p + zeros)
  /-- The digits `ds` times `10 ^ p`. -/
  layOut (ds : List Char) (p : Int) : List Char :=
    let point : Int := ds.length + p
    if point ≤ -4 || 16 < point then
      let mantissa := match ds with
        | [] => []
        | [d] => [d]
        | d :: rest => d :: '.' :: rest
      mantissa ++ 'e' :: exponent (point - 1)
    else if point ≤ 0 then '0' :: '.' :: (List.replicate (-point).toNat '0' ++ ds)
    else if 0 ≤ p then ds ++ (List.replicate p.toNat '0' ++ ['.', '0'])
    else ds.take point.toNat ++ '.' :: ds.drop point.toNat
  /-- A sign and at least two digits. -/
  exponent (x : Int) : List Char :=
    let ds := Decimal.digits x.natAbs
    let padded := if ds.length < 2 then '0' :: ds else ds
    (if x < 0 then '-' else '+') :: padded

/-! ## §2. Amounts. -/

/-- An amount as settings give it. -/
inductive Quantity where
  /-- An integer. -/
  | whole (n : Int)
  /-- A truth value, which counts as one or zero. -/
  | flag (b : Bool)
  /-- A double precision number. -/
  | real (x : Binary64)
  deriving DecidableEq, Repr, Inhabited

namespace Quantity

/-- How the amount lies to an integer; nothing for a NaN. -/
def compareInt : Quantity → Int → Option Ordering
  | .whole m, n => some (compare m n)
  | .flag b, n => some (compare (if b then 1 else 0) n)
  | .real x, n => x.compareInt n

/-- The integer is more than the amount. -/
def exceeds (n : Int) (q : Quantity) : Bool := q.compareInt n == some .lt

/-- The integer is less than the amount. -/
def below (n : Int) (q : Quantity) : Bool := q.compareInt n == some .gt

/-- The amount is zero or less.  A NaN is not. -/
def notPositive (q : Quantity) : Bool :=
  q.compareInt 0 == some .lt || q.compareInt 0 == some .eq

/-- The amount with a margin taken off. -/
def less : Quantity → Nat → Quantity
  | .whole n, k => .whole (n - k)
  | .flag b, k => .whole ((if b then 1 else 0) - k)
  | .real x, k => .real (x.less k)

/-- How the amount reads in a message.  An integer is written out whatever its length; a conversion
would refuse one of more than `Decimal.digitLimit` digits, and with words of its own for a budget
that is refused in any case. -/
def text : Quantity → String
  | .whole n => Decimal.intText n
  | .flag b => if b then "True" else "False"
  | .real x => x.text

/-! ## §3. On integers. -/

theorem exceeds_whole (n m : Int) : exceeds n (.whole m) = decide (m < n) := by
  simp only [exceeds, compareInt]
  rcases Int.lt_trichotomy m n with h | h | h
  · simp [h, compare, compareOfLessAndEq]
  · simp [h, compare, compareOfLessAndEq]
  · have h₁ : ¬ m < n := by omega
    have h₂ : m ≠ n := by omega
    simp [h₁, h₂, compare, compareOfLessAndEq]

theorem below_whole (n m : Int) : below n (.whole m) = decide (n < m) := by
  simp only [below, compareInt]
  rcases Int.lt_trichotomy m n with h | h | h
  · have h₁ : ¬ n < m := by omega
    simp [h, h₁, compare, compareOfLessAndEq]
  · simp [h, compare, compareOfLessAndEq]
  · have h₁ : ¬ m < n := by omega
    have h₂ : m ≠ n := by omega
    simp [h, h₁, h₂, compare, compareOfLessAndEq]

theorem notPositive_whole (m : Int) : notPositive (.whole m) = decide (m ≤ 0) := by
  simp only [notPositive, compareInt]
  rcases Int.lt_trichotomy m 0 with h | h | h
  · have h₁ : m ≤ 0 := by omega
    simp [h, h₁, compare, compareOfLessAndEq]
  · simp [h, compare, compareOfLessAndEq]
  · have h₁ : ¬ m < 0 := by omega
    have h₂ : m ≠ 0 := by omega
    have h₃ : ¬ m ≤ 0 := by omega
    simp [h₁, h₂, h₃, compare, compareOfLessAndEq]

theorem less_whole (n : Int) (k : Nat) : less (.whole n) k = .whole (n - k) := rfl

end Quantity

end Breadcrumb.Number
