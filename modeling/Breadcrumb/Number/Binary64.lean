/-
  Breadcrumb.Number.Binary64
  ──────────────────────────
  **DOUBLE PRECISION NUMBERS, EXACTLY.**

  A number of the format binary64 is a sign, a significand below 2^53 and an
  exponent of two that is at least -1074.  Every operation is exact arithmetic on
  naturals followed by one rounding to nearest, ties to even (`ofRatio`), so each
  result can be computed and reasoned about without floating point hardware.

  `compareInt` compares with an integer of any size without rounding either; a
  NaN compares with nothing.
-/
namespace Breadcrumb.Number

/-- A number of the format binary64. -/
inductive Binary64 where
  /-- Not a number. -/
  | nan
  /-- An infinity. -/
  | infinite (negative : Bool)
  /-- `significand * 2 ^ exponent`, negated if so marked. -/
  | finite (negative : Bool) (significand : Nat) (exponent : Int)
  deriving DecidableEq, Repr, Inhabited

namespace Binary64

/-! ## §1. Rounding. -/

/-- The exponent of the numbers next to zero. -/
def leastExponent : Int := -1074

/-- The largest exponent of a finite number. -/
def greatestExponent : Int := 971

/-- The integer nearest to `num / den`, an even one in a tie. -/
def roundDiv (num den : Nat) : Nat :=
  let q := num / den
  let r := num % den
  if 2 * r < den then q
  else if den < 2 * r then q + 1
  else if q % 2 = 0 then q else q + 1

/-- `2 ^ k`. -/
def pow2 (k : Nat) : Nat := Nat.pow 2 k

/-- `10 ^ k`. -/
def pow10 (k : Nat) : Nat := Nat.pow 10 k

/-- The number of bits of a natural: the least `k` with `n < 2 ^ k`. -/
def bits (n : Nat) : Nat := if n = 0 then 0 else Nat.log2 n + 1

/-- `num / den / 2 ^ e` as a fraction of naturals. -/
def scale (num den : Nat) (e : Int) : Nat × Nat :=
  match e with
  | .ofNat k => (num, den * pow2 k)
  | .negSucc k => (num * pow2 (k + 1), den)

/-- The exponent that gives the significand of `num / den` its 53 bits. -/
def exponentFor (num den : Nat) : Int :=
  let guess : Int := (bits num : Int) - bits den - 53
  let (n, d) := scale num den guess
  let exact := if n < d * pow2 53 then guess else guess + 1
  max exact leastExponent

/-- The number nearest to `num / den`, a tie going to the even significand. -/
def ofRatio (negative : Bool) (num den : Nat) : Binary64 :=
  if num = 0 || den = 0 then .finite negative 0 leastExponent
  else
    let e := exponentFor num den
    let (n, d) := scale num den e
    let m := roundDiv n d
    let (m, e) := if m = pow2 53 then (pow2 52, e + 1) else (m, e)
    if greatestExponent < e then .infinite negative else .finite negative m e

/-- `digits * 10 ^ exponent`.  Magnitudes far outside the format are settled without computing
the power. -/
def ofDecimal (negative : Bool) (digits : Nat) (digitCount : Nat) (exponent : Int) : Binary64 :=
  if digits = 0 then .finite negative 0 leastExponent
  else if 400 < exponent then .infinite negative
  else if exponent + digitCount < -400 then .finite negative 0 leastExponent
  else
    match exponent with
    | .ofNat k => ofRatio negative (digits * pow10 k) 1
    | .negSucc k => ofRatio negative digits (pow10 (k + 1))

/-! ## §2. Arithmetic and order. -/

/-- A finite number as an integer times a power of two. -/
def signed (negative : Bool) (significand : Nat) : Int :=
  if negative then -(significand : Int) else significand

/-- `n * 2 ^ e`, rounded. -/
def ofDyadic (n : Int) (e : Int) : Binary64 :=
  match e with
  | .ofNat k => ofRatio (n < 0) (n.natAbs * pow2 k) 1
  | .negSucc k => ofRatio (n < 0) n.natAbs (pow2 (k + 1))

/-- The number less a natural, rounded. -/
def less (x : Binary64) (k : Nat) : Binary64 :=
  match x with
  | .nan => .nan
  | .infinite negative => .infinite negative
  | .finite negative m (.ofNat e) => ofDyadic (signed negative m * pow2 e - k) 0
  | .finite negative m (.negSucc e) =>
    ofDyadic (signed negative m - k * pow2 (e + 1)) (.negSucc e)

/-- How the number lies to an integer: exactly, and not at all if it is no number. -/
def compareInt (x : Binary64) (n : Int) : Option Ordering :=
  match x with
  | .nan => none
  | .infinite negative => some (if negative then .lt else .gt)
  | .finite negative m (.ofNat e) => some (compare (signed negative m * pow2 e) n)
  | .finite negative m (.negSucc e) => some (compare (signed negative m) (n * pow2 (e + 1)))

/-! ## §3. The shortest text. -/

/-- `num / den` against a power of ten: whether it is at least `10 ^ k`. -/
def atLeastTen (num den : Nat) (k : Int) : Bool :=
  match k with
  | .ofNat k => den * pow10 k ≤ num
  | .negSucc k => den ≤ num * pow10 (k + 1)

/-- The greatest `k` with `10 ^ k ≤ num / den`, found from an estimate that is at most two off. -/
def decade (num den : Nat) : Int :=
  let estimate : Int := ((bits num : Int) - bits den) * 30103 / 100000
  if atLeastTen num den (estimate + 2) then estimate + 2
  else if atLeastTen num den (estimate + 1) then estimate + 1
  else if atLeastTen num den estimate then estimate
  else if atLeastTen num den (estimate - 1) then estimate - 1
  else estimate - 2

/-- The reals that round to a positive number, as a common denominator and three numerators: the
lower end, the number, the upper end; and whether the ends belong to them. -/
structure Basin where
  den : Nat
  low : Nat
  mid : Nat
  high : Nat
  closed : Bool

/-- The reals that round to `m * 2 ^ e`.  Below a power of two the neighbour is half as far away. -/
def basin (m : Nat) (e : Int) : Basin :=
  let lowGap := if m = pow2 52 && leastExponent < e then 1 else 2
  match e with
  | .ofNat k =>
    ⟨4, (4 * m - lowGap) * pow2 k, 4 * m * pow2 k, (4 * m + 2) * pow2 k, m % 2 = 0⟩
  | .negSucc k => ⟨4 * pow2 (k + 1), 4 * m - lowGap, 4 * m, 4 * m + 2, m % 2 = 0⟩

/-- Whether `d * 10 ^ p` lies in the basin. -/
def Basin.holds (b : Basin) (d : Nat) (p : Int) : Bool :=
  let (x, s) : Nat × Nat := match p with
    | .ofNat k => (d * pow10 k * b.den, 1)
    | .negSucc k => (d * b.den, pow10 (k + 1))
  if b.closed then b.low * s ≤ x && x ≤ b.high * s else b.low * s < x && x < b.high * s

/-- The digits of the grid of step `10 ^ p` for the basin: of the two neighbours of the number that
lie in it the nearer one, the even one in a tie. -/
def Basin.onGrid (b : Basin) (p : Int) : Option Nat :=
  let (x, s) : Nat × Nat := match p with
    | .ofNat k => (b.mid, b.den * pow10 k)
    | .negSucc k => (b.mid * pow10 (k + 1), b.den)
  let d := x / s
  match b.holds d p, b.holds (d + 1) p with
  | true, true => some (roundDiv x s)
  | true, false => some d
  | false, true => some (d + 1)
  | false, false => none

/-- The fewest digits that read back, `d * 10 ^ p`: the first of the grids with one to seventeen
digits that has a point in the basin. -/
def shortest (m : Nat) (e : Int) : Nat × Int :=
  let b := basin m e
  let top := decade b.mid b.den
  go b top 17 0
where
  go (b : Basin) (top : Int) : Nat → Nat → Nat × Int
    | 0, used => (b.mid / b.den, top - used)
    | tries + 1, used =>
      match b.onGrid (top - used) with
      | some d => (d, top - used)
      | none => go b top tries (used + 1)

end Binary64

end Breadcrumb.Number
