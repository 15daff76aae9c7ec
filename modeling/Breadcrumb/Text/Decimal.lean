/-
  Breadcrumb.Text.Decimal
  ───────────────────────
  **WHOLE NUMBERS IN DECIMAL DIGITS.**

  `digits` writes a natural number, `value` reads digits back, and
  `value_digits` says that nothing is lost.  An integer is written with a minus
  sign in front (`ofInt`).

  `readInt?` reads what a person may type for an integer: white space around it, a
  sign, and decimal digits of any script with single underscores between them.
  Texts of more than `digitLimit` digits are refused in both directions, so that
  the cost of a conversion stays bounded; `Short` are the integers that can be written.
-/
import Breadcrumb.Text.Blank

namespace Breadcrumb.Text.Decimal

/-! ## §1. Writing and reading natural numbers. -/

/-- The digit of a number below ten. -/
def digitChar (d : Nat) : Char := Char.ofNat (0x30 + d)

/-- The number of an ASCII digit. -/
def digitValue (c : Char) : Nat := c.toNat - 0x30

/-- An ASCII digit. -/
def isDigit (c : Char) : Bool := 0x30 ≤ c.toNat && c.toNat ≤ 0x39

/-- The decimal digits of a number, the leading one first and no zero in front. -/
def digits (n : Nat) : List Char :=
  if n < 10 then [digitChar n] else digits (n / 10) ++ [digitChar (n % 10)]
termination_by n
decreasing_by omega

/-- The number that digits write. -/
def value (cs : List Char) : Nat := cs.foldl (fun n c => n * 10 + digitValue c) 0

theorem digitValue_digitChar {d : Nat} (h : d < 10) : digitValue (digitChar d) = d := by
  match d, h with
  | 0, _ | 1, _ | 2, _ | 3, _ | 4, _ | 5, _ | 6, _ | 7, _ | 8, _ | 9, _ => rfl
  | d + 10, h => omega

theorem value_append_one (cs : List Char) (c : Char) :
    value (cs ++ [c]) = value cs * 10 + digitValue c := by
  simp [value, List.foldl_append]

/-- Reading gives back the number written. -/
theorem value_digits (n : Nat) : value (digits n) = n := by
  induction n using Nat.strongRecOn with
  | _ n ih =>
    rw [digits]
    split
    · rename_i h
      simp [value, digitValue_digitChar h]
    · rw [value_append_one, ih (n / 10) (by omega), digitValue_digitChar (by omega)]
      omega

theorem isDigit_digitChar {d : Nat} (h : d < 10) : isDigit (digitChar d) = true := by
  match d, h with
  | 0, _ | 1, _ | 2, _ | 3, _ | 4, _ | 5, _ | 6, _ | 7, _ | 8, _ | 9, _ => rfl
  | d + 10, h => omega

theorem isDigit_of_mem_digits {n : Nat} {c : Char} (h : c ∈ digits n) : isDigit c = true := by
  induction n using Nat.strongRecOn with
  | _ n ih =>
    rw [digits] at h
    split at h
    · rename_i hlow
      rw [List.mem_singleton.mp h]
      exact isDigit_digitChar hlow
    · rcases List.mem_append.mp h with hc | hc
      · exact ih (n / 10) (by omega) hc
      · rw [List.mem_singleton.mp hc]
        exact isDigit_digitChar (by omega)

/-- A positive number is not written with a zero in front. -/
theorem digits_eq_cons {n : Nat} (h : 0 < n) : ∃ d ds, digits n = d :: ds ∧ d ≠ '0' := by
  induction n using Nat.strongRecOn with
  | _ n ih =>
    rw [digits]
    split
    · rename_i hlow
      refine ⟨digitChar n, [], rfl, ?_⟩
      intro hzero
      have hvalue := digitValue_digitChar hlow
      rw [hzero] at hvalue
      exact absurd hvalue.symm (Nat.ne_of_gt h)
    · obtain ⟨d, ds, hds, hd⟩ := ih (n / 10) (by omega) (by omega)
      exact ⟨d, ds ++ [digitChar (n % 10)], by rw [hds, List.cons_append], hd⟩

/-- The decimal text of an integer. -/
def ofInt : Int → List Char
  | .ofNat n => digits n
  | .negSucc n => '-' :: digits (n + 1)

/-- `digits` as a string. -/
def text (n : Nat) : String := String.ofList (digits n)

/-- `ofInt` as a string. -/
def intText (n : Int) : String := String.ofList (ofInt n)

/-- The most digits that a conversion to or from text admits. -/
def digitLimit : Nat := 4300

/-- An integer that a conversion to text admits. -/
def Short (n : Int) : Prop := (digits n.natAbs).length ≤ digitLimit

instance (n : Int) : Decidable (Short n) := inferInstanceAs (Decidable (_ ≤ _))

/-- The words for an integer that it does not admit. -/
def tooLong : String :=
  s!"Exceeds the limit ({digitLimit} digits) for integer string conversion; " ++
    "use sys.set_int_max_str_digits() to increase the limit"

/-! ## §2. Digits of every script. -/

/-- The zeros of the decimal digit sequences of Unicode, which are ten code points long each. -/
def zeros : List Nat :=
  [0x30, 0x660, 0x6F0, 0x7C0, 0x966, 0x9E6, 0xA66, 0xAE6, 0xB66, 0xBE6, 0xC66, 0xCE6, 0xD66,
    0xDE6, 0xE50, 0xED0, 0xF20, 0x1040, 0x1090, 0x17E0, 0x1810, 0x1946, 0x19D0, 0x1A80, 0x1A90,
    0x1B50, 0x1BB0, 0x1C40, 0x1C50, 0xA620, 0xA8D0, 0xA900, 0xA9D0, 0xA9F0, 0xAA50, 0xABF0,
    0xFF10, 0x104A0, 0x10D30, 0x11066, 0x110F0, 0x11136, 0x111D0, 0x112F0, 0x11450, 0x114D0,
    0x11650, 0x116C0, 0x11730, 0x118E0, 0x11950, 0x11C50, 0x11D50, 0x11DA0, 0x16A60, 0x16AC0,
    0x16B50, 0x1D7CE, 0x1D7D8, 0x1D7E2, 0x1D7EC, 0x1D7F6, 0x1E140, 0x1E2F0, 0x1E950, 0x1FBF0]

/-- The number of a decimal digit of any script. -/
def digit? (c : Char) : Option Nat :=
  (zeros.find? fun z => z ≤ c.toNat && c.toNat < z + 10).map (c.toNat - ·)

theorem digit?_digitChar {d : Nat} (h : d < 10) : digit? (digitChar d) = some d := by
  match d, h with
  | 0, _ | 1, _ | 2, _ | 3, _ | 4, _ | 5, _ | 6, _ | 7, _ | 8, _ | 9, _ => rfl
  | d + 10, h => omega

/-! ## §3. Reading integers as typed. -/

/-- Digits with single underscores between them, as the numbers of the digits. -/
def digitRun? : List Char → Option (List Nat)
  | [] => none
  | [c] => (digit? c).map ([·])
  | c :: '_' :: rest =>
    match digit? c, digitRun? rest with
    | some d, some ds => some (d :: ds)
    | _, _ => none
  | c :: rest =>
    match digit? c, digitRun? rest with
    | some d, some ds => some (d :: ds)
    | _, _ => none

/-- The text without the white space around it.  The information separators are blank elsewhere, but
they are no space that may stand beside a number. -/
def withoutSpace (cs : List Char) : List Char :=
  let isSpace (c : Char) : Bool := isBlank c && !(0x1C ≤ c.toNat && c.toNat ≤ 0x1F)
  ((cs.dropWhile isSpace).reverse.dropWhile isSpace).reverse

/-- An integer as typed: white space around it, a sign, digits with single underscores between
them. -/
def readInt? (s : String) : Option Int :=
  match withoutSpace s.toList with
  | '-' :: rest => (natural? rest).map fun n => -(n : Int)
  | '+' :: rest => (natural? rest).map fun n => (n : Int)
  | rest => (natural? rest).map fun n => (n : Int)
where
  natural? (cs : List Char) : Option Nat :=
    match digitRun? cs with
    | some ds => if ds.length ≤ digitLimit then some (ds.foldl (fun n d => n * 10 + d) 0) else none
    | none => none

end Breadcrumb.Text.Decimal
