/-
  Breadcrumb.CommandLine.Screen
  ─────────────────────────────
  **WHAT THE OUTPUT IS SHOWN ON.**

  A screen says whether styles are wanted and how wide help may be.  Help is 80
  characters wide where nothing is known of a terminal; on a terminal it leaves two
  columns free and stays within 50 and 78 characters (`helpWidth_bounds`).
-/
import Breadcrumb.Settings.Location
import Breadcrumb.Text.Decimal

namespace Breadcrumb.CommandLine

open Breadcrumb.Settings Breadcrumb.Text

/-- What the output is shown on. -/
structure Screen where
  /-- Whether styles are wanted. -/
  styled : Bool := true
  /-- How many characters a line of help may have. -/
  width : Nat := 80
  deriving DecidableEq, Repr, Inhabited

/-- The variable that says how many columns a terminal has. -/
def columnsVariable : String := "COLUMNS"

/-- How many columns a terminal has, as far as the surroundings tell: 80 if they tell nothing, or
no positive number. -/
def terminalColumns (s : Surroundings) : Nat :=
  match Decimal.readInt? (s.get columnsVariable) with
  | some n => if 0 < n then n.toNat else 80
  | none => 80

/-- How wide help is on a terminal. -/
def helpWidth (s : Surroundings) : Nat := max (min (terminalColumns s) 80 - 2) 50

/-- Help on a terminal is never too narrow for its columns, and never fills 80 of them. -/
theorem helpWidth_bounds (s : Surroundings) : 50 ≤ helpWidth s ∧ helpWidth s ≤ 78 := by
  unfold helpWidth
  omega

end Breadcrumb.CommandLine
