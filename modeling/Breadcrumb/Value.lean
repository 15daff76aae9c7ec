/-
  Breadcrumb.Value
  ────────────────
  **VALUES OF CONFIGURATION DATA.**

  What a configuration file can hold, before anything is known about which
  settings exist: numbers, truth values, texts, dates and times, lists and
  tables.  A table keeps its entries in the order in which they were written.
-/
import Breadcrumb.Number.Quantity

namespace Breadcrumb

open Breadcrumb.Number Breadcrumb.Text

/-! ## §1. Dates and times. -/

/-- A calendar date. -/
structure Date where
  year : Nat
  month : Nat
  day : Nat
  deriving DecidableEq, Repr, Inhabited

/-- A time of day, to the microsecond. -/
structure TimeOfDay where
  hour : Nat
  minute : Nat
  second : Nat
  micro : Nat
  deriving DecidableEq, Repr, Inhabited

/-- A point on the calendar, in the day, or both; the last with or without an offset in minutes. -/
inductive Moment where
  | date (d : Date)
  | time (t : TimeOfDay)
  | dateTime (d : Date) (t : TimeOfDay) (offset : Option Int)
  deriving DecidableEq, Repr, Inhabited

/-- Leap years of the Gregorian calendar. -/
def isLeap (year : Nat) : Bool :=
  year % 4 == 0 && (year % 100 != 0 || year % 400 == 0)

/-- The length of a month. -/
def daysIn (year month : Nat) : Nat :=
  match month with
  | 2 => if isLeap year then 29 else 28
  | 4 | 6 | 9 | 11 => 30
  | _ => 31

/-- A date that exists: years count from one. -/
def Date.valid (d : Date) : Bool :=
  1 ≤ d.year && 1 ≤ d.month && d.month ≤ 12 && 1 ≤ d.day && d.day ≤ daysIn d.year d.month

/-- A number padded with zeros. -/
def padded (width n : Nat) : String :=
  let ds := Decimal.digits n
  String.ofList (List.replicate (width - ds.length) '0' ++ ds)

/-- Year, month and day with dashes. -/
def Date.text (d : Date) : String :=
  padded 4 d.year ++ "-" ++ padded 2 d.month ++ "-" ++ padded 2 d.day

/-- Hour, minute and second with colons, and the microseconds if there are any. -/
def TimeOfDay.text (t : TimeOfDay) : String :=
  padded 2 t.hour ++ ":" ++ padded 2 t.minute ++ ":" ++ padded 2 t.second ++
    (if t.micro = 0 then "" else "." ++ padded 6 t.micro)

/-- An offset: its sign, hours and minutes. -/
def offsetText (minutes : Int) : String :=
  (if minutes < 0 then "-" else "+") ++ padded 2 (minutes.natAbs / 60) ++ ":" ++
    padded 2 (minutes.natAbs % 60)

/-- A moment in words. -/
def Moment.text : Moment → String
  | .date d => d.text
  | .time t => t.text
  | .dateTime d t offset =>
    d.text ++ " " ++ t.text ++ (match offset with | none => "" | some m => offsetText m)

/-! ## §2. Values. -/

/-- A value of configuration data. -/
inductive Value where
  /-- No value; no file can write it. -/
  | null
  /-- A number or a truth value. -/
  | amount (q : Quantity)
  /-- A text. -/
  | text (s : String)
  /-- A date, a time, or both. -/
  | moment (m : Moment)
  /-- A list. -/
  | list (items : List Value)
  /-- A table. -/
  | table (entries : List (String × Value))
  deriving Inhabited

/-- The entries of a table. -/
abbrev Table := List (String × Value)

namespace Table

/-- The value under a key. -/
def get? (key : String) : Table → Option Value
  | [] => none
  | (k, v) :: rest => if k = key then some v else get? key rest

/-- The table with the value under the key: in the key's place, or at the end for a new key. -/
def put (key : String) (v : Value) : Table → Table
  | [] => [(key, v)]
  | (k, old) :: rest => if k = key then (key, v) :: rest else (k, old) :: put key v rest

theorem get?_put_self (key : String) (v : Value) (t : Table) : get? key (put key v t) = some v := by
  induction t with
  | nil => simp [put, get?]
  | cons entry rest ih =>
    obtain ⟨k, old⟩ := entry
    by_cases h : k = key <;> simp [put, get?, h, ih]

theorem get?_put_ne {key other : String} (h : other ≠ key) (v : Value) (t : Table) :
    get? other (put key v t) = get? other t := by
  induction t with
  | nil => simp [put, get?, Ne.symm h]
  | cons entry rest ih =>
    obtain ⟨k, old⟩ := entry
    by_cases hk : k = key
    · subst hk
      simp [put, get?, Ne.symm h]
    · by_cases ho : k = other
      · subst ho
        simp [put, get?, h]
      · simp [put, get?, hk, ho, ih]

end Table

/-- The name of the kind of a value, as messages about kinds give it. -/
def Value.kind : Value → String
  | .null => "NoneType"
  | .amount (.whole _) => "int"
  | .amount (.flag _) => "bool"
  | .amount (.real _) => "float"
  | .text _ => "str"
  | .moment (.date _) => "datetime.date"
  | .moment (.time _) => "datetime.time"
  | .moment (.dateTime _ _ _) => "datetime.datetime"
  | .list _ => "list"
  | .table _ => "dict"

end Breadcrumb
