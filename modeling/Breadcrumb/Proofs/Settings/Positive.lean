/-
  Breadcrumb.Proofs.Settings.Positive
  ───────────────────────────────────
  **WHICH NUMBERS GET PAST THE CHECKS.**

  Sizes, numbers of workers and budgets are to be positive, and what is checked is
  that they are not zero or less.  For integers, truth values, infinities and finite
  numbers that is the same.  A NaN lies to zero in no way, so it passes
  (`notPositive_eq_false_iff`), and it is all that passes beside the positive
  amounts:

      a number in force is positive, or a NaN that some data gave for it
      (`inForce_mergeAll`)
      a budget that is admitted is positive, or a NaN, with which every line counts
      as oversize and no file gives a chunk (`chunks_of_nan`)
-/
import Mathlib
import Breadcrumb.Proofs.Outcome.Agreement
import Breadcrumb.Proofs.Settings.Setting

namespace Breadcrumb.Number

/-! ## §1. Amounts. -/

/-- More than zero. -/
def Quantity.Positive : Quantity → Prop
  | .whole n => 0 < n
  | .flag b => b = true
  | .real .nan => False
  | .real (.infinite negative) => negative = false
  | .real (.finite negative significand _) => negative = false ∧ 0 < significand

theorem signed_pos_iff {negative : Bool} {m : Nat} :
    0 < Binary64.signed negative m ↔ negative = false ∧ 0 < m := by
  unfold Binary64.signed
  cases negative with
  | true =>
    simp only [if_true, Bool.true_eq_false, false_and, iff_false]
    omega
  | false => simp

/-- The sign of a finite number is that of its significand. -/
theorem notPositive_finite (negative : Bool) (m : Nat) (e : Int) :
    (Quantity.real (.finite negative m e)).notPositive
      = decide (Binary64.signed negative m ≤ 0) := by
  cases e with
  | ofNat k =>
    -- Scaling by a power of two changes no sign.
    have hpow : (0 : Int) < Binary64.pow2 k := Int.natCast_pos.mpr (Nat.pow_pos (by omega))
    have hscaled : (Quantity.real (.finite negative m (.ofNat k))).notPositive
        = (Quantity.whole (Binary64.signed negative m * Binary64.pow2 k)).notPositive := rfl
    rw [hscaled, Quantity.notPositive_whole, decide_eq_decide]
    constructor
    · intro hle
      exact nonpos_of_mul_nonpos_left hle hpow
    · intro hle
      exact Int.mul_nonpos_of_nonpos_of_nonneg hle (Int.le_of_lt hpow)
  | negSucc k =>
    have hscaled : (Quantity.real (.finite negative m (.negSucc k))).notPositive
        = (Quantity.whole (Binary64.signed negative m)).notPositive := by
      simp only [Quantity.notPositive, Quantity.compareInt, Binary64.compareInt, Int.zero_mul]
    rw [hscaled, Quantity.notPositive_whole]

/-- **What is not zero or less is more than zero, or no number.** -/
theorem notPositive_eq_false_iff {q : Quantity} :
    q.notPositive = false ↔ q.Positive ∨ q = .real .nan := by
  cases q with
  | whole n =>
    rw [Quantity.notPositive_whole, decide_eq_false_iff_not]
    simp [Quantity.Positive]
  | flag b => cases b <;> simp [Quantity.Positive] <;> decide
  | real x =>
    cases x with
    | nan =>
      simp [Quantity.Positive, Quantity.notPositive, Quantity.compareInt, Binary64.compareInt]
    | infinite negative =>
      cases negative <;>
        simp [Quantity.Positive, Quantity.notPositive, Quantity.compareInt, Binary64.compareInt]
    | finite negative m e =>
      rw [notPositive_finite, decide_eq_false_iff_not, Int.not_le, signed_pos_iff]
      simp [Quantity.Positive]

end Breadcrumb.Number

namespace Breadcrumb.Packing

open Breadcrumb.Number

/-! ## §2. Budgets. -/

/-- Packing refuses just the budgets of zero or less. -/
theorem chunkFile_admits_iff {c : Chunker} {j : Job} :
    (∀ given, c.chunkFile j ≠ .error (.invalidBudget given))
      ↔ j.budget.Positive ∨ j.budget = .real .nan := by
  rw [← notPositive_eq_false_iff]
  cases hbudget : j.budget.notPositive with
  | false =>
    have hcheck := checkBudget_of_notPositive hbudget
    simp [chunkFile_of_checkBudget c hcheck]
  | true =>
    have hcheck : checkBudget j.budget = .error (.invalidBudget j.budget.text) := by
      unfold checkBudget
      rw [hbudget]
      rfl
    simp [chunkFile_of_error hcheck]

/-- So does an attempt on a file, whatever its chunks come from. -/
theorem attempt_admits_iff {chunk : Job → Stream} {j : Job} :
    (∀ given, attempt chunk j ≠ .error (.invalidBudget given))
      ↔ j.budget.Positive ∨ j.budget = .real .nan := by
  rw [← notPositive_eq_false_iff]
  cases hbudget : j.budget.notPositive with
  | false =>
    have hcheck := checkBudget_of_notPositive hbudget
    simp only [attempt, hcheck]
    split
    · simp
    · split <;> simp
  | true => simp [attempt, checkBudget, hbudget]

/-- With a NaN for a budget a line changes nothing. -/
theorem step_of_nan {p : Plan} (hbudget : p.budget = .real .nan) (s : State) (l : Line) :
    step p s l = .ok (s, none) ∨ ∃ f, step p s l = .error f := by
  unfold step
  cases p.count (Scope.breadcrumb s.crumbs) with
  | error f => exact .inr ⟨f, rfl⟩
  | ok tokens =>
    left
    have hlimit : p.limit = .real .nan := by
      unfold Plan.limit
      rw [hbudget]
      rfl
    have hexceeds : Quantity.exceeds (s.used + l.tokens + tokens) (.real .nan) = false := rfl
    have hbelow : Quantity.below l.tokens (.real .nan) = false := rfl
    simp only [hlimit, hexceeds, State.take, hbudget, hbelow, Bool.false_eq_true, if_false]

theorem packFrom_of_nan {p : Plan} (hbudget : p.budget = .real .nan) (n : Nat) (s : State)
    (hkept : s.kept = []) (ls : List Line) : (packFrom p n s ls).pieces = [] := by
  induction ls with
  | nil =>
    have hnothing : finish s n = none := by
      unfold finish
      rw [hkept]
      rfl
    rw [packFrom, hnothing]
    rfl
  | cons l ls ih =>
    rcases step_of_nan hbudget s l with hstep | ⟨f, hstep⟩
    · rw [packFrom, hstep]
      exact ih
    · rw [packFrom, hstep]

/-- **With a NaN for a budget no file gives a chunk.** -/
theorem chunks_of_nan {c : Chunker} {j : Job} (hbudget : j.budget = .real .nan) :
    (c.run j).chunks = [] := by
  unfold Chunker.run
  split
  · rfl
  · split
    · rfl
    · rfl
    · split
      · rfl
      · rename_i root _ _ ls _
        have hplan : (c.plan j root).budget = .real .nan := hbudget
        simp only [Report.chunks, pack, packFrom_of_nan hplan ls.length {} rfl ls, List.map_nil]

end Breadcrumb.Packing

namespace Breadcrumb.Settings

open Breadcrumb.Number Breadcrumb.Packing Breadcrumb.Text

/-! ## §3. Merges one after the other. -/

/-- The settings after data came to be laid over them: data that are refused leave them. -/
def Config.merge (current : Config) (data : Table) : Config :=
  match current.overlay data with
  | .ok c => c
  | .error _ => current

/-- The settings after several data, in their order. -/
def Config.mergeAll (current : Config) (given : List Table) : Config :=
  given.foldl Config.merge current

theorem mergeAll_concat (current : Config) (given : List Table) (data : Table) :
    current.mergeAll (given ++ [data]) = (current.mergeAll given).merge data := by
  unfold Config.mergeAll
  rw [List.foldl_concat]

theorem merge_of_ok {current c : Config} {data : Table} (h : current.overlay data = .ok c) :
    current.merge data = c := by
  unfold Config.merge
  rw [h]

theorem merge_of_error {current : Config} {data : Table} {i : Invalid}
    (h : current.overlay data = .error i) : current.merge data = current := by
  unfold Config.merge
  rw [h]

/-- What holds of settings in force: a number is positive, or a NaN that was given for it. -/
structure InForce (given : List Table) (c : Config) : Prop where
  amounts : ∀ field, (c.amount field).Positive
    ∨ c.amount field = .real .nan
      ∧ ∃ data ∈ given, (Setting.number field).held? data = some (.amount (.real .nan))
  encoding : allBlank c.encoding = false

theorem inForce_default : InForce [] {} where
  amounts
    | .maxChunkSize => .inl (show (0 : Int) < 512 by decide)
    | .tokenWorkers => .inl (show (0 : Int) < 8 by decide)
  encoding := by decide

/-- More data may have been given. -/
theorem InForce.mono {given more : List Table} {c : Config} (h : InForce given c) :
    InForce (given ++ more) c where
  amounts field := by
    refine (h.amounts field).imp_right ?_
    rintro ⟨hnan, data, hdata, hheld⟩
    exact ⟨hnan, data, List.mem_append_left more hdata, hheld⟩
  encoding := h.encoding

/-- **One merge that is accepted**: every number is the one before, or one that passed. -/
theorem InForce.overlay {given : List Table} {current c : Config} {data : Table}
    (h : InForce given current) (hoverlay : current.overlay data = .ok c) :
    InForce (given ++ [data]) c := by
  obtain ⟨hacceptable, hvalue⟩ := overlay_eq_ok_iff_held.mp hoverlay
  constructor
  · intro field
    have hamount := hvalue (.number field)
    cases hheld : (Setting.number field).held? data with
    | none =>
      rw [hheld] at hamount
      have hsame : c.amount field = current.amount field := Value.amount.inj hamount
      rw [hsame]
      exact h.mono.amounts field
    | some v =>
      obtain ⟨q, rfl, hq⟩ := passes_number_iff.mp (hacceptable _ v hheld)
      rw [hheld] at hamount
      have hgiven : c.amount field = q := Value.amount.inj hamount
      rw [hgiven]
      refine (notPositive_eq_false_iff.mp hq).imp_right ?_
      rintro rfl
      exact ⟨rfl, data, List.mem_append_right given List.mem_cons_self, hheld⟩
  · exact overlayEncoding_filled h.encoding (Config.overlay_eq_ok_iff.mp hoverlay).2

/-- **All merges.** -/
theorem inForce_mergeAll (given : List Table) : InForce given (Config.mergeAll {} given) := by
  induction given using List.reverseRecOn with
  | nil => exact inForce_default
  | append_singleton given data ih =>
    rw [mergeAll_concat]
    cases hoverlay : (Config.mergeAll {} given).overlay data with
    | error i =>
      rw [merge_of_error hoverlay]
      exact ih.mono
    | ok c =>
      rw [merge_of_ok hoverlay]
      exact ih.overlay hoverlay

/-- **What gets past the checks.**  A merge is refused and changes nothing, or it leads to settings
whose numbers are positive, but for a NaN that was given, and whose encoding is not blank.  A budget
that is admitted is positive, or a NaN, and with a NaN no file gives a chunk. -/
theorem admitted_positive_or_nan (given : List Table) (data : Table) (c : Chunker)
    (chunk : Job → Stream) (j : Job) :
    ((∃ i, (Config.mergeAll {} given).overlay data = .error i
          ∧ Config.mergeAll {} (given ++ [data]) = Config.mergeAll {} given)
        ∨ ∃ d, (Config.mergeAll {} given).overlay data = .ok d
          ∧ Config.mergeAll {} (given ++ [data]) = d ∧ InForce (given ++ [data]) d)
      ∧ ((∀ shown, c.chunkFile j ≠ .error (.invalidBudget shown))
          ↔ j.budget.Positive ∨ j.budget = .real .nan)
      ∧ ((∀ shown, attempt chunk j ≠ .error (.invalidBudget shown))
          ↔ j.budget.Positive ∨ j.budget = .real .nan)
      ∧ (j.budget = .real .nan → (c.run j).chunks = []) := by
  refine ⟨?_, chunkFile_admits_iff, attempt_admits_iff, chunks_of_nan⟩
  rw [mergeAll_concat]
  cases hoverlay : (Config.mergeAll {} given).overlay data with
  | error i => exact .inl ⟨i, rfl, merge_of_error hoverlay⟩
  | ok d => exact .inr ⟨d, rfl, merge_of_ok hoverlay, (inForce_mergeAll given).overlay hoverlay⟩

namespace Sample

/-- A size that is no number. -/
def unsized : Table := [(chunkingSection, .table [(Field.maxChunkSize.key, .amount (.real .nan))])]

/-- The settings with it. -/
def sizeless : Config := { chunking := { maxChunkSize := .real .nan } }

theorem overlay_unsized : ({} : Config).overlay unsized = .ok sizeless := rfl

def chunker : Chunker where
  parse := fun _ _ => .ok (some (.node "module" ⟨0, 5, 0, 0⟩ []))
  count := fun text => .ok (words text)

/-- A file of one line, with a budget that is no number. -/
def job : Job := ⟨⟨0, ["a.py"]⟩, "x = 1", .real .nan⟩

end Sample

/-- The file of the sample is admitted, and gives no chunk. -/
theorem sample_admitted :
    Sample.job.budget = .real .nan
      ∧ (∀ shown, Sample.chunker.chunkFile Sample.job ≠ .error (.invalidBudget shown))
      ∧ (Sample.chunker.run Sample.job).chunks = [] := by
  have hadmitted :=
    admitted_positive_or_nan [] Sample.unsized Sample.chunker (fun _ => ⟨[], none, [], false⟩)
      Sample.job
  exact ⟨rfl, hadmitted.2.1.mpr (.inr rfl), hadmitted.2.2.2 rfl⟩

/-- **Not every number that gets past the checks is positive**: neither every setting nor every
budget. -/
theorem exists_nan_admitted :
    (¬ ∀ (given : List Table) (data : Table) (d : Config),
        (Config.mergeAll {} given).overlay data = .ok d →
          ∀ field, (d.amount field).Positive)
      ∧ ¬ ∀ (c : Chunker) (j : Job),
        (∀ shown, c.chunkFile j ≠ .error (.invalidBudget shown)) → j.budget.Positive := by
  constructor
  · intro hclaim
    exact hclaim [] Sample.unsized Sample.sizeless Sample.overlay_unsized .maxChunkSize
  · intro hclaim
    exact hclaim Sample.chunker Sample.job (chunkFile_admits_iff.mpr (.inr rfl))

end Breadcrumb.Settings
