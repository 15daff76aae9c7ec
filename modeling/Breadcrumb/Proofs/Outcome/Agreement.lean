/-
  Breadcrumb.Proofs.Outcome.Agreement
  ───────────────────────────────────
  **THE OUTCOME OF A FILE SAYS WHAT ITS COMPLETE RUN DID.**

  An outcome is settled before and after a run: the budget, blanks and the extension
  are looked at before, and only then is the file packed, which looks at the same
  three things again and at the extension in another table.  With one registry for
  both, the two never disagree (`attempt_agrees`); in particular a run that finds no
  grammar, and says so, is never begun.
-/
import Mathlib
import Breadcrumb.Assembly
import Breadcrumb.Outcome
import Breadcrumb.Proofs.Language.Support
import Breadcrumb.Proofs.Packing.Piecemeal

namespace Breadcrumb

open Breadcrumb.Language Breadcrumb.Number Breadcrumb.Packing Breadcrumb.Text Breadcrumb.Tokens

/-! ## §1. What is looked at before a run. -/

variable {c : Chunker} {j : Job}

/-- A budget of zero or less is refused, as it reads. -/
theorem checkBudget_of_le {B : Int} (h : B ≤ 0) :
    checkBudget (.whole B) = .error (.invalidBudget (Decimal.intText B)) := by
  unfold checkBudget
  rw [Quantity.notPositive_whole, decide_eq_true h]
  rfl

theorem attempt_of_error {f : Failure} (h : checkBudget j.budget = .error f) :
    c.attempt j = .error f := by
  simp only [Chunker.attempt, attempt, h]

theorem chunkFile_of_error {f : Failure} (h : checkBudget j.budget = .error f) :
    c.chunkFile j = .error f := by
  unfold Chunker.chunkFile
  rw [h]
  rfl

theorem attempt_of_blank (h : checkBudget j.budget = .ok ()) (hblank : allBlank j.contents = true) :
    c.attempt j = .ok ⟨.chunked [], [], false⟩ := by
  simp only [Chunker.attempt, attempt, h, hblank, if_true]

theorem attempt_of_unsupported (h : checkBudget j.budget = .ok ())
    (hfilled : allBlank j.contents = false) (hlanguage : isSupported j.path = false) :
    c.attempt j = .ok ⟨.skipped ("No parser available for " ++ j.path.text), [], false⟩ := by
  simp only [Chunker.attempt, attempt, h, hfilled, hlanguage, Bool.false_eq_true, if_false,
    Bool.not_false, if_true]

theorem attempt_of_supported (h : checkBudget j.budget = .ok ())
    (hfilled : allBlank j.contents = false) (hlanguage : isSupported j.path = true) :
    c.attempt j = .ok ((c.run j).stream.settle j.path) := by
  simp only [Chunker.attempt, attempt, h, hfilled, hlanguage, Bool.false_eq_true, if_false,
    Bool.not_true]

/-- All that an attempt with an accepted budget can come to. -/
theorem attempt_cases (c : Chunker) (j : Job) (h : checkBudget j.budget = .ok ()) :
    (allBlank j.contents = true ∧ c.attempt j = .ok ⟨.chunked [], [], false⟩)
    ∨ (allBlank j.contents = false ∧ isSupported j.path = false
      ∧ c.attempt j = .ok ⟨.skipped ("No parser available for " ++ j.path.text), [], false⟩)
    ∨ (allBlank j.contents = false ∧ isSupported j.path = true
      ∧ c.attempt j = .ok ((c.run j).stream.settle j.path)) := by
  cases hblank : allBlank j.contents with
  | true => exact .inl ⟨rfl, attempt_of_blank h hblank⟩
  | false =>
    cases hlanguage : isSupported j.path with
    | false => exact .inr (.inl ⟨rfl, rfl, attempt_of_unsupported h hblank hlanguage⟩)
    | true => exact .inr (.inr ⟨rfl, rfl, attempt_of_supported h hblank hlanguage⟩)

/-! ## §2. What a run does. -/

/-- A blank file gives nothing. -/
theorem run_of_blank (hblank : allBlank j.contents = true) : c.run j = {} := by
  simp only [Chunker.run, hblank, if_true]

/-- A file without a tree gives nothing but a record. -/
theorem run_of_none (hfilled : allBlank j.contents = false)
    (hparse : c.parse j.path j.contents = .ok none) :
    c.run j = { logs := [noGrammar j.path], parsed := true } := by
  simp only [Chunker.run, hfilled, hparse, Bool.false_eq_true, if_false]

/-- Where parsing gives a tree or fails, a run has nothing to tell. -/
theorem run_logs (hparse : c.parse j.path j.contents ≠ .ok none) : (c.run j).logs = [] := by
  cases hblank : allBlank j.contents with
  | true => rw [run_of_blank hblank]
  | false =>
    cases htree : c.parse j.path j.contents with
    | error f => simp only [Chunker.run, hblank, htree, Bool.false_eq_true, if_false]
    | ok tree =>
      cases tree with
      | none => exact absurd htree hparse
      | some root =>
        cases hlines : countLines c.count (lines j.contents) with
        | error f => simp only [Chunker.run, hblank, htree, hlines, Bool.false_eq_true, if_false]
        | ok ls => rw [run_of_lines hblank htree hlines]

/-- A run asks for the tree of its own file only. -/
theorem run_congr {d : Chunker} (hcount : c.count = d.count)
    (hparse : c.parse j.path j.contents = d.parse j.path j.contents) : c.run j = d.run j := by
  simp only [Chunker.run, Chunker.plan, hcount, hparse]

/-! ## §3. Settling. -/

/-- A file whose run failed has failed, and keeps no chunk. -/
theorem settle_of_failure {s : Stream} {f : Failure} (h : s.failure = some f) (path : Path) :
    ∃ message, s.settle path
      = ⟨.failed message, s.logs ++ [⟨.error, .outcome, message⟩], s.counted⟩ := by
  refine ⟨"Failed to chunk " ++ path.text ++ ": " ++ f.message, ?_⟩
  simp only [Stream.settle, h]

/-- A file whose run did not fail has its chunks. -/
theorem settle_of_ok {s : Stream} (h : s.failure = none) (path : Path) :
    ∃ message, s.settle path
      = ⟨.chunked s.chunks, s.logs ++ [⟨.debug, .outcome, message⟩], s.counted⟩ := by
  refine ⟨"Chunked " ++ path.text ++ " into " ++ Decimal.text s.chunks.length ++ " chunks", ?_⟩
  simp only [Stream.settle, h]

/-! ## §4. One registry for both. -/

/-- How an outcome lies to a report of the complete run over the same file. -/
structure Agrees (r : Registry) (parsing : Parsing) (j : Job) (report : Report) (s : Settled) :
    Prop where
  /-- The file has failed just if the run did. -/
  failed_iff : s.outcome.isSuccess = false ↔ report.failure.isSome = true
  /-- A file that failed keeps no chunk of those made before. -/
  nothing_kept : s.outcome.isSuccess = false → s.outcome.chunks = []
  /-- The file was passed over just if it is not blank and the registry gives no tree for it. -/
  skipped_iff : s.outcome.isSkipped = true
    ↔ allBlank j.contents = false ∧ (r.parse parsing j.path j.contents).value = .ok none
  /-- Otherwise the chunks are those of the run. -/
  chunks_eq : report.failure = none → s.outcome.chunks = report.chunks
  /-- No file is found to have no grammar only when it is packed. -/
  quiet : ∀ path, noGrammar path ∉ s.logs

variable (r : Registry) (parsing : Parsing) (count : Tokenizer)

/-- **With a budget that is accepted, the outcome agrees with the run.** -/
theorem agrees_of_checkBudget (h : checkBudget j.budget = .ok ()) :
    ∃ s, (chunkerOf r parsing count).attempt j = .ok s
      ∧ Agrees r parsing j ((chunkerOf r parsing count).run j) s := by
  have hnone : (chunkerOf r parsing count).parse j.path j.contents = .ok none
      ↔ isSupported j.path = false := by
    rw [chunkerOf_parse, Registry.parse_eq_none_iff]
  cases hblank : allBlank j.contents with
  | true =>
    refine ⟨_, attempt_of_blank h hblank, ?_⟩
    rw [run_of_blank hblank]
    refine ⟨by simp [Outcome.isSuccess], by simp [Outcome.isSuccess], ?_, fun _ => rfl, by simp⟩
    simp [Outcome.isSkipped, hblank]
  | false =>
    cases hlanguage : isSupported j.path with
    | false =>
      refine ⟨_, attempt_of_unsupported h hblank hlanguage, ?_⟩
      rw [run_of_none hblank (hnone.mpr hlanguage)]
      refine ⟨by simp [Outcome.isSuccess], by simp [Outcome.isSuccess], ?_, fun _ => rfl, by simp⟩
      simp [Outcome.isSkipped, hblank, Registry.parse_eq_none_iff, hlanguage]
    | true =>
      have hparse : ¬ (chunkerOf r parsing count).parse j.path j.contents = .ok none := by
        rw [hnone, hlanguage]
        exact Bool.noConfusion
      have hlogs := run_logs hparse
      have hskipped : ¬ (allBlank j.contents = false
          ∧ (r.parse parsing j.path j.contents).value = .ok none) := by
        rw [← chunkerOf_parse r parsing count]
        exact fun hboth => hparse hboth.2
      refine ⟨_, attempt_of_supported h hblank hlanguage, ?_⟩
      cases hfailure : ((chunkerOf r parsing count).run j).failure with
      | some f =>
        obtain ⟨message, hsettle⟩ :=
          settle_of_failure (s := ((chunkerOf r parsing count).run j).stream) hfailure j.path
        rw [hsettle]
        refine ⟨?_, fun _ => rfl, ?_, ?_, ?_⟩
        · simp [Outcome.isSuccess, hfailure]
        · exact iff_of_false Bool.false_ne_true hskipped
        · rw [hfailure]
          exact fun hok => nomatch hok
        · simp [Report.stream, hlogs, noGrammar]
      | none =>
        obtain ⟨message, hsettle⟩ :=
          settle_of_ok (s := ((chunkerOf r parsing count).run j).stream) hfailure j.path
        rw [hsettle]
        refine ⟨?_, ?_, ?_, fun _ => rfl, ?_⟩
        · simp [Outcome.isSuccess, hfailure]
        · simp [Outcome.isSuccess]
        · exact iff_of_false Bool.false_ne_true hskipped
        · simp [Report.stream, hlogs, noGrammar]

/-- **THE AGREEMENT THEOREM.**  For every state of a registry, whatever its parsers make of a file
and however texts are counted: an outcome and a complete run over a file refuse the same budgets,
those of zero or less, in the same words; otherwise both are there and agree, and a run with the
registry as the first one left it is the same again. -/
theorem attempt_agrees (r : Registry) (parsing : Parsing) (count : Tokenizer) (path : Path)
    (contents : String) (B : Int) :
    (B ≤ 0
      ∧ (chunkerOf r parsing count).attempt ⟨path, contents, .whole B⟩
          = .error (.invalidBudget (Decimal.intText B))
      ∧ (chunkerOf r parsing count).chunkFile ⟨path, contents, .whole B⟩
          = .error (.invalidBudget (Decimal.intText B)))
    ∨ (0 < B ∧ ∃ s report,
        (chunkerOf r parsing count).attempt ⟨path, contents, .whole B⟩ = .ok s
        ∧ (chunkerOf r parsing count).chunkFile ⟨path, contents, .whole B⟩ = .ok report
        ∧ Agrees r parsing ⟨path, contents, .whole B⟩ report s
        ∧ (chunkerOf (r.parse parsing path contents).registry parsing count).chunkFile
            ⟨path, contents, .whole B⟩ = .ok report) := by
  rcases Int.lt_or_le 0 B with hpos | hle
  · right
    have hcheck : checkBudget (.whole B) = .ok () := checkBudget_whole hpos
    obtain ⟨s, hattempt, hagrees⟩ :=
      agrees_of_checkBudget r parsing count (j := ⟨path, contents, .whole B⟩) hcheck
    refine ⟨hpos, s, _, hattempt, chunkFile_of_checkBudget _ hcheck, hagrees, ?_⟩
    have hsame : (chunkerOf (r.parse parsing path contents).registry parsing count).run
          ⟨path, contents, .whole B⟩
        = (chunkerOf r parsing count).run ⟨path, contents, .whole B⟩ := by
      apply run_congr
      · simp only [chunkerOf]
      · simp only [chunkerOf_parse, Registry.parse_parse]
    rw [chunkFile_of_checkBudget _ hcheck, hsame]
  · left
    have hcheck := checkBudget_of_le hle
    exact ⟨hle, attempt_of_error hcheck, chunkFile_of_error hcheck⟩

end Breadcrumb
