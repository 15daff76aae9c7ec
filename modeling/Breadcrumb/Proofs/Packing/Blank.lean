/-
  Breadcrumb.Proofs.Packing.Blank
  ───────────────────────────────
  **WHICH CHUNKS ARE BLANK.**

  Blankness is looked at twice: of the whole text before anything else, and of
  what is kept when the lines run out.  At a boundary it is not.  What has been
  kept is closed there whatever it is, and since a line over the limit cannot
  wait, a run of blank lines can go out alone.

  So a blank chunk ends above the last line of its file, before a line that does
  not fit (`Worded`), and that happens (`exists_blank_chunk`).
-/
import Breadcrumb.Proofs.Packing.Greedy

namespace Breadcrumb.Packing

open Breadcrumb.Text

variable {p : Plan} {t : String → Int} {B : Int}

/-! ## §1. Where pieces end. -/

/-- **A piece closed on the way ends above the last line read**, because it ends above the line
that closed it. -/
theorem Reach.endLine_lt {done : List Line} {s : State} {pieces : List Piece}
    (h : Reach p t B done s pieces) (hrows : InRows done) :
    ∀ q ∈ pieces, q.endLine < done.length := by
  intro q hq
  obtain ⟨before, l, after, s', pieces', rfl, -, -, rfl, -⟩ := h.exists_cut hq
  show l.row < (before ++ l :: after).length
  rw [hrows.row_eq, List.length_append, List.length_cons]
  omega

/-- **A piece of a complete run ends above the last line, or holds a line that is not blank.** -/
theorem Completed.above_or_worded {contents : String} {pieces : List Piece}
    (h : Completed p t B contents pieces) :
    ∀ q ∈ pieces, q.endLine < (measuredLines t contents).length
      ∨ ∃ l ∈ q.lines, allBlank l.text = false := by
  intro q hq
  rcases h with ⟨-, rfl⟩ | ⟨s, before, hreach, rfl⟩
  · exact absurd hq List.not_mem_nil
  · rcases List.mem_append.mp hq with hq | hq
    · exact .inl (hreach.endLine_lt (inRows_measuredLines t contents) q hq)
    · rcases finish_cases s (measuredLines t contents).length with
        ⟨-, hfinish⟩ | ⟨hworded, hfinish⟩
      · rw [hfinish] at hq
        exact absurd hq List.not_mem_nil
      · -- Only the last piece is looked at before it is closed.
        rw [hfinish, Option.toList_some, List.mem_singleton] at hq
        rw [hq]
        exact .inr hworded

/-- A file has a line behind every one but its last. -/
theorem InRows.exists_number_succ {file : List Line} (h : InRows file) {last : Nat}
    (hlast : last < file.length) : ∃ next ∈ file, next.number = last + 1 := by
  refine ⟨file[last], List.getElem_mem hlast, ?_⟩
  unfold Line.number
  rw [h last file[last] (List.getElem?_eq_getElem hlast)]

/-- A text of blanks gives no chunks. -/
theorem chunkFile_of_allBlank {c : Chunker} {path : Path} {contents : String} {B : Int}
    (hB : 0 < B) (hblank : allBlank contents = true) :
    c.chunkFile ⟨path, contents, .whole B⟩ = .ok {} := by
  unfold Chunker.chunkFile
  rw [checkBudget_whole hB]
  show Except.ok (c.run _) = _
  simp only [Chunker.run, hblank, if_true]

/-! ## §2. A file. -/

/-- What the body from the line `first` on holds, five tokens being held back. -/
structure Worded (t : String → Int) (B : Int) (file : List Line) (first : Nat) (q : Piece) :
    Prop where
  /-- It has a line. -/
  filled : between file first q.endLine ≠ []
  /-- If all its lines are blank, there is a line behind it that does not fit. -/
  boundary : (∀ l ∈ between file first q.endLine, allBlank l.text = true) →
    ∃ next ∈ file, next.number = q.endLine + 1
      ∧ B - 5 < t (Scope.breadcrumb q.crumbs) + cost (between file first q.endLine) + next.tokens
  /-- If it ends at the last line, one of its lines is not blank. -/
  final : q.endLine = file.length → ∃ l ∈ between file first q.endLine, allBlank l.text = false

/-- A piece that is cut out of a file and full is worded, unless it ends at the last line and is
blank. -/
theorem CutFrom.worded {file : List Line} {first : Nat} {q : Piece} (h : CutFrom p B file first q)
    (hrows : InRows file) (hfull : Full t B file q)
    (hends : q.endLine < file.length ∨ ∃ l ∈ q.lines, allBlank l.text = false) :
    Worded t B file first q where
  filled := by
    rw [← h.lines_eq]
    exact h.lines_ne_nil
  boundary := by
    rw [← h.lines_eq]
    intro hblank
    rcases hends with habove | ⟨l, hl, hword⟩
    · -- It was closed on the way, so the line behind it is the one that was over the limit.
      obtain ⟨next, hnext, hnumber⟩ := hrows.exists_number_succ habove
      exact ⟨next, hnext, hnumber, hfull next hnext hnumber⟩
    · rw [hblank l hl] at hword
      cases hword
  final := by
    rw [← h.lines_eq]
    intro hlast
    exact hends.resolve_left (by omega)

/-- **THE BLANK-CHUNK THEOREM.**  For every text, tree, positive budget and tokenizer that neither
fails nor gives a negative number, a run over the text succeeds.  A text of blanks gives no chunk.
Every chunk has a line of the file in its body, and one that is not blank unless the chunk was
closed at a boundary: then there is a line behind it that does not fit. -/
theorem chunkFile_worded {c : Chunker} {path : Path} {contents : String} {root : Node}
    {t : String → Int} {B : Int} (hB : 0 < B) (hparse : c.parse path contents = .ok (some root))
    (hcount : ∀ s, c.count s = .ok (t s)) (hnonneg : ∀ s, 0 ≤ t s) :
    ∃ r, c.chunkFile ⟨path, contents, .whole B⟩ = .ok r ∧ r.failure = none
      ∧ (allBlank contents = true → r.pieces = [])
      ∧ ∀ q ∈ r.pieces, ∃ first,
          CutFrom (c.plan ⟨path, contents, .whole B⟩ root) B (measuredLines t contents) first q
            ∧ Worded t B (measuredLines t contents) first q := by
  obtain ⟨r, hrun, hok, hdone⟩ := chunkFile_completed hB hparse hcount
  have hregular : (c.plan ⟨path, contents, .whole B⟩ root).Regular t B := ⟨hcount, rfl⟩
  refine ⟨r, hrun, hok, ?_, ?_⟩
  · intro hblank
    rw [chunkFile_of_allBlank hB hblank, Except.ok.injEq] at hrun
    rw [← hrun]
  · intro q hq
    have hclosed := hdone.closed q hq
    have hrows := inRows_measuredLines t contents
    obtain ⟨first, hcut⟩ :=
      hclosed.cutFrom hregular hnonneg hrows (tokens_nonneg_of_mem_measuredLines hnonneg)
    exact ⟨first, hcut, hcut.worded hrows (hclosed.full hregular hrows)
      (hdone.above_or_worded q hq)⟩

/-! ## §3. A chunk that is blank. -/

namespace Sample.Gap

/-- A sum of five words behind an empty line. -/
def contents : String := "\nx = 1 + 2"

def tree : Node := .node "module" ⟨0, 10, 0, 1⟩ []

def chunker : Chunker := ⟨fun _ _ => .ok (some tree), fun s => .ok (words s : Nat)⟩

/-- How it is packed under a budget of ten words, of which five are held back. -/
def plan : Plan := chunker.plan ⟨path, contents, .whole 10⟩ tree

def gap : Line := ⟨0, "", 0⟩

def sum : Line := ⟨1, "x = 1 + 2", 5⟩

/-- The state with the empty line kept. -/
def opened : State := ({} : State).take plan gap

/-- The state with the sum kept, behind the boundary. -/
def reopened : State := ((opened.reopen 1).collect plan 1).take plan sum

theorem measuredLines_eq : measuredLines (fun s => (words s : Nat)) contents = [gap, sum] := by
  decide

theorem steps_gap : Steps plan (fun s => (words s : Nat)) 10 {} gap opened none :=
  .stay (by decide)

/-- The newline of the empty line counts as one, and five more are over the limit of five. -/
theorem steps_sum :
    Steps plan (fun s => (words s : Nat)) 10 opened sum reopened (some (opened.close 1)) :=
  .cut (by decide) (by decide)

/-- The run shows the empty line as a chunk. -/
theorem exists_chunkFile_eq :
    ∃ r, chunker.chunkFile ⟨path, contents, .whole 10⟩ = .ok r
      ∧ r.pieces = [opened.close 1, reopened.close 2] := by
  have hreach : Reach plan (fun s => (words s : Nat)) 10
      (measuredLines (fun s => (words s : Nat)) contents) reopened [opened.close 1] := by
    rw [measuredLines_eq]
    exact (Reach.start.read steps_gap).read steps_sum
  obtain ⟨r, hrun, hpieces⟩ := chunkFile_of_reach (c := chunker) (k := sum) (by decide) rfl
    (fun _ => rfl) (by decide) hreach (by decide) (by decide)
  rw [measuredLines_eq] at hpieces
  exact ⟨r, hrun, hpieces⟩

end Sample.Gap

/-- The sample under a budget of ten words. -/
theorem sample_worded :
    (0 : Int) < 10
      ∧ Sample.Gap.chunker.parse Sample.path Sample.Gap.contents = .ok (some Sample.Gap.tree)
      ∧ (∀ s, (0 : Int) ≤ (words s : Nat))
      ∧ ∃ r, Sample.Gap.chunker.chunkFile ⟨Sample.path, Sample.Gap.contents, .whole 10⟩ = .ok r
        ∧ r.failure = none
        ∧ (allBlank Sample.Gap.contents = true → r.pieces = [])
        ∧ ∀ q ∈ r.pieces, ∃ first,
            CutFrom Sample.Gap.plan 10
              (measuredLines (fun s => (words s : Nat)) Sample.Gap.contents) first q
            ∧ Worded (fun s => (words s : Nat)) 10
              (measuredLines (fun s => (words s : Nat)) Sample.Gap.contents) first q :=
  ⟨by decide, rfl, fun _ => Int.natCast_nonneg _,
    chunkFile_worded (by decide) rfl (fun _ => rfl) fun _ => Int.natCast_nonneg _⟩

/-- **A chunk can be blank**, of a text that is not: the line behind a run of blank lines does not
fit with them. -/
theorem exists_blank_chunk :
    ¬ ∀ (c : Chunker) (path : Path) (contents : String) (root : Node) (t : String → Int) (B : Int),
      0 < B → c.parse path contents = .ok (some root) → (∀ s, c.count s = .ok (t s)) →
      (∀ s, 0 ≤ t s) → ∀ r, c.chunkFile ⟨path, contents, .whole B⟩ = .ok r →
      ∀ q ∈ r.pieces, ∃ l ∈ q.lines, allBlank l.text = false := by
  intro hclaim
  obtain ⟨r, hrun, hpieces⟩ := Sample.Gap.exists_chunkFile_eq
  have hpiece : Sample.Gap.opened.close 1 ∈ r.pieces := by
    rw [hpieces]
    exact List.mem_cons_self
  obtain ⟨l, hl, hword⟩ := hclaim Sample.Gap.chunker Sample.path Sample.Gap.contents
    Sample.Gap.tree (fun s => (words s : Nat)) 10 (by decide) rfl (fun _ => rfl)
    (fun _ => Int.natCast_nonneg _) r hrun _ hpiece
  have hlines : (Sample.Gap.opened.close 1).lines = [Sample.Gap.gap] := by decide
  rw [hlines, List.mem_singleton] at hl
  -- The empty line has no character at all.
  rw [hl] at hword
  exact absurd hword (by decide)

end Breadcrumb.Packing
