/-
  Breadcrumb.Proofs.Packing.Run
  ─────────────────────────────
  **WHAT ONE LINE DOES, AND WHAT A RUN PASSES THROUGH.**

  All that is proved of packing is proved of plans with an integer budget and a
  tokenizer that never fails (`Plan.Regular`).  For such a plan a line does one of
  three things (`Steps`):

      stay — it is within the limit and goes into the piece at hand
      turn — it is over the limit, but nothing has been kept yet
      cut  — it is over the limit, and the piece at hand is closed before it

  `step_eq_ok_iff` says that these are all there is.  `Reach` collects the states
  and pieces that a run passes through, line by line; an invariant of packing is
  an induction over it.  Every piece is closed from a state that was reached
  (`Closed`), so what holds of the piece at hand holds of all pieces.
-/
import Mathlib
import Breadcrumb.Packing.Packer
import Breadcrumb.Proofs.Text.Pieces

namespace Breadcrumb.Packing

open Breadcrumb.Number Breadcrumb.Text Breadcrumb.Tokens

/-! ## §1. Lines by number. -/

/-- The number of a line, counted from one. -/
def Line.number (l : Line) : Nat := l.row + 1

/-- The lines of a text with their tokens. -/
def measuredLines (t : String → Int) (contents : String) : List Line :=
  (lines contents).mapIdx fun row text => ⟨row, text, t text⟩

/-- The lines that do not fill the budget alone. -/
def fitting (B : Int) (ls : List Line) : List Line := ls.filter (·.tokens < B)

/-- The tokens of lines, and one for each newline. -/
def cost (ls : List Line) : Int := (ls.map fun l => l.tokens + 1).sum

/-- Each line stands in its row. -/
def InRows (ls : List Line) : Prop := ∀ (i : Nat) (l : Line), ls[i]? = some l → l.row = i

@[simp] theorem cost_nil : cost [] = 0 := rfl

@[simp] theorem cost_singleton (l : Line) : cost [l] = l.tokens + 1 := by simp [cost]

@[simp] theorem cost_append (ls ms : List Line) : cost (ls ++ ms) = cost ls + cost ms := by
  simp [cost]

/-- The cost of lines is not negative if no line's tokens are. -/
theorem cost_nonneg {ls : List Line} (h : ∀ l ∈ ls, 0 ≤ l.tokens) : 0 ≤ cost ls := by
  unfold cost
  apply List.sum_nonneg
  intro n hn
  obtain ⟨l, hl, rfl⟩ := List.mem_map.mp hn
  have htokens := h l hl
  omega

@[simp] theorem fitting_append (B : Int) (ls ms : List Line) :
    fitting B (ls ++ ms) = fitting B ls ++ fitting B ms := by
  simp [fitting]

theorem fitting_of_lt {B : Int} {l : Line} (h : l.tokens < B) : fitting B [l] = [l] := by
  simp [fitting, h]

theorem fitting_of_le {B : Int} {l : Line} (h : B ≤ l.tokens) : fitting B [l] = [] := by
  simp [fitting, h]

@[simp] theorem length_measuredLines (t : String → Int) (contents : String) :
    (measuredLines t contents).length = (lines contents).length := by
  simp [measuredLines]

theorem inRows_measuredLines (t : String → Int) (contents : String) :
    InRows (measuredLines t contents) := by
  intro i l h
  simp only [measuredLines, List.getElem?_mapIdx, Option.map_eq_some_iff] at h
  obtain ⟨text, -, rfl⟩ := h
  rfl

theorem tokens_of_mem_measuredLines {t : String → Int} {contents : String} {l : Line}
    (h : l ∈ measuredLines t contents) : l.tokens = t l.text := by
  simp only [measuredLines, List.mem_mapIdx] at h
  obtain ⟨i, hi, rfl⟩ := h
  rfl

theorem text_mem_of_mem_measuredLines {t : String → Int} {contents : String} {l : Line}
    (h : l ∈ measuredLines t contents) : l.text ∈ lines contents := by
  simp only [measuredLines, List.mem_mapIdx] at h
  obtain ⟨i, hi, rfl⟩ := h
  exact List.getElem_mem hi

theorem InRows.of_append {ls ms : List Line} (h : InRows (ls ++ ms)) : InRows ls := by
  intro i l hl
  obtain ⟨hi, -⟩ := List.getElem?_eq_some_iff.mp hl
  exact h i l (by rw [List.getElem?_append_left hi]; exact hl)

theorem InRows.row_eq {ls ms : List Line} {l : Line} (h : InRows (ls ++ l :: ms)) :
    l.row = ls.length :=
  h ls.length l (by simp)

theorem InRows.number_succ {ls ms : List Line} {l k : Line} (h : InRows (ls ++ l :: k :: ms)) :
    k.number = l.number + 1 := by
  have hl := h ls.length l (by simp)
  have hk := h (ls.length + 1) k (by simp)
  unfold Line.number
  omega

theorem InRows.number_le {ls : List Line} (h : InRows ls) {l : Line} (hl : l ∈ ls) :
    l.number ≤ ls.length := by
  obtain ⟨i, hi, rfl⟩ := List.mem_iff_getElem.mp hl
  have hrow := h i ls[i] (List.getElem?_eq_getElem hi)
  unfold Line.number
  omega

/-- The line that follows the lines `ls` by its number is the next one. -/
theorem InRows.eq_cons_of_number {ls ms : List Line} (h : InRows (ls ++ ms)) {l : Line}
    (hl : l ∈ ls ++ ms) (hnumber : l.number = ls.length + 1) : ∃ more, ms = l :: more := by
  obtain ⟨i, hi⟩ := List.mem_iff_getElem?.mp hl
  have hrow := h i l hi
  unfold Line.number at hnumber
  have hlength : i = ls.length := by omega
  rw [hlength, List.getElem?_append_right (Nat.le_refl _), Nat.sub_self] at hi
  cases ms with
  | nil => simp at hi
  | cons m more =>
    rw [List.getElem?_cons_zero, Option.some.injEq] at hi
    exact ⟨more, by rw [hi]⟩

/-! ## §2. Regular plans. -/

/-- A plan with the integer budget `B` whose tokenizer never fails and counts as `t`. -/
structure Plan.Regular (p : Plan) (t : String → Int) (B : Int) : Prop where
  count : ∀ s, p.count s = .ok (t s)
  budget : p.budget = .whole B

variable {p : Plan} {t : String → Int} {B : Int}

section Fields

variable {s : State} {l : Line} {row : Nat}

@[simp] theorem State.collect_start : (s.collect p row).start = s.start := rfl

@[simp] theorem State.collect_kept : (s.collect p row).kept = s.kept := rfl

@[simp] theorem State.collect_used : (s.collect p row).used = s.used := rfl

@[simp] theorem State.collect_crumbs :
    (s.collect p row).crumbs = (p.scope.collect p.root row s.cursor).1 := rfl

@[simp] theorem State.collect_cursor :
    (s.collect p row).cursor = (p.scope.collect p.root row s.cursor).2 := rfl

@[simp] theorem State.reopen_start : (s.reopen row).start = row + 1 := rfl

@[simp] theorem State.reopen_kept : (s.reopen row).kept = [] := rfl

@[simp] theorem State.reopen_used : (s.reopen row).used = 0 := rfl

@[simp] theorem State.take_start : (s.take p l).start = s.start := by
  unfold State.take
  split <;> rfl

@[simp] theorem State.take_crumbs : (s.take p l).crumbs = s.crumbs := by
  unfold State.take
  split <;> rfl

@[simp] theorem State.take_cursor : (s.take p l).cursor = s.cursor := by
  unfold State.take
  split <;> rfl

/-- A line is kept unless it fills the budget alone. -/
theorem State.take_kept (h : p.Regular t B) : (s.take p l).kept = s.kept ++ fitting B [l] := by
  unfold State.take
  rw [h.budget, Quantity.below_whole]
  by_cases hl : l.tokens < B
  · simp [hl, fitting]
  · simp [hl, fitting]

/-- A line that is kept is counted with its newline. -/
theorem State.take_used (h : p.Regular t B) :
    (s.take p l).used = s.used + cost (fitting B [l]) := by
  unfold State.take
  rw [h.budget, Quantity.below_whole]
  by_cases hl : l.tokens < B
  · simp [hl, fitting, Int.add_assoc]
  · simp [hl, fitting]

end Fields

/-! ## §3. One line. -/

/-- The tokens of the piece at hand under its breadcrumb, with one more line. -/
def State.load (t : String → Int) (s : State) (l : Line) : Int :=
  t (Scope.breadcrumb s.crumbs) + s.used + l.tokens

/-- What one line does: the state after it, and the piece closed before it. -/
inductive Steps (p : Plan) (t : String → Int) (B : Int) (s : State) (l : Line) :
    State → Option Piece → Prop
  /-- The line is within the limit. -/
  | stay (within : s.load t l ≤ B - margin) : Steps p t B s l (s.take p l) none
  /-- The line is over the limit, and nothing has been kept. -/
  | turn (beyond : B - margin < s.load t l) (empty : s.kept = []) :
      Steps p t B s l ((s.collect p l.row).take p l) none
  /-- The line is over the limit, and what has been kept is closed. -/
  | cut (beyond : B - margin < s.load t l) (filled : s.kept ≠ []) :
      Steps p t B s l (((s.reopen l.row).collect p l.row).take p l) (some (s.close l.row))

/-- **The rules are what `step` does.** -/
theorem step_eq_ok_iff (h : p.Regular t B) {s s' : State} {l : Line} {out : Option Piece} :
    step p s l = .ok (s', out) ↔ Steps p t B s l s' out := by
  have hlimit : p.limit = .whole (B - margin) := by
    rw [Plan.limit, h.budget, Quantity.less_whole]
  have hload : s.used + l.tokens + t (Scope.breadcrumb s.crumbs) = s.load t l := by
    unfold State.load
    omega
  simp only [step, h.count, hlimit, hload, Quantity.exceeds_whole, decide_eq_true_eq,
    List.isEmpty_iff]
  constructor
  · intro hs
    split at hs
    next beyond =>
      split at hs
      next empty =>
        simp only [Except.ok.injEq, Prod.mk.injEq] at hs
        obtain ⟨rfl, rfl⟩ := hs
        exact .turn beyond empty
      next filled =>
        simp only [Except.ok.injEq, Prod.mk.injEq] at hs
        obtain ⟨rfl, rfl⟩ := hs
        exact .cut beyond filled
    next within =>
      simp only [Except.ok.injEq, Prod.mk.injEq] at hs
      obtain ⟨rfl, rfl⟩ := hs
      exact .stay (by omega)
  · intro hs
    cases hs with
    | stay within => rw [if_neg (by omega)]
    | turn beyond empty => rw [if_pos beyond, if_pos empty]
    | cut beyond filled => rw [if_pos beyond, if_neg filled]

/-- No line makes a regular plan fail. -/
theorem exists_step (h : p.Regular t B) (s : State) (l : Line) :
    ∃ s' out, step p s l = .ok (s', out) := by
  unfold step
  rw [h.count]
  split
  next hk => exact absurd hk (by simp)
  next =>
    split
    · split <;> exact ⟨_, _, rfl⟩
    · exact ⟨_, _, rfl⟩

/-- The last piece holds what is kept, unless that is blank. -/
theorem finish_cases (s : State) (n : Nat) :
    ((∀ l ∈ s.kept, allBlank l.text = true) ∧ finish s n = none)
      ∨ ((∃ l ∈ s.kept, allBlank l.text = false) ∧ finish s n = some (s.close n)) := by
  unfold finish
  cases h : s.kept.all (allBlank ·.text) with
  | true => exact .inl ⟨List.all_eq_true.mp h, rfl⟩
  | false =>
    obtain ⟨l, hl, hb⟩ := List.all_eq_false.mp h
    exact .inr ⟨⟨l, hl, by simpa using hb⟩, rfl⟩

/-! ## §4. A run. -/

/-- Reading the lines `done`, the first of a file, has closed the pieces and left the state. -/
inductive Reach (p : Plan) (t : String → Int) (B : Int) :
    List Line → State → List Piece → Prop
  /-- Nothing has been read. -/
  | start : Reach p t B [] {} []
  /-- One more line is read. -/
  | read {done : List Line} {s s' : State} {pieces : List Piece} {l : Line}
      {out : Option Piece} (before : Reach p t B done s pieces)
      (steps : Steps p t B s l s' out) : Reach p t B (done ++ [l]) s' (pieces ++ out.toList)

/-- What is used are the tokens of what is kept. -/
theorem Reach.used_eq (hp : p.Regular t B) {done : List Line} {s : State} {pieces : List Piece}
    (h : Reach p t B done s pieces) :
    s.used = cost s.kept := by
  induction h with
  | start => rfl
  | read before steps ih =>
    cases steps with
    | stay within => rw [State.take_used hp, State.take_kept hp, cost_append, ih]
    | turn beyond empty =>
      rw [State.take_used hp, State.take_kept hp, cost_append, State.collect_used,
        State.collect_kept, ih]
    | cut beyond filled =>
      rw [State.take_used hp, State.take_kept hp, cost_append, State.collect_used,
        State.collect_kept, State.reopen_used, State.reopen_kept, cost_nil]

/-- The lines of the pieces closed and the lines kept are all lines that fit, each once and in
order. -/
theorem Reach.flatMap_lines (hp : p.Regular t B) {done : List Line} {s : State}
    {pieces : List Piece} (h : Reach p t B done s pieces) :
    pieces.flatMap Piece.lines ++ s.kept = fitting B done := by
  induction h with
  | start => rfl
  | read before steps ih =>
    rw [fitting_append, ← ih]
    cases steps with
    | stay within => rw [State.take_kept hp, Option.toList_none, List.append_nil, List.append_assoc]
    | turn beyond empty =>
      rw [State.take_kept hp, State.collect_kept, Option.toList_none, List.append_nil,
        List.append_assoc]
    | cut beyond filled =>
      -- What was kept is now the body of the last piece.
      rw [State.take_kept hp, State.collect_kept, State.reopen_kept, Option.toList_some,
        List.flatMap_append, List.flatMap_singleton, List.nil_append]
      rfl

theorem Reach.mem_of_kept (hp : p.Regular t B) {done : List Line} {s : State}
    {pieces : List Piece} (h : Reach p t B done s pieces) {l : Line} (hl : l ∈ s.kept) :
    l ∈ done := by
  have hfitting : l ∈ fitting B done := by
    rw [← h.flatMap_lines hp]
    exact List.mem_append_right _ hl
  exact List.mem_of_mem_filter hfitting

theorem Reach.used_nonneg (hp : p.Regular t B) {done : List Line} {s : State}
    {pieces : List Piece} (h : Reach p t B done s pieces) (htokens : ∀ l ∈ done, 0 ≤ l.tokens) :
    0 ≤ s.used := by
  rw [h.used_eq hp]
  exact cost_nonneg fun l hl => htokens l (h.mem_of_kept hp hl)

/-- Where a piece of a file comes from: lines of the file have been read and some are kept, and
the line after them, if there is one, is over the limit. -/
def Closed (p : Plan) (t : String → Int) (B : Int) (file : List Line) (q : Piece) : Prop :=
  ∃ done rest s pieces, file = done ++ rest ∧ Reach p t B done s pieces ∧ s.kept ≠ []
    ∧ q = s.close done.length ∧ ∀ l more, rest = l :: more → B - margin < s.load t l

/-- **Every piece closed on the way was closed before a line that was over the limit.** -/
theorem Reach.exists_cut {done : List Line} {s : State} {pieces : List Piece}
    (h : Reach p t B done s pieces) {q : Piece} (hq : q ∈ pieces) :
    ∃ before l after s' pieces', done = before ++ l :: after ∧ Reach p t B before s' pieces'
      ∧ s'.kept ≠ [] ∧ q = s'.close l.row ∧ B - margin < s'.load t l := by
  induction h with
  | start => exact absurd hq List.not_mem_nil
  | @read done s s' pieces l out before steps ih =>
    rcases List.mem_append.mp hq with hq | hq
    · -- It had been closed before this line was read.
      obtain ⟨lines, k, after, s'', pieces', hdone, hcut⟩ := ih hq
      refine ⟨lines, k, after ++ [l], s'', pieces', ?_, hcut⟩
      rw [hdone, List.append_assoc, List.cons_append]
    · cases steps with
      | stay within => exact absurd hq List.not_mem_nil
      | turn beyond empty => exact absurd hq List.not_mem_nil
      | cut beyond filled =>
        rw [Option.toList_some, List.mem_singleton] at hq
        exact ⟨done, l, [], s, pieces, rfl, before, filled, hq, beyond⟩

/-- **Every piece closed on the way comes from a state on the way**, however the file goes on. -/
theorem Reach.closed {done : List Line} {s : State} {pieces : List Piece}
    (h : Reach p t B done s pieces) (hrows : InRows done) (more : List Line) :
    ∀ q ∈ pieces, Closed p t B (done ++ more) q := by
  intro q hq
  obtain ⟨before, l, after, s', pieces', rfl, hreach, filled, rfl, beyond⟩ := h.exists_cut hq
  refine ⟨before, l :: after ++ more, s', pieces', List.append_assoc _ _ _, hreach, filled, ?_, ?_⟩
  · rw [hrows.row_eq]
  · intro k rest hk
    rw [← (List.cons.inj hk).1]
    exact beyond

/-- From a state that is reached, a run goes on to a state that is reached, and its pieces are
those closed on the way and the last one. -/
theorem packFrom_eq (h : p.Regular t B) (n : Nat) :
    ∀ (rest done : List Line) (s : State) (pieces : List Piece),
      Reach p t B done s pieces →
      ∃ s' more, Reach p t B (done ++ rest) s' (pieces ++ more)
        ∧ packFrom p n s rest = ⟨more ++ (finish s' n).toList, none⟩
  | [], done, s, pieces, hr => by
      refine ⟨s, [], ?_, rfl⟩
      rw [List.append_nil, List.append_nil]
      exact hr
  | l :: rest, done, s, pieces, hr => by
      obtain ⟨s', out, hstep⟩ := exists_step h s l
      have hnext := hr.read ((step_eq_ok_iff h).mp hstep)
      obtain ⟨s'', more, hreach, hrun⟩ := packFrom_eq h n rest _ s' _ hnext
      refine ⟨s'', out.toList ++ more, ?_, ?_⟩
      · rw [← List.append_assoc, List.append_cons done l rest]
        exact hreach
      · unfold packFrom
        rw [hstep]
        cases out with
        | none => exact hrun
        | some piece =>
          show (packFrom p n s' rest).push piece = _
          rw [hrun]
          rfl

/-- **A complete run ends, and the last piece is what its last state leaves.** -/
theorem pack_eq (h : p.Regular t B) (ls : List Line) :
    ∃ s pieces, Reach p t B ls s pieces
      ∧ pack p ls = ⟨pieces ++ (finish s ls.length).toList, none⟩ := by
  obtain ⟨s, pieces, hreach, hrun⟩ := packFrom_eq h ls.length ls [] {} [] .start
  exact ⟨s, pieces, hreach, hrun⟩

theorem packFrom_cons_of_steps (hp : p.Regular t B) (n : Nat) {s s' : State} {l : Line}
    {out : Option Piece} (h : Steps p t B s l s' out) (rest : List Line) :
    (packFrom p n s (l :: rest)).pieces = out.toList ++ (packFrom p n s' rest).pieces := by
  rw [packFrom, (step_eq_ok_iff hp).mpr h]
  cases out with
  | none => rfl
  | some piece => rfl

/-- **A run passes through every state that is reached.** -/
theorem Reach.packFrom_append (hp : p.Regular t B) (n : Nat) {done : List Line} {s : State}
    {pieces : List Piece} (h : Reach p t B done s pieces) :
    ∀ rest, (packFrom p n {} (done ++ rest)).pieces = pieces ++ (packFrom p n s rest).pieces := by
  induction h with
  | start => exact fun _ => rfl
  | @read done s s' pieces l out before steps ih =>
    intro rest
    rw [← List.append_cons, ih, packFrom_cons_of_steps hp n steps, List.append_assoc]

/-! ## §5. A file. -/

/-- Counting that never fails gives every line its tokens. -/
theorem countFrom_eq {count : Tokenizer} {t : String → Int} (h : ∀ s, count s = .ok (t s)) :
    ∀ (texts : List String) (row : Nat),
      countFrom count row texts
        = .ok (texts.mapIdx fun i text => ⟨row + i, text, t text⟩)
  | [], row => rfl
  | text :: texts, row => by
      unfold countFrom
      rw [h, countFrom_eq h texts (row + 1)]
      simp only [List.mapIdx_cons, Nat.add_zero, Except.ok.injEq, List.cons.injEq, true_and]
      congr 1
      funext i text
      rw [Nat.add_assoc, Nat.add_comm 1 i]

theorem countLines_eq {count : Tokenizer} {t : String → Int} (h : ∀ s, count s = .ok (t s))
    (contents : String) :
    countLines count (lines contents) = .ok (measuredLines t contents) := by
  unfold countLines measuredLines
  rw [countFrom_eq h]
  simp only [Nat.zero_add]

theorem checkBudget_whole {B : Int} (h : 0 < B) : checkBudget (.whole B) = .ok () := by
  unfold checkBudget
  rw [Quantity.notPositive_whole, decide_eq_false (by omega)]
  rfl

/-- What a complete run over a file gave: nothing for a file of blanks, and otherwise the pieces
closed on the way to the last state, and the last one. -/
def Completed (p : Plan) (t : String → Int) (B : Int) (contents : String)
    (pieces : List Piece) : Prop :=
  (allBlank contents = true ∧ pieces = [])
    ∨ ∃ s before, Reach p t B (measuredLines t contents) s before
        ∧ pieces = before ++ (finish s (measuredLines t contents).length).toList

/-- **Every piece of a complete run comes from a state on the way.** -/
theorem Completed.closed {contents : String} {pieces : List Piece}
    (h : Completed p t B contents pieces) :
    ∀ q ∈ pieces, Closed p t B (measuredLines t contents) q := by
  rcases h with ⟨-, rfl⟩ | ⟨s, before, hreach, rfl⟩
  · intro q hq
    exact absurd hq List.not_mem_nil
  · intro q hq
    rcases List.mem_append.mp hq with hq | hq
    · rw [← List.append_nil (measuredLines t contents)]
      exact hreach.closed (inRows_measuredLines t contents) [] q hq
    · rcases finish_cases s (measuredLines t contents).length with
        ⟨-, hfinish⟩ | ⟨⟨k, hk, -⟩, hfinish⟩
      · rw [hfinish] at hq
        exact absurd hq List.not_mem_nil
      · -- The last piece is closed at the end of the file.
        rw [hfinish, Option.toList_some, List.mem_singleton] at hq
        refine ⟨_, [], s, before, (List.append_nil _).symm, hreach, List.ne_nil_of_mem hk, hq, ?_⟩
        intro l more hl
        exact absurd hl (List.cons_ne_nil l more).symm

theorem Completed.pieces_eq (hp : p.Regular t B) {contents : String} {pieces : List Piece}
    (h : Completed p t B contents pieces) (hfilled : allBlank contents = false) :
    pieces
      = (packFrom p (measuredLines t contents).length {} (measuredLines t contents)).pieces := by
  rcases h with ⟨hblank, -⟩ | ⟨s, before, hreach, rfl⟩
  · rw [hfilled] at hblank
    exact absurd hblank Bool.false_ne_true
  · have hrun := hreach.packFrom_append hp (measuredLines t contents).length []
    rw [List.append_nil] at hrun
    rw [hrun]
    rfl

/-- **EVERY RUN IS COMPLETED.**  With a positive budget, a tree and a tokenizer that never fails,
a file is packed without a failure. -/
theorem chunkFile_completed {c : Chunker} {path : Path} {contents : String} {root : Node}
    {t : String → Int} {B : Int} (hB : 0 < B) (hparse : c.parse path contents = .ok (some root))
    (hcount : ∀ s, c.count s = .ok (t s)) :
    ∃ r, c.chunkFile ⟨path, contents, .whole B⟩ = .ok r ∧ r.failure = none
      ∧ Completed (c.plan ⟨path, contents, .whole B⟩ root) t B contents r.pieces := by
  have hregular : (c.plan ⟨path, contents, .whole B⟩ root).Regular t B := ⟨hcount, rfl⟩
  have hcheck : c.chunkFile ⟨path, contents, .whole B⟩
      = .ok (c.run ⟨path, contents, .whole B⟩) := by
    unfold Chunker.chunkFile
    rw [checkBudget_whole hB]
    rfl
  refine ⟨_, hcheck, ?_⟩
  cases hblank : allBlank contents with
  | true =>
    simp only [Chunker.run, hblank, if_true]
    exact ⟨trivial, .inl ⟨hblank, rfl⟩⟩
  | false =>
    obtain ⟨s, before, hreach, hrun⟩ := pack_eq hregular (measuredLines t contents)
    simp only [Chunker.run, hblank, hparse, countLines_eq hcount, hrun, Bool.false_eq_true,
      if_false]
    exact ⟨trivial, .inr ⟨s, before, hreach, rfl⟩⟩

/-- A run that leaves a line that is not blank closes it at the end of the file. -/
theorem chunkFile_of_reach {c : Chunker} {path : Path} {contents : String} {root : Node}
    {t : String → Int} {B : Int} (hB : 0 < B) (hparse : c.parse path contents = .ok (some root))
    (hcount : ∀ s, c.count s = .ok (t s)) (hfilled : allBlank contents = false)
    {s : State} {before : List Piece} {k : Line}
    (hreach : Reach (c.plan ⟨path, contents, .whole B⟩ root) t B (measuredLines t contents)
      s before)
    (hk : k ∈ s.kept) (htext : allBlank k.text = false) :
    ∃ r, c.chunkFile ⟨path, contents, .whole B⟩ = .ok r
      ∧ r.pieces = before ++ [s.close (measuredLines t contents).length] := by
  have hregular : (c.plan ⟨path, contents, .whole B⟩ root).Regular t B := ⟨hcount, rfl⟩
  obtain ⟨r, hrun, -, hdone⟩ := chunkFile_completed hB hparse hcount
  refine ⟨r, hrun, ?_⟩
  have hpieces := hreach.packFrom_append hregular (measuredLines t contents).length []
  rw [List.append_nil] at hpieces
  rw [hdone.pieces_eq hregular hfilled, hpieces]
  rcases finish_cases s (measuredLines t contents).length with ⟨hblank, -⟩ | ⟨-, hlast⟩
  · rw [hblank k hk] at htext
    cases htext
  · show before ++ (finish s _).toList = _
    rw [hlast]
    rfl

end Breadcrumb.Packing
