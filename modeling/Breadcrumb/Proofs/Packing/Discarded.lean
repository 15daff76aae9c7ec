/-
  Breadcrumb.Proofs.Packing.Discarded
  ───────────────────────────────────
  **WHICH BREADCRUMBS ARE LOST.**

  A breadcrumb is collected for the line at a boundary, and the cursor moves on.
  The piece at hand keeps the breadcrumb from its first line kept to its end.  So
  a breadcrumb is lost only if its line is dropped and another one is collected
  before any line is kept, and that happens exactly if

      the line fills the budget alone, and
      the line after it is over the limit under the new breadcrumb

  (`Discarded`).  What is lost cannot be collected again, because the cursor is
  behind it.  In all other cases the first piece closed after the boundary shows
  exactly what was collected there (`chunkFile_shown_or_discarded`).
-/
import Breadcrumb.Proofs.Packing.Crumbs

namespace Breadcrumb.Packing

open Breadcrumb.Number Breadcrumb.Scope Breadcrumb.Text

variable {p : Plan} {t : String → Int} {B : Int}

/-! ## §1. What a run closes from a state on. -/

/-- **Once a line is kept, its breadcrumb is shown**: the first piece closed from then on has it. -/
theorem crumbs_of_kept (hp : p.Regular t B) (n : Nat) {q : Piece} {more : List Piece} :
    ∀ (rest : List Line) (s : State), s.kept ≠ [] →
      (packFrom p n s rest).pieces = q :: more → q.crumbs = s.crumbs
  | [], s, _, hq => by
      have hfinish : (finish s n).toList = q :: more := hq
      rcases finish_cases s n with ⟨-, hlast⟩ | ⟨-, hlast⟩
      · rw [hlast] at hfinish
        cases hfinish
      · rw [hlast] at hfinish
        rw [← (List.cons.inj hfinish).1]
        rfl
  | l :: rest, s, hkept, hq => by
      obtain ⟨s', out, hstep⟩ := exists_step hp s l
      have hsteps := (step_eq_ok_iff hp).mp hstep
      rw [packFrom_cons_of_steps hp n hsteps] at hq
      cases hsteps with
      | stay within =>
        -- The line is read under the same breadcrumb, and what is kept stays.
        rw [← State.take_crumbs (p := p) (l := l)]
        refine crumbs_of_kept hp n rest (s.take p l) ?_ hq
        rw [State.take_kept hp]
        exact List.append_ne_nil_of_left_ne_nil hkept _
      | turn beyond empty => exact absurd empty hkept
      | cut beyond filled =>
        -- The piece is closed before the line, with the breadcrumb it had.
        rw [← (List.cons.inj hq).1]
        rfl

/-! ## §2. Boundaries. -/

/-- In the run over a text a boundary is crossed at a line: the pieces have been closed by then, one
that is closed before the line itself included, and the captures are collected for the line. -/
inductive Crossing (p : Plan) (t : String → Int) (B : Int) (contents : String) :
    Line → List Piece → List Capture → Prop
  | cross {done rest : List Line} {s s' : State} {pieces : List Piece} {l : Line}
      {out : Option Piece} (filled : allBlank contents = false)
      (file : measuredLines t contents = done ++ l :: rest) (before : Reach p t B done s pieces)
      (beyond : B - margin < s.load t l) (steps : Steps p t B s l s' out) :
      Crossing p t B contents l (pieces ++ out.toList)
        (p.scope.collect p.root l.row s.cursor).1

/-- A line is dropped, and the line after it is over the limit under the breadcrumb that was
collected for the first. -/
def Discarded (t : String → Int) (B : Int) (file : List Line) (l : Line) (crumbs : List Capture) :
    Prop :=
  B ≤ l.tokens ∧ ∃ k ∈ file, k.number = l.number + 1
    ∧ B - margin < crumbTokens t crumbs + k.tokens

/-- A boundary leaves what was collected for its line, and the line if it is kept. -/
theorem Steps.of_beyond (hp : p.Regular t B) {s s' : State} {l : Line} {out : Option Piece}
    (h : Steps p t B s l s' out) (beyond : B - margin < s.load t l) :
    s'.crumbs = (p.scope.collect p.root l.row s.cursor).1 ∧ s'.kept = fitting B [l] := by
  cases h with
  | stay within => omega
  | turn _ empty =>
    refine ⟨State.take_crumbs, ?_⟩
    rw [State.take_kept hp, State.collect_kept, empty, List.nil_append]
  | cut _ filled =>
    refine ⟨State.take_crumbs, ?_⟩
    rw [State.take_kept hp, State.collect_kept, State.reopen_kept, List.nil_append]

/-- Behind a line that was dropped only the breadcrumb is weighed with the next line. -/
theorem Reach.load_eq (hp : p.Regular t B) {done : List Line} {s : State} {pieces : List Piece}
    (h : Reach p t B done s pieces) (hempty : s.kept = []) (l : Line) :
    s.load t l = crumbTokens t s.crumbs + l.tokens := by
  unfold State.load crumbTokens
  rw [h.used_eq hp, hempty, cost_nil, Int.add_zero]

theorem pieces_eq_nil_of_empty (n : Nat) {s : State} (hempty : s.kept = []) :
    (packFrom p n s []).pieces = [] := by
  show (finish s n).toList = []
  rcases finish_cases s n with ⟨-, hlast⟩ | ⟨⟨k, hk, -⟩, -⟩
  · rw [hlast]
    rfl
  · rw [hempty] at hk
    exact absurd hk List.not_mem_nil

/-- A line that is within the limit under the breadcrumb alone is kept, and the breadcrumb shown. -/
theorem crumbs_of_within (hp : p.Regular t B) (hnonneg : ∀ s, 0 ≤ t s) (n : Nat)
    {done rest : List Line} {s : State} {pieces : List Piece} {k : Line}
    (hreach : Reach p t B done s pieces) (hempty : s.kept = [])
    (hwithin : crumbTokens t s.crumbs + k.tokens ≤ B - margin) {q : Piece} {more : List Piece}
    (hq : (packFrom p n s (k :: rest)).pieces = q :: more) : q.crumbs = s.crumbs := by
  have hcrumbs : 0 ≤ crumbTokens t s.crumbs := hnonneg _
  have hfits : k.tokens < B := by
    unfold margin at hwithin
    omega
  rw [← hreach.load_eq hp hempty] at hwithin
  rw [packFrom_cons_of_steps hp n (.stay hwithin)] at hq
  rw [← State.take_crumbs (p := p) (l := k)]
  refine crumbs_of_kept hp n rest (s.take p k) ?_ hq
  rw [State.take_kept hp, fitting_of_lt hfits]
  exact List.append_ne_nil_of_right_ne_nil _ (List.cons_ne_nil k [])

/-- **What is not discarded is shown** by the first piece closed after the boundary. -/
theorem crumbs_of_not_discarded (hp : p.Regular t B) (hnonneg : ∀ s, 0 ≤ t s) (n : Nat)
    {done rest : List Line} {s : State} {pieces : List Piece} {l : Line}
    (hreach : Reach p t B (done ++ [l]) s pieces) (hkept : s.kept = fitting B [l])
    (hrows : InRows (done ++ l :: rest))
    (hkeeps : ¬ Discarded t B (done ++ l :: rest) l s.crumbs) {q : Piece} {more : List Piece}
    (hq : (packFrom p n s rest).pieces = q :: more) :
    q.crumbs = s.crumbs := by
  by_cases hfits : l.tokens < B
  · -- The line itself is kept.
    refine crumbs_of_kept hp n rest s ?_ hq
    rw [hkept, fitting_of_lt hfits]
    exact List.cons_ne_nil l []
  · rw [fitting_of_le (by omega)] at hkept
    cases rest with
    | nil =>
      -- The line was the last one, so that no piece is closed after the boundary.
      rw [pieces_eq_nil_of_empty n hkept] at hq
      cases hq
    | cons k rest =>
      -- The line is dropped, so that the next one must be within the limit.
      refine crumbs_of_within hp hnonneg n hreach hkept ?_ hq
      by_contra hbeyond
      refine hkeeps ⟨by omega, k, ?_, hrows.number_succ, by omega⟩
      exact List.mem_append_right done (List.mem_cons_of_mem l List.mem_cons_self)

/-- **What is discarded is behind the cursor of all that is shown later.** -/
theorem lt_startRow_of_discarded (hp : p.Regular t B) (hnested : p.root.Nested) (n : Nat)
    {done rest : List Line} {s : State} {pieces : List Piece} {l : Line}
    (hreach : Reach p t B (done ++ [l]) s pieces) (hkept : s.kept = fitting B [l])
    (hrows : InRows (done ++ l :: rest))
    (hlost : Discarded t B (done ++ l :: rest) l s.crumbs) :
    ∀ q ∈ (packFrom p n s rest).pieces, ∀ a ∈ q.crumbs, s.cursor < a.node.span.startRow := by
  obtain ⟨hdropped, k, hk, hnumber, hbeyond⟩ := hlost
  rw [fitting_of_le hdropped] at hkept
  rw [List.append_cons] at hk hrows
  have hrow : l.row = done.length := hrows.of_append.row_eq
  obtain ⟨rest, rfl⟩ := hrows.eq_cons_of_number hk (by
    rw [hnumber, List.length_append, List.length_singleton]
    unfold Line.number
    omega)
  -- The next line crosses a boundary too, with nothing kept.
  rw [← hreach.load_eq hp hkept] at hbeyond
  have hsteps : Steps p t B s k ((s.collect p k.row).take p k) none := .turn hbeyond hkept
  have hcollect : Rising s.cursor ((s.collect p k.row).take p k).crumbs
      ((s.collect p k.row).take p k).cursor := by
    rw [State.take_crumbs, State.take_cursor]
    exact rising_collect hnested s.cursor
  obtain ⟨last, hrising⟩ := rising_packFrom hnested n rest _ hcollect
  intro q hq a ha
  rw [packFrom_cons_of_steps hp n hsteps] at hq
  exact (hrising.bounds (List.mem_flatMap.mpr ⟨q, hq, ha⟩)).1

/-- What has been shown and what the piece at hand holds stand behind one another. -/
theorem Reach.rising (hp : p.Regular t B) (hnested : p.root.Nested) {done : List Line} {s : State}
    {pieces : List Piece} (h : Reach p t B done s pieces) :
    ∃ middle, Rising (-1) (pieces.flatMap Piece.crumbs) middle
      ∧ Rising middle s.crumbs s.cursor := by
  induction h with
  | start => exact ⟨-1, Int.le_refl (-1), Int.le_refl (-1)⟩
  | read before steps ih =>
    obtain ⟨middle, hpieces, hstate⟩ := ih
    obtain ⟨later, hout, hnext⟩ := rising_step hnested ((step_eq_ok_iff hp).mpr steps) hstate
    refine ⟨later, ?_, hnext⟩
    rw [List.flatMap_append]
    exact hpieces.append hout

/-! ## §3. A file. -/

/-- **THE SHOWN-OR-DISCARDED THEOREM.**  For every text, nested tree, positive budget and tokenizer
that neither fails nor gives a negative number, a run over the text succeeds.  Wherever it crosses a
boundary, the first chunk after it shows exactly the captures collected there, unless they are
discarded; and those that are discarded are shown by no chunk of the run. -/
theorem chunkFile_shown_or_discarded {c : Chunker} {path : Path} {contents : String} {root : Node}
    {t : String → Int} {B : Int} (hB : 0 < B) (hparse : c.parse path contents = .ok (some root))
    (hcount : ∀ s, c.count s = .ok (t s)) (hnonneg : ∀ s, 0 ≤ t s) (hnested : root.Nested) :
    ∃ r, c.chunkFile ⟨path, contents, .whole B⟩ = .ok r ∧ r.failure = none
      ∧ ∀ l closed crumbs,
          Crossing (c.plan ⟨path, contents, .whole B⟩ root) t B contents l closed crumbs →
          ∃ later, r.pieces = closed ++ later
            ∧ (¬ Discarded t B (measuredLines t contents) l crumbs →
                ∀ q more, later = q :: more → q.crumbs = crumbs)
            ∧ (Discarded t B (measuredLines t contents) l crumbs →
                ∀ q ∈ r.pieces, ∀ a ∈ crumbs, a ∉ q.crumbs) := by
  obtain ⟨r, hrun, hok, hdone⟩ := chunkFile_completed hB hparse hcount
  have hregular : (c.plan ⟨path, contents, .whole B⟩ root).Regular t B := ⟨hcount, rfl⟩
  have hrows := inRows_measuredLines t contents
  refine ⟨r, hrun, hok, ?_⟩
  rintro l _ _ @⟨done, rest, s, s', pieces, l, out, filled, file, before, beyond, steps⟩
  have hpieces := hdone.pieces_eq hregular filled
  have hreach := before.read steps
  obtain ⟨hcrumbs, hkept⟩ := steps.of_beyond hregular beyond
  -- The run passes through the state behind the boundary, and goes on from there.
  rw [file, List.append_cons, hreach.packFrom_append hregular, ← List.append_cons] at hpieces
  rw [file] at hrows ⊢
  rw [← hcrumbs]
  refine ⟨_, hpieces, ?_, ?_⟩
  · intro hkeeps q more hq
    exact crumbs_of_not_discarded hregular hnonneg _ hreach hkept hrows hkeeps hq
  · intro hlost q hq a ha hshown
    obtain ⟨middle, hclosed, hstate⟩ := hreach.rising hregular hnested
    have hbounds := hstate.bounds ha
    rw [hpieces] at hq
    rcases List.mem_append.mp hq with hq | hq
    · -- What was closed before the boundary ends before the captures begin.
      have hbefore := hclosed.bounds (List.mem_flatMap.mpr ⟨q, hq, hshown⟩)
      omega
    · have hafter := lt_startRow_of_discarded hregular hnested _ hreach hkept hrows hlost q hq a
        hshown
      omega

/-! ## §4. A breadcrumb that is lost. -/

namespace Sample.Wrapped

/-- A function whose first line takes ten words, and whose statement goes on in a second one. -/
def contents : String := "def f(): return (1 + 2 + 3 + 4\n    + 5 + 6)"

/-- The body begins in the first row, behind a signature of two words. -/
def tree : Node :=
  .node "module" ⟨0, 43, 0, 1⟩
    [.node "function_definition" ⟨0, 43, 0, 1⟩ [.node "block" ⟨9, 43, 0, 1⟩ []]]

def chunker : Chunker := ⟨fun _ _ => .ok (some tree), fun s => .ok (words s : Nat)⟩

/-- How it is packed under a budget of ten words, which its first line fills alone. -/
def plan : Plan := chunker.plan ⟨path, contents, .whole 10⟩ tree

def opening : Line := ⟨0, "def f(): return (1 + 2 + 3 + 4", 10⟩

def ending : Line := ⟨1, "    + 5 + 6)", 4⟩

/-- The state with the first line dropped, and the breadcrumb that was collected for it. -/
def waiting : State := (({} : State).collect plan 0).take plan opening

/-- The state with the second line kept, under what is collected for that one. -/
def bare : State := (waiting.collect plan 1).take plan ending

theorem nested : tree.Nested := ⟨by decide, by decide⟩

theorem filled : allBlank contents = false := by decide

theorem measuredLines_eq :
    measuredLines (fun s => (words s : Nat)) contents = [opening, ending] := by decide

theorem waiting_crumbs_eq : waiting.crumbs = (plan.scope.visit 0 tree (-1)).1 :=
  State.crumbs_eq_visit

theorem waiting_cursor_eq : waiting.cursor = (plan.scope.visit 0 tree (-1)).2 :=
  State.cursor_eq_visit

theorem waiting_headers : waiting.crumbs.map Capture.header = ["# def f():"] := by
  rw [waiting_crumbs_eq]
  decide

theorem bare_headers : bare.crumbs.map Capture.header = [] := by
  have hcrumbs : bare.crumbs = (plan.scope.visit 1 tree (plan.scope.visit 0 tree (-1)).2).1 := by
    rw [← waiting_cursor_eq]
    exact State.crumbs_eq_visit
  rw [hcrumbs]
  decide

theorem beyond_opening :
    (10 : Int) - margin < ({} : State).load (fun s => (words s : Nat)) opening := by
  decide

theorem steps_opening : Steps plan (fun s => (words s : Nat)) 10 {} opening waiting none :=
  .turn beyond_opening rfl

/-- Three words of breadcrumb and four of the line are over the limit of five, though not over the
budget, and nothing has been kept. -/
theorem steps_ending : Steps plan (fun s => (words s : Nat)) 10 waiting ending bare none := by
  refine .turn ?_ (by decide)
  unfold State.load
  rw [waiting_crumbs_eq]
  decide

theorem crossing :
    Crossing plan (fun s => (words s : Nat)) 10 contents opening ([] ++ [])
      (plan.scope.collect tree 0 (-1)).1 :=
  .cross filled measuredLines_eq .start beyond_opening steps_opening

/-- The run shows the second line without a breadcrumb. -/
theorem exists_chunkFile_eq :
    ∃ r, chunker.chunkFile ⟨path, contents, .whole 10⟩ = .ok r ∧ r.pieces = [bare.close 2] := by
  have hreach : Reach plan (fun s => (words s : Nat)) 10
      (measuredLines (fun s => (words s : Nat)) contents) bare [] := by
    rw [measuredLines_eq]
    exact (Reach.start.read steps_opening).read steps_ending
  obtain ⟨r, hrun, hpieces⟩ := chunkFile_of_reach (c := chunker) (k := ending) (by decide) rfl
    (fun _ => rfl) filled hreach (by decide) (by decide)
  rw [measuredLines_eq] at hpieces
  exact ⟨r, hrun, hpieces⟩

end Sample.Wrapped

/-- The sample under a budget of ten words, at the boundary before its first line. -/
theorem sample_shown_or_discarded :
    (0 : Int) < 10
      ∧ Sample.Wrapped.chunker.parse Sample.path Sample.Wrapped.contents
          = .ok (some Sample.Wrapped.tree)
      ∧ (∀ s, (0 : Int) ≤ (words s : Nat)) ∧ Sample.Wrapped.tree.Nested
      ∧ ∃ r, Sample.Wrapped.chunker.chunkFile ⟨Sample.path, Sample.Wrapped.contents, .whole 10⟩
          = .ok r
        ∧ r.failure = none
        ∧ ∃ later, r.pieces = [] ++ [] ++ later
          ∧ (¬ Discarded (fun s => (words s : Nat)) 10
                (measuredLines (fun s => (words s : Nat)) Sample.Wrapped.contents)
                Sample.Wrapped.opening
                (Sample.Wrapped.plan.scope.collect Sample.Wrapped.tree 0 (-1)).1 →
              ∀ q more, later = q :: more →
                q.crumbs = (Sample.Wrapped.plan.scope.collect Sample.Wrapped.tree 0 (-1)).1)
          ∧ (Discarded (fun s => (words s : Nat)) 10
                (measuredLines (fun s => (words s : Nat)) Sample.Wrapped.contents)
                Sample.Wrapped.opening
                (Sample.Wrapped.plan.scope.collect Sample.Wrapped.tree 0 (-1)).1 →
              ∀ q ∈ r.pieces,
                ∀ a ∈ (Sample.Wrapped.plan.scope.collect Sample.Wrapped.tree 0 (-1)).1,
                  a ∉ q.crumbs) := by
  obtain ⟨r, hrun, hok, hboundaries⟩ := @chunkFile_shown_or_discarded Sample.Wrapped.chunker
    Sample.path Sample.Wrapped.contents Sample.Wrapped.tree (fun s => (words s : Nat)) 10
    (by decide) rfl (fun _ => rfl) (fun _ => Int.natCast_nonneg _) Sample.Wrapped.nested
  exact ⟨by decide, rfl, fun _ => Int.natCast_nonneg _, Sample.Wrapped.nested, r, hrun, hok,
    hboundaries _ _ _ Sample.Wrapped.crossing⟩

/-- **A header that was collected at a boundary can be missing from the first chunk after it**, and
from all others: the first line is dropped, and the breadcrumb takes the line after it over the
limit, if not over the budget. -/
theorem exists_header_lost :
    ¬ ∀ (c : Chunker) (path : Path) (contents : String) (root : Node) (t : String → Int) (B : Int),
      0 < B → c.parse path contents = .ok (some root) → (∀ s, c.count s = .ok (t s)) →
      (∀ s, 0 ≤ t s) → root.Nested →
      ∀ r, c.chunkFile ⟨path, contents, .whole B⟩ = .ok r →
      ∀ l closed crumbs,
        Crossing (c.plan ⟨path, contents, .whole B⟩ root) t B contents l closed crumbs →
        ∀ q more, r.pieces = closed ++ q :: more →
          ∀ a ∈ crumbs, a.header ∈ q.crumbs.map Capture.header := by
  intro hclaim
  obtain ⟨r, hrun, hpieces⟩ := Sample.Wrapped.exists_chunkFile_eq
  have hshown := hclaim Sample.Wrapped.chunker Sample.path Sample.Wrapped.contents
    Sample.Wrapped.tree (fun s => (words s : Nat)) 10 (by decide) rfl (fun _ => rfl)
    (fun _ => Int.natCast_nonneg _) Sample.Wrapped.nested r hrun _ _ _ Sample.Wrapped.crossing
    (Sample.Wrapped.bare.close 2) [] hpieces
  have hempty : (Sample.Wrapped.bare.close 2).crumbs.map Capture.header = [] :=
    Sample.Wrapped.bare_headers
  -- So nothing can have been collected for the first line, but the function was.
  have hnone : Sample.Wrapped.waiting.crumbs.map Capture.header = [] := by
    rw [List.map_eq_nil_iff, List.eq_nil_iff_forall_not_mem]
    intro a ha
    rw [show Sample.Wrapped.waiting.crumbs = _ from State.take_crumbs] at ha
    have hmem := hshown a ha
    rw [hempty] at hmem
    exact List.not_mem_nil hmem
  rw [Sample.Wrapped.waiting_headers] at hnone
  exact List.cons_ne_nil _ _ hnone

end Breadcrumb.Packing
