/-
  Breadcrumb.Proofs.Packing.Crumbs
  ────────────────────────────────
  **NO DECLARATION IS SHOWN IN TWO CHUNKS.**

  The cursor of a run is the cursor of its breadcrumbs: a state holds captures
  that were collected behind those of the pieces closed before, and up to its
  cursor.  A line either leaves both as they are or collects from there on
  (`step_crumbs`), so that the captures of all pieces stand behind one another
  (`rising_packFrom`), with those left out that no piece was closed with.

  Nothing is asked of the tokenizer here.  A run that fails on the way has shown
  what it has shown.
-/
import Breadcrumb.Proofs.Packing.Budget
import Breadcrumb.Proofs.Scope.Cursor

namespace Breadcrumb.Packing

open Breadcrumb.Number Breadcrumb.Scope Breadcrumb.Text

variable {p : Plan} {t : String → Int} {B : Int}

/-! ## §1. One line. -/

section Visit

variable {s : State} {l : Line} {row : Nat}

theorem State.crumbs_eq_visit :
    ((s.collect p row).take p l).crumbs = (p.scope.visit row p.root s.cursor).1 := by
  rw [State.take_crumbs, State.collect_crumbs, collect_eq_visit]

theorem State.cursor_eq_visit :
    ((s.collect p row).take p l).cursor = (p.scope.visit row p.root s.cursor).2 := by
  rw [State.take_cursor, State.collect_cursor, collect_eq_visit]

end Visit

/-- A line leaves the breadcrumb as it is, or it collects a new one for itself; a piece is only
closed where it does. -/
theorem step_crumbs {s s' : State} {l : Line} {out : Option Piece}
    (h : step p s l = .ok (s', out)) :
    (out = none ∧ s'.crumbs = s.crumbs ∧ s'.cursor = s.cursor)
      ∨ ((out = none ∨ out = some (s.close l.row))
        ∧ s'.crumbs = (p.scope.collect p.root l.row s.cursor).1
        ∧ s'.cursor = (p.scope.collect p.root l.row s.cursor).2) := by
  unfold step at h
  split at h
  next => cases h
  next =>
    -- Over the limit a breadcrumb is collected, whether a piece is closed or not.
    split at h
    next =>
      split at h
      next =>
        simp only [Except.ok.injEq, Prod.mk.injEq] at h
        obtain ⟨rfl, rfl⟩ := h
        exact .inr ⟨.inl rfl, State.take_crumbs, State.take_cursor⟩
      next =>
        simp only [Except.ok.injEq, Prod.mk.injEq] at h
        obtain ⟨rfl, rfl⟩ := h
        exact .inr ⟨.inr rfl, State.take_crumbs, State.take_cursor⟩
    next =>
      simp only [Except.ok.injEq, Prod.mk.injEq] at h
      obtain ⟨rfl, rfl⟩ := h
      exact .inl ⟨rfl, State.take_crumbs, State.take_cursor⟩

/-- **One line keeps the captures behind one another**: those of the piece it closes first, then
those of the piece at hand. -/
theorem rising_step (hnested : p.root.Nested) {s s' : State} {l : Line} {out : Option Piece}
    (h : step p s l = .ok (s', out)) {first : Int} (hrising : Rising first s.crumbs s.cursor) :
    ∃ middle, Rising first (out.toList.flatMap Piece.crumbs) middle
      ∧ Rising middle s'.crumbs s'.cursor := by
  rcases step_crumbs h with ⟨rfl, hcrumbs, hcursor⟩ | ⟨hout, hcrumbs, hcursor⟩
  · rw [hcrumbs, hcursor]
    exact ⟨first, Int.le_refl first, hrising⟩
  · rw [hcrumbs, hcursor]
    have hcollect : Rising s.cursor (p.scope.collect p.root l.row s.cursor).1
        (p.scope.collect p.root l.row s.cursor).2 := rising_collect hnested s.cursor
    rcases hout with rfl | rfl
    · -- What the piece at hand held is forgotten.
      exact ⟨first, Int.le_refl first, hcollect.of_le hrising.le⟩
    · refine ⟨s.cursor, ?_, hcollect⟩
      rw [Option.toList_some, List.flatMap_singleton]
      exact hrising

/-! ## §2. A run. -/

/-- **The captures that a run shows stand behind one another.** -/
theorem rising_packFrom (hnested : p.root.Nested) (n : Nat) :
    ∀ (ls : List Line) (s : State) {first : Int}, Rising first s.crumbs s.cursor →
      ∃ last, Rising first ((packFrom p n s ls).pieces.flatMap Piece.crumbs) last
  | [], s, first, hrising => by
      show ∃ last, Rising first ((finish s n).toList.flatMap Piece.crumbs) last
      rcases finish_cases s n with ⟨-, hfinish⟩ | ⟨-, hfinish⟩
      · rw [hfinish]
        exact ⟨first, Int.le_refl first⟩
      · rw [hfinish, Option.toList_some, List.flatMap_singleton]
        exact ⟨s.cursor, hrising⟩
  | l :: ls, s, first, hrising => by
      unfold packFrom
      cases hstep : step p s l with
      | error f =>
        -- The run ends here, and what the piece at hand held is not shown.
        exact ⟨first, Int.le_refl first⟩
      | ok next =>
        obtain ⟨s', out⟩ := next
        obtain ⟨middle, hout, hstate⟩ := rising_step hnested hstep hrising
        obtain ⟨last, hrest⟩ := rising_packFrom hnested n ls s' hstate
        refine ⟨last, ?_⟩
        cases out with
        | none => exact hrest.of_le hout.le
        | some piece =>
          show Rising first ((piece :: (packFrom p n s' ls).pieces).flatMap Piece.crumbs) last
          rw [Option.toList_some, List.flatMap_singleton] at hout
          rw [List.flatMap_cons]
          exact hout.append hrest

/-- What holds of all that is collected holds of all that is shown. -/
theorem forall_crumbs_packFrom {P : Capture → Prop}
    (hcollect : ∀ (row : Nat) (cursor : Int),
      ∀ a ∈ (p.scope.collect p.root row cursor).1, P a) (n : Nat) :
    ∀ (ls : List Line) (s : State), (∀ a ∈ s.crumbs, P a) →
      ∀ q ∈ (packFrom p n s ls).pieces, ∀ a ∈ q.crumbs, P a
  | [], s, hstate, q, hq => by
      rcases finish_cases s n with ⟨-, hfinish⟩ | ⟨-, hfinish⟩
      · rw [packFrom, hfinish] at hq
        exact absurd hq List.not_mem_nil
      · rw [packFrom, hfinish, Option.toList_some, List.mem_singleton] at hq
        rw [hq]
        exact hstate
  | l :: ls, s, hstate, q, hq => by
      unfold packFrom at hq
      cases hstep : step p s l with
      | error f =>
        rw [hstep] at hq
        exact absurd hq List.not_mem_nil
      | ok next =>
        obtain ⟨s', out⟩ := next
        have hnext : ∀ a ∈ s'.crumbs, P a := by
          rcases step_crumbs hstep with ⟨-, hcrumbs, -⟩ | ⟨-, hcrumbs, -⟩
          · rw [hcrumbs]
            exact hstate
          · rw [hcrumbs]
            exact hcollect l.row s.cursor
        have hrest := forall_crumbs_packFrom hcollect n ls s' hnext
        rw [hstep] at hq
        cases out with
        | none => exact hrest q hq
        | some piece =>
          rcases List.mem_cons.mp hq with rfl | hq
          · -- The piece is the one that was at hand.
            rcases step_crumbs hstep with ⟨hout, -, -⟩ | ⟨hout | hout, -, -⟩
            · cases hout
            · cases hout
            · rw [Option.some.inj hout]
              exact hstate
          · exact hrest q hq

/-! ## §3. A file. -/

/-- What the breadcrumbs of chunks show. -/
structure ShownOnce (scope : Scope) (root : Node) (pieces : List Piece) : Prop where
  /-- They show headers of declarations of the tree. -/
  genuine : ∀ q ∈ pieces, ∀ a ∈ q.crumbs,
    ∃ n ∈ root.preorder, n.isDeclaration = true ∧ a = scope.capture n
  /-- From one to the next the declarations begin further down. -/
  rising : (pieces.flatMap Piece.crumbs).Pairwise fun a b =>
    a.node.span.startRow < b.node.span.startRow ∧ a.endRow < b.node.span.startRow
  /-- No declaration is in the breadcrumbs of two chunks. -/
  apart : pieces.Pairwise fun q r => ∀ a ∈ q.crumbs, ∀ b ∈ r.crumbs, a.node ≠ b.node

/-- A run over a file whose tree is known shows what packing its lines shows. -/
theorem run_pieces {c : Chunker} {j : Job} {root : Node}
    (hparse : c.parse j.path j.contents = .ok (some root)) :
    (c.run j).pieces = [] ∨ ∃ ls, (c.run j).pieces = (pack (c.plan j root) ls).pieces := by
  unfold Chunker.run
  cases allBlank j.contents with
  | true => exact .inl rfl
  | false =>
    rw [hparse]
    cases countLines c.count (lines j.contents) with
    | error f => exact .inl rfl
    | ok ls => exact .inr ⟨ls, rfl⟩

theorem eq_run_of_chunkFile {c : Chunker} {j : Job} {r : Report} (h : c.chunkFile j = .ok r) :
    r = c.run j := by
  unfold Chunker.chunkFile at h
  cases hbudget : checkBudget j.budget with
  | error f =>
    rw [hbudget] at h
    cases h
  | ok _ =>
    rw [hbudget] at h
    exact (Except.ok.inj h).symm

theorem shownOnce_pack (hnested : p.root.Nested) (ls : List Line) :
    ShownOnce p.scope p.root (pack p ls).pieces := by
  have hfresh : Rising (-1) ({} : State).crumbs ({} : State).cursor := Int.le_refl (-1)
  obtain ⟨last, hrising⟩ := rising_packFrom hnested ls.length ls {} hfresh
  refine ⟨?_, hrising.pairwise, ?_⟩
  · refine forall_crumbs_packFrom ?_ ls.length ls {} fun a ha => absurd ha List.not_mem_nil
    intro row cursor a ha
    obtain ⟨n, hn, hdeclaration, -, hcapture⟩ := mem_collect hnested ha
    exact ⟨n, hn, hdeclaration, hcapture⟩
  · refine (List.pairwise_flatMap.mp hrising.pairwise).2.imp ?_
    intro q r hqr a ha b hb heq
    have hlt := (hqr a ha b hb).1
    rw [heq] at hlt
    exact Nat.lt_irrefl _ hlt

/-- **THE ONCE-ONLY THEOREM.**  In a nested tree, whatever calls are made from a fresh cursor, from
any nodes and for any rows, each declaration is collected at most once and the cursor never goes
back; so no declaration is in the breadcrumbs of two chunks of a file, however the run ends. -/
theorem captured_once {root : Node} (hnested : root.Nested) :
    (∀ (s : Scope) (qs : List Query), (∀ q ∈ qs, q.node ∈ root.preorder) → OnceOnly s qs)
      ∧ ∀ (c : Chunker) (j : Job) (r : Report),
          c.parse j.path j.contents = .ok (some root) → c.chunkFile j = .ok r →
          ShownOnce (c.plan j root).scope root r.pieces := by
  constructor
  · intro s qs hqs
    exact onceOnly fun q hq => hnested.of_mem (hqs q hq)
  · intro c j r hparse hrun
    rw [eq_run_of_chunkFile hrun]
    rcases run_pieces hparse with hnone | ⟨ls, hpieces⟩
    · rw [hnone]
      exact ⟨fun q hq => absurd hq List.not_mem_nil, .nil, .nil⟩
    · rw [hpieces]
      exact shownOnce_pack hnested ls

namespace Sample

theorem nested : tree.Nested := ⟨by decide, by decide⟩

/-- Calls for both rows, from the root and from the body. -/
def queries : List Query := [⟨tree, 1⟩, ⟨.node "block" ⟨38, 54, 1, 1⟩ [], 1⟩, ⟨tree, 0⟩, ⟨tree, 1⟩]

theorem node_mem_of_mem_queries : ∀ q ∈ queries, q.node ∈ tree.preorder := by
  intro q hq
  simp only [queries, List.mem_cons, List.not_mem_nil, or_false] at hq
  rcases hq with rfl | rfl | rfl | rfl
  · exact Node.self_mem_preorder tree
  · exact Node.mem_preorder_of_child List.mem_cons_self
      (Node.mem_preorder_of_child List.mem_cons_self (Node.self_mem_preorder _))
  · exact Node.self_mem_preorder tree
  · exact Node.self_mem_preorder tree

end Sample

/-- The sample: calls for both its rows, and the run that shows its one declaration. -/
theorem sample_captured_once :
    Sample.tree.Nested ∧ (∀ q ∈ Sample.queries, q.node ∈ Sample.tree.preorder)
      ∧ Sample.chunker.parse Sample.path Sample.contents = .ok (some Sample.tree)
      ∧ OnceOnly Sample.plan.scope Sample.queries
      ∧ ShownOnce Sample.plan.scope Sample.tree
          [Sample.opened.close 1, Sample.reopened.close 2] := by
  obtain ⟨hcalls, hchunks⟩ := captured_once Sample.nested
  exact ⟨Sample.nested, Sample.node_mem_of_mem_queries, rfl,
    hcalls Sample.plan.scope Sample.queries Sample.node_mem_of_mem_queries,
    hchunks Sample.chunker _ _ rfl Sample.chunkFile_eq⟩

end Breadcrumb.Packing
