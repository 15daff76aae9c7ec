/-
  Breadcrumb.Proofs.Scope.Branches
  ────────────────────────────────
  **HOW THE DECLARATIONS OF A BREADCRUMB LIE TO ONE ANOTHER.**

  A breadcrumb is read as one declaration within the other, from the outermost
  in.  What is collected stands in preorder, so that a declaration is below the
  one in front of it or in a branch behind it (`collected_below_or_behind`).

  The second happens.  A row is covered as a whole, whichever octets of it a
  declaration has, and two functions can meet on one row: one ends where the
  other begins.  If the signature of the first one ended further up, both are
  collected for that row, and neither encloses the other
  (`exists_collected_apart`).  Where rows follow the octets, that is the only way
  in which it happens.
-/
import Mathlib
import Breadcrumb.Proofs.Scope.Cursor

namespace Breadcrumb.Node

/-! ## §1. Trees in source order. -/

/-- Every node lies within the one above it, in rows and in octets, and siblings have no octets in
common and stand in their order. -/
structure Sequenced (root : Node) : Prop where
  within : root.Within
  octets : ∀ n ∈ root.preorder, ∀ c ∈ n.children,
    n.span.startByte ≤ c.span.startByte ∧ c.span.endByte ≤ n.span.endByte
  apart : ∀ n ∈ root.preorder, n.children.Pairwise fun a b => a.span.endByte ≤ b.span.startByte

/-- No node begins on a row before the one where its siblings in front of it end. -/
def RowsFollow (root : Node) : Prop :=
  ∀ n ∈ root.preorder, n.children.Pairwise fun a b => a.span.endRow ≤ b.span.startRow

/-- A node ends before another one begins. -/
def Before (a b : Node) : Prop := a.span.endByte ≤ b.span.startByte

/-- In different branches, the node in front ends before the other one begins. -/
theorem Sequenced.before {root a b : Node} (h : root.Sequenced) (hforked : Forked root a b) :
    a.Before b :=
  hforked.le (fun n => n.span.startByte) (fun n => n.span.endByte) h.octets h.apart

/-- What is below a node is not behind it, unless it is empty. -/
theorem Sequenced.not_before {root a b : Node} (h : root.Sequenced) (ha : a ∈ root.preorder)
    (hb : b ∈ a.descendants) (hfilled : b.span.startByte < b.span.endByte) : ¬ a.Before b := by
  have hbounds := bounds_of_children (fun n => n.span.startByte) (fun n => n.span.endByte)
    (fun m hm => h.octets m (mem_preorder_trans hm root ha)) b
    (mem_preorder_of_mem_descendants hb)
  unfold Before
  omega

/-- Two nodes in different branches that both cover a row meet on it. -/
theorem Within.meet {root a b : Node} {row : Int} (h : root.Within) (hrows : root.RowsFollow)
    (hforked : Forked root a b) (ha : a.covers row = true) (hb : b.covers row = true) :
    a.span.endRow = row ∧ b.span.startRow = row := by
  have hle := hforked.le (fun n => n.span.startRow) (fun n => n.span.endRow) h hrows
  rw [covers_iff] at ha hb
  omega

end Breadcrumb.Node

namespace Breadcrumb.Scope

open Breadcrumb.Text

variable {s : Scope} {row : Int}

/-! ## §2. What a scan collects. -/

/-- The nodes that a scan collects stand in the order of the scan. -/
theorem sublist_scan (ns : List Node) :
    ∀ cursor : Int, ((s.scan row ns cursor).1.map Capture.node).Sublist ns := by
  induction ns with
  | nil => exact fun _ => .slnil
  | cons n ns ih =>
    intro cursor
    by_cases hnew : n.covers row = true ∧ isNew n cursor = true
    · rw [scan_cons_new hnew.1 hnew.2]
      exact (ih _).cons_cons n
    · rw [scan_cons_old hnew]
      exact (ih cursor).cons n

/-- The first one begins behind the cursor, and each later one behind the row where the signature
of the one before it ends. -/
theorem isChain_scan (ns : List Node) :
    ∀ cursor : Int, (∀ c ∈ (s.scan row ns cursor).1.head?, cursor < c.node.span.startRow)
      ∧ (s.scan row ns cursor).1.IsChain fun c d => c.endRow < d.node.span.startRow := by
  induction ns with
  | nil => exact fun _ => ⟨fun _ hc => absurd hc (Option.not_mem_none _), .nil⟩
  | cons n ns ih =>
    intro cursor
    by_cases hnew : n.covers row = true ∧ isNew n cursor = true
    · rw [scan_cons_new hnew.1 hnew.2]
      constructor
      · intro c hc
        rw [List.head?_cons, Option.mem_some_iff] at hc
        rw [← hc]
        exact (isNew_iff.mp hnew.2).2
      · -- The cursor is where its signature ends, and the next one begins behind that.
        obtain ⟨hnext, hrest⟩ := ih (s.capture n).endRow
        rw [List.isChain_cons]
        refine ⟨?_, hrest⟩
        intro d hd
        exact Int.ofNat_lt.mp (hnext d hd)
    · rw [scan_cons_old hnew]
      exact ih cursor

/-! ## §3. What is collected. -/

/-- How a declaration collected for a row lies to one that was collected for it before. -/
structure Follows (root : Node) (row : Int) (a b : Node) : Prop where
  below_or_behind : b ∈ a.descendants ∨ a.Before b
  /-- It is not both, unless it is empty. -/
  not_both : b.span.startByte < b.span.endByte → b ∈ a.descendants → ¬ a.Before b
  /-- Where rows follow the octets, one that is not below the other meets it on the row. -/
  meets : root.RowsFollow → b ∈ a.descendants
    ∨ a.Before b ∧ a.span.endRow = row ∧ b.span.startRow = row

theorem follows_of_preorder {root a b : Node} (h : root.Sequenced) (ha : a ∈ root.preorder)
    (hacovers : a.covers row = true) (hbcovers : b.covers row = true)
    (hab : b ∈ a.descendants ∨ Node.Forked root a b) : Follows root row a b where
  below_or_behind := hab.imp_right h.before
  not_both hfilled hbelow := h.not_before ha hbelow hfilled
  meets hrows := by
    refine hab.imp_right ?_
    intro hforked
    exact ⟨h.before hforked, h.within.meet hrows hforked hacovers hbcovers⟩

/-- **THE BRANCH THEOREM.**  In a tree in source order, for every row and from every cursor, each
declaration collected is below those collected before it or behind them; it begins on a row behind
the signature of the one right before it.  Where rows follow the octets, one that is not below
another begins on the row that is asked for, and the other one ends on it. -/
theorem collected_below_or_behind (s : Scope) {root : Node} (h : root.Sequenced)
    (row cursor : Int) :
    (∀ c ∈ (s.collect root row cursor).1, c.node ∈ root.preorder ∧ c = s.capture c.node)
      ∧ ((s.collect root row cursor).1.IsChain fun c d => c.endRow < d.node.span.startRow)
      ∧ (s.collect root row cursor).1.Pairwise fun c d => Follows root row c.node d.node := by
  have hscan : s.collect root row cursor = s.scan row root.preorder cursor := by
    rw [collect_eq_visit, visit_eq_scan h.within]
  have hsublist : ((s.collect root row cursor).1.map Capture.node).Sublist root.preorder := by
    rw [hscan]
    exact sublist_scan root.preorder cursor
  refine ⟨?_, ?_, ?_⟩
  · intro c hc
    exact ⟨hsublist.subset (List.mem_map_of_mem hc), capture_of_mem_collect hc⟩
  · rw [hscan]
    exact (isChain_scan root.preorder cursor).2
  · -- What is collected stands in preorder, and all of it covers the row.
    have hcovers : ∀ c ∈ (s.collect root row cursor).1,
        c.node ∈ root.preorder ∧ c.node.covers row = true := by
      intro c hc
      rw [hscan] at hc
      obtain ⟨n, hn, -, hcovers, rfl⟩ := mem_scan hc
      exact ⟨hn, hcovers⟩
    refine (List.pairwise_map.mp (root.pairwise_preorder.sublist hsublist)).imp_of_mem ?_
    intro c d hc hd hcd
    exact follows_of_preorder h (hcovers c hc).1 (hcovers c hc).2 (hcovers d hd).2 hcd

/-! ## §4. Two declarations that meet on a row. -/

namespace Meeting

/-- A class whose second method begins on the row where the first one ends. -/
def contents : String := "class A \x7b\n    void f() \x7b\n    \x7d void g() \x7b\n    \x7d\n\x7d"

def first : Node := .node "method_declaration" ⟨14, 30, 1, 2⟩ [.node "block" ⟨23, 30, 1, 2⟩ []]

def second : Node := .node "method_declaration" ⟨31, 47, 2, 3⟩ [.node "block" ⟨40, 47, 2, 3⟩ []]

def outer : Node :=
  .node "class_declaration" ⟨0, 49, 0, 4⟩ [.node "class_body" ⟨8, 49, 0, 4⟩ [first, second]]

def tree : Node := .node "program" ⟨0, 49, 0, 4⟩ [outer]

def scope : Scope := ⟨Utf8.encodeString contents, "//"⟩

theorem sequenced : tree.Sequenced := by
  refine ⟨?_, ?_, ?_⟩
  · unfold Node.Within
    decide
  · decide
  · decide

theorem ordered : tree.Ordered := ⟨⟨by decide, by decide⟩, by decide⟩

/-- For the row where they meet, both methods are collected. -/
theorem nodes_eq :
    (scope.collect tree 2 (-1)).1.map Capture.node = [outer, first, second] := by
  rw [collect_eq_visit]
  rfl

theorem headers_eq :
    (scope.collect tree 2 (-1)).1.map Capture.header
      = ["// class A", "// void f()", "// void g()"] := by
  rw [collect_eq_visit]
  decide

end Meeting

/-- The sample, for the row where its methods meet: its class, and both of them. -/
theorem meeting_below_or_behind :
    Meeting.tree.Sequenced ∧ Meeting.tree.RowsFollow
      ∧ (Meeting.scope.collect Meeting.tree 2 (-1)).1.map Capture.header
          = ["// class A", "// void f()", "// void g()"]
      ∧ ((Meeting.scope.collect Meeting.tree 2 (-1)).1.IsChain fun c d =>
          c.endRow < d.node.span.startRow)
      ∧ (Meeting.scope.collect Meeting.tree 2 (-1)).1.Pairwise fun c d =>
          Follows Meeting.tree 2 c.node d.node := by
  obtain ⟨-, hrows, hfollow⟩ :=
    collected_below_or_behind Meeting.scope Meeting.sequenced 2 (-1)
  exact ⟨Meeting.sequenced, Meeting.ordered.siblings, Meeting.headers_eq, hrows, hfollow⟩

/-- **A breadcrumb can show two declarations of which neither encloses the other**, in trees in
order too. -/
theorem exists_collected_apart :
    ¬ ∀ (s : Scope) (root : Node) (row cursor : Int), root.Sequenced → root.Ordered →
      (s.collect root row cursor).1.IsChain fun c d => d.node ∈ c.node.descendants := by
  intro hclaim
  have hchain := hclaim Meeting.scope Meeting.tree 2 (-1) Meeting.sequenced Meeting.ordered
  have hnodes : [Meeting.outer, Meeting.first, Meeting.second].IsChain fun a b =>
      b ∈ a.descendants := by
    rw [← Meeting.nodes_eq, List.isChain_map]
    exact hchain
  rw [List.isChain_cons_cons, List.isChain_cons_cons] at hnodes
  -- Below the first method there is its body only.
  have hbody : Meeting.second ∈ [Node.node "block" ⟨23, 30, 1, 2⟩ []] := hnodes.2.1
  have hkind := congrArg Node.kind (List.mem_singleton.mp hbody)
  exact absurd hkind (by decide)

end Breadcrumb.Scope
