/-
  Breadcrumb.Proofs.Scope.Shadowed
  ────────────────────────────────
  **WHICH DECLARATIONS ARE MISSED.**

  Collecting a declaration moves the cursor to the row where its signature ends.
  Whatever begins on the rows of that signature counts as collected from then on,
  whether it was or not: it is shadowed (`Shadowed`).  A method whose first line
  is also the first line of its class is missed that way
  (`exists_declaration_missed`).

  Nothing else is missed.  For rows that do not go back, in a tree in order, a
  declaration that covers a row has been collected by then exactly if it is not
  shadowed (`collected_iff_not_shadowed`):

      the nodes in front of a declaration begin no later than it does, so that
      what the same call collects before it shadows it or ends above it
      what an earlier call collects begins no later than the row of that call, so
      that it begins no later than the declaration, or else the declaration
      covers that row too and had its turn then
-/
import Mathlib
import Breadcrumb.Proofs.Scope.Cursor

namespace Breadcrumb.Scope

open Breadcrumb.Text

variable {s : Scope} {row : Int}

/-- A declaration begins on a row of the signature of another one that was collected. -/
def Shadowed (cs : List Capture) (n : Node) : Prop :=
  ∃ c ∈ cs, c.node ≠ n ∧ c.node.span.startRow ≤ n.span.startRow ∧ n.span.startRow ≤ c.endRow

/-- The same is asked of a tree for one row after the other. -/
def rowQueries (root : Node) (rows : List Int) : List Query := rows.map (Query.mk root)

theorem nested_of_mem_rowQueries {root : Node} {rows : List Int} (hnested : root.Nested) :
    ∀ q ∈ rowQueries root rows, q.node.Nested := by
  intro q hq
  obtain ⟨row, -, rfl⟩ := List.mem_map.mp hq
  exact hnested

/-! ## §1. What is collected stands in no shadow. -/

/-- The signatures of captures behind one another have no row in common. -/
theorem Rising.eq_of_start {c d : Capture} :
    ∀ {cs : List Capture} {first last : Int}, Rising first cs last → c ∈ cs → d ∈ cs →
      d.node.span.startRow ≤ c.node.span.startRow → c.node.span.startRow ≤ d.endRow → c = d
  | e :: cs, first, last, ⟨_, hupright, hrest⟩, hc, hd, hstart, hend => by
      rcases List.mem_cons.mp hc with hce | hcs
      · rcases List.mem_cons.mp hd with hde | hds
        · rw [hce, hde]
        · have hbehind := (hrest.bounds hds).1
          rw [hce] at hstart
          omega
      · rcases List.mem_cons.mp hd with hde | hds
        · have hbehind := (hrest.bounds hcs).1
          rw [hde] at hend
          omega
        · exact hrest.eq_of_start hcs hds hstart hend

theorem Rising.not_shadowed {cs : List Capture} {first last : Int} (h : Rising first cs last)
    {c : Capture} (hc : c ∈ cs) : ¬ Shadowed cs c.node := by
  rintro ⟨d, hd, hne, hstart, hend⟩
  rw [h.eq_of_start hc hd hstart hend] at hne
  exact hne rfl

/-! ## §2. What is missed stands in a shadow. -/

/-- A declaration has been collected, or it begins on a row of a signature that has been. -/
def Met (s : Scope) (cs : List Capture) (n : Node) : Prop :=
  s.capture n ∈ cs ∨ ∃ c ∈ cs, c.node.span.startRow ≤ n.span.startRow ∧ n.span.startRow ≤ c.endRow

theorem Met.mono {cs ds : List Capture} {n : Node} (h : Met s cs n) (hsub : cs ⊆ ds) :
    Met s ds n := by
  rcases h with hcollected | ⟨c, hc, hrows⟩
  · exact .inl (hsub hcollected)
  · exact .inr ⟨c, hsub hc, hrows⟩

/-- **A scan meets every declaration that covers its row and begins behind the cursor**, if the
nodes stand by the rows where they begin. -/
theorem met_scan {ns : List Node}
    (hsorted : ns.Pairwise fun a b => a.span.startRow ≤ b.span.startRow) {n : Node} (hn : n ∈ ns)
    (hcovers : n.covers row = true) (hdeclaration : n.isDeclaration = true) :
    ∀ cursor : Int, Met s (s.scan row ns cursor).1 n ∨ n.span.startRow ≤ cursor := by
  induction ns with
  | nil => exact absurd hn List.not_mem_nil
  | cons m ns ih =>
    intro cursor
    obtain ⟨hfront, hsorted⟩ := List.pairwise_cons.mp hsorted
    by_cases hnew : m.covers row = true ∧ isNew m cursor = true
    · rw [scan_cons_new hnew.1 hnew.2]
      left
      rcases List.mem_cons.mp hn with rfl | hn
      · exact .inl List.mem_cons_self
      · rcases ih hsorted hn (s.capture m).endRow with hmet | hle
        · exact hmet.mono (List.subset_cons_self _ _)
        · -- The node in front has just been collected, and its signature reaches as far.
          exact .inr ⟨s.capture m, List.mem_cons_self, hfront n hn, Int.ofNat_le.mp hle⟩
    · rw [scan_cons_old hnew]
      rcases List.mem_cons.mp hn with rfl | hn
      · right
        by_contra hlt
        exact hnew ⟨hcovers, isNew_iff.mpr ⟨hdeclaration, Int.not_le.mp hlt⟩⟩
      · exact ih hsorted hn cursor

/-- A cursor that has moved stands where a signature ends. -/
theorem cursor_scan (ns : List Node) :
    ∀ cursor : Int, (s.scan row ns cursor).2 = cursor
      ∨ ∃ c ∈ (s.scan row ns cursor).1, (s.scan row ns cursor).2 = c.endRow := by
  induction ns with
  | nil => exact fun _ => .inl rfl
  | cons n ns ih =>
    intro cursor
    by_cases hnew : n.covers row = true ∧ isNew n cursor = true
    · rw [scan_cons_new hnew.1 hnew.2]
      rcases ih (s.capture n).endRow with hsame | ⟨c, hc, hend⟩
      · exact .inr ⟨s.capture n, List.mem_cons_self, hsame⟩
      · exact .inr ⟨c, List.mem_cons_of_mem _ hc, hend⟩
    · rw [scan_cons_old hnew]
      exact ih cursor

theorem cursor_collectAll {qs : List Query} (hnested : ∀ q ∈ qs, q.node.Nested) :
    ∀ cursor : Int, (s.collectAll qs cursor).2 = cursor
      ∨ ∃ c ∈ (s.collectAll qs cursor).1, (s.collectAll qs cursor).2 = c.endRow := by
  induction qs with
  | nil => exact fun _ => .inl rfl
  | cons q qs ih =>
    obtain ⟨hq, hqs⟩ := List.forall_mem_cons.mp hnested
    intro cursor
    rw [collectAll_cons]
    rcases ih hqs (s.collect q.node q.row cursor).2 with hsame | ⟨c, hc, hend⟩
    · -- The later calls leave the cursor where the first one left it.
      rw [hsame, collect_eq_scan hq]
      rcases cursor_scan q.node.preorder cursor with hfirst | ⟨c, hc, hend⟩
      · exact .inl hfirst
      · exact .inr ⟨c, List.mem_append_left _ hc, hend⟩
    · exact .inr ⟨c, List.mem_append_right _ hc, hend⟩

/-- **Calls for rows that do not go back meet every declaration that covers one of the rows.** -/
theorem met_collectAll {root : Node} (hordered : root.Ordered) {n : Node}
    (hn : n ∈ root.preorder) (hdeclaration : n.isDeclaration = true) {rows : List Int}
    (hrows : rows.Pairwise (· ≤ ·)) (hcovers : ∃ r ∈ rows, n.covers r = true) :
    Met s (s.collectAll (rowQueries root rows) (-1)).1 n := by
  induction rows using List.reverseRecOn with
  | nil =>
    obtain ⟨r, hr, -⟩ := hcovers
    exact absurd hr List.not_mem_nil
  | append_singleton rows last ih =>
    obtain ⟨hrows, -, hlast⟩ := List.pairwise_append.mp hrows
    have hnested : ∀ q ∈ rowQueries root rows, q.node.Nested :=
      nested_of_mem_rowQueries hordered.toNested
    rw [rowQueries, List.map_append, collectAll_append]
    by_cases hearlier : ∃ r ∈ rows, n.covers r = true
    · exact (ih hrows hearlier).mono (List.subset_append_left _ _)
    · -- The last call is the first one for a row that the declaration covers.
      obtain ⟨r, hr, hcovers⟩ := hcovers
      rcases List.mem_append.mp hr with hr | hr
      · exact absurd ⟨r, hr, hcovers⟩ hearlier
      rw [List.mem_singleton.mp hr] at hcovers
      show Met s (_ ++ ((s.collect root last _).1 ++ [])) n
      rw [List.append_nil, collect_eq_scan hordered.toNested]
      rcases met_scan hordered.sorted hn hcovers hdeclaration _ with hmet | hle
      · exact hmet.mono (List.subset_append_right _ _)
      · -- The cursor was set at the end of a signature, by a call for a row further up.
        rcases cursor_collectAll (s := s) hnested (-1) with hfresh | ⟨c, hc, hend⟩
        · rw [rowQueries] at hfresh
          omega
        · obtain ⟨q, hq, m, -, -, hm, rfl⟩ := mem_collectAll hnested hc
          obtain ⟨r', hr', rfl⟩ := List.mem_map.mp hq
          have hbefore := hlast r' hr' last (List.mem_singleton.mpr rfl)
          have houtside : ¬ n.covers r' = true := fun h => hearlier ⟨r', hr', h⟩
          rw [Node.covers_iff] at hcovers hm houtside
          refine .inr ⟨s.capture m, List.mem_append_left _ hc, ?_, ?_⟩
          · show m.span.startRow ≤ n.span.startRow
            simp only at hm
            omega
          · rw [rowQueries] at hend
            omega

/-- **THE SHADOW THEOREM.**  In a tree in order, for rows that do not go back, a declaration that
covers the row of a call has been collected by that call or an earlier one exactly if it does not
begin on a row of the signature of another declaration that has. -/
theorem collected_iff_not_shadowed {s : Scope} {root : Node} (hordered : root.Ordered)
    {rows : List Int} (hrows : rows.Pairwise (· ≤ ·)) {k : Nat} {row : Int}
    (hk : rows[k]? = some row) {n : Node} (hn : n ∈ root.preorder)
    (hdeclaration : n.isDeclaration = true) (hcovers : n.covers row = true) :
    s.capture n ∈ (s.collectAll (rowQueries root (rows.take (k + 1))) (-1)).1
      ↔ ¬ Shadowed (s.collectAll (rowQueries root (rows.take (k + 1))) (-1)).1 n := by
  have hnested : ∀ q ∈ rowQueries root (rows.take (k + 1)), q.node.Nested :=
    nested_of_mem_rowQueries hordered.toNested
  constructor
  · exact (rising_collectAll hnested (-1)).not_shadowed
  · intro hlight
    have hrow : row ∈ rows.take (k + 1) := by
      rw [List.take_add_one, hk]
      exact List.mem_append_right _ (List.mem_singleton.mpr rfl)
    have hmet := met_collectAll (s := s) hordered hn hdeclaration
      (hrows.sublist (List.take_sublist _ _)) ⟨row, hrow, hcovers⟩
    rcases hmet with hcollected | ⟨c, hc, hstart, hend⟩
    · exact hcollected
    · -- Only the declaration itself may begin there.
      have hsame : c.node = n := by
        by_contra hne
        exact hlight ⟨c, hc, hne, hstart, hend⟩
      obtain ⟨q, -, m, -, -, -, rfl⟩ := mem_collectAll hnested hc
      rw [← hsame]
      exact hc

/-! ## §3. A declaration that is missed. -/

namespace Terse

/-- A class whose first line is also the first line of its method. -/
def contents : String := "class A \x7b void f() \x7b\n    g();\n\x7d \x7d"

/-- The method begins on the row where the body of the class begins. -/
def method : Node := .node "method_declaration" ⟨10, 31, 0, 2⟩ [.node "block" ⟨19, 31, 0, 2⟩ []]

def tree : Node :=
  .node "program" ⟨0, 33, 0, 2⟩
    [.node "class_declaration" ⟨0, 33, 0, 2⟩ [.node "class_body" ⟨8, 33, 0, 2⟩ [method]]]

def scope : Scope := ⟨Utf8.encodeString contents, "//"⟩

theorem spread : tree.Spread := by
  refine ⟨⟨⟨?_, ?_⟩, ?_⟩, ?_, ?_⟩ <;> decide

theorem method_mem : method ∈ tree.preorder :=
  Node.mem_preorder_of_child List.mem_cons_self
    (Node.mem_preorder_of_child List.mem_cons_self
      (Node.mem_preorder_of_child List.mem_cons_self (Node.self_mem_preorder method)))

/-- Only the class is collected for the row in the middle. -/
theorem headers_eq :
    (scope.collectAll (rowQueries tree [1]) (-1)).1.map Capture.header = ["// class A"] := by
  show ((scope.collect tree 1 (-1)).1 ++ []).map Capture.header = _
  rw [List.append_nil, collect_eq_scan spread.toNested]
  decide

theorem header_method : scope.header method = "// void f()" := by decide

end Terse

/-- The sample, asked for all its rows: the method is in the shadow of its class. -/
theorem terse_collected_iff :
    Terse.tree.Ordered ∧ ([0, 1, 2] : List Int).Pairwise (· ≤ ·)
      ∧ ([0, 1, 2] : List Int)[1]? = some 1 ∧ Terse.method ∈ Terse.tree.preorder
      ∧ Terse.method.isDeclaration = true ∧ Terse.method.covers 1 = true
      ∧ (Terse.scope.capture Terse.method
          ∈ (Terse.scope.collectAll (rowQueries Terse.tree [0, 1]) (-1)).1
        ↔ ¬ Shadowed (Terse.scope.collectAll (rowQueries Terse.tree [0, 1]) (-1)).1
            Terse.method) :=
  ⟨Terse.spread.toOrdered, by decide, rfl, Terse.method_mem, by decide, by decide,
    collected_iff_not_shadowed (k := 1) Terse.spread.toOrdered
      (show ([0, 1, 2] : List Int).Pairwise (· ≤ ·) by decide) rfl Terse.method_mem (by decide)
      (by decide)⟩

/-- **A declaration that covers a row can be missed**, in trees however well laid out. -/
theorem exists_declaration_missed :
    ¬ ∀ (s : Scope) (root : Node) (rows : List Int), root.Spread → rows.Pairwise (· ≤ ·) →
      ∀ (k : Nat) (row : Int), rows[k]? = some row →
      ∀ n ∈ root.preorder, n.isDeclaration = true → n.covers row = true →
        ∃ c ∈ (s.collectAll (rowQueries root (rows.take (k + 1))) (-1)).1,
          c.header = s.header n := by
  intro hclaim
  obtain ⟨c, hc, hheader⟩ := hclaim Terse.scope Terse.tree [1] Terse.spread (by decide) 0 1 rfl
    Terse.method Terse.method_mem (by decide) (by decide)
  have hmem := List.mem_map_of_mem (f := Capture.header) hc
  rw [show ([1] : List Int).take (0 + 1) = [1] from rfl, Terse.headers_eq, hheader,
    Terse.header_method] at hmem
  exact absurd hmem (by decide)

end Breadcrumb.Scope
