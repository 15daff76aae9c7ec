/-
  Breadcrumb.Proofs.Scope.Nesting
  ───────────────────────────────
  **TREES WHOSE NODES LIE WITHIN ONE ANOTHER.**

  Of two nodes of a tree, the one that comes later in preorder is below the other
  one, or they stand in different branches (`pairwise_preorder`).

  If every node lies within the rows of the one above it (`Within`), all nodes
  below a node lie within its rows.  Then a node that does not cover a row has
  nothing below it that does, so that skipping it loses nothing
  (`visit_eq_scan`).

  A tree is nested if moreover no node ends before it begins (`Nested`).  Then a
  signature does not end before its node begins either (`startRow_le_headerEnd`).

  A tree is in order if moreover siblings do not overlap (`Ordered`).  Then no
  node begins before one that stands in front of it (`Ordered.sorted`).
-/
import Breadcrumb.Proofs.Scope.Walk

namespace Breadcrumb.Node

/-! ## §1. The nodes of a tree. -/

/-- What holds of a node whenever it holds of its children holds of all nodes. -/
theorem induct {P : Node → Prop} (step : ∀ n, (∀ c ∈ n.children, P c) → P n) : ∀ n, P n
  | node kind span children => step (node kind span children) fun c _ => induct step c
termination_by n => sizeOf n
decreasing_by
  rename_i hc
  -- A child is smaller than the list that it stands in, and that one than its node.
  have hlt : sizeOf c < sizeOf children := List.sizeOf_lt_of_mem hc
  show sizeOf c < sizeOf (node kind span children)
  rw [node.sizeOf_spec]
  omega

theorem preorder_eq (n : Node) : n.preorder = n :: preorders n.children := by
  cases n
  unfold preorder
  rfl

theorem preorders_cons (n : Node) (ns : List Node) :
    preorders (n :: ns) = n.preorder ++ preorders ns := by
  rw [preorders]

theorem mem_preorders_iff {m : Node} {ns : List Node} :
    m ∈ preorders ns ↔ ∃ n ∈ ns, m ∈ n.preorder := by
  induction ns with
  | nil => simp [preorders]
  | cons n ns ih => simp [preorders_cons, ih]

theorem mem_preorder_iff {m n : Node} :
    m ∈ n.preorder ↔ m = n ∨ ∃ c ∈ n.children, m ∈ c.preorder := by
  rw [preorder_eq, List.mem_cons, mem_preorders_iff]

theorem self_mem_preorder (n : Node) : n ∈ n.preorder :=
  mem_preorder_iff.mpr (.inl rfl)

theorem mem_preorder_of_child {m n c : Node} (hc : c ∈ n.children) (hm : m ∈ c.preorder) :
    m ∈ n.preorder :=
  mem_preorder_iff.mpr (.inr ⟨c, hc, hm⟩)

theorem mem_preorder_trans {k m : Node} (hk : k ∈ m.preorder) :
    ∀ n : Node, m ∈ n.preorder → k ∈ n.preorder := by
  intro n
  induction n using induct with
  | step n ih =>
    intro hm
    rcases mem_preorder_iff.mp hm with rfl | ⟨c, hc, hmc⟩
    · exact hk
    · exact mem_preorder_of_child hc (ih c hc hmc)

theorem preorders_eq_flatMap (ns : List Node) : preorders ns = ns.flatMap preorder := by
  induction ns with
  | nil => rfl
  | cons n ns ih => rw [preorders_cons, ih, List.flatMap_cons]

/-- The nodes below a node. -/
def descendants (n : Node) : List Node := preorders n.children

theorem mem_preorder_of_mem_descendants {m n : Node} (h : m ∈ n.descendants) : m ∈ n.preorder := by
  rw [preorder_eq]
  exact List.mem_cons_of_mem n h

/-- Two nodes stand in different branches: in the trees of two children of one node, the first one
in that of the child further in front. -/
def Forked (root a b : Node) : Prop :=
  ∃ n ∈ root.preorder, ∃ c d, [c, d].Sublist n.children ∧ a ∈ c.preorder ∧ b ∈ d.preorder

theorem Forked.of_child {n c a b : Node} (hc : c ∈ n.children) (h : Forked c a b) :
    Forked n a b := by
  obtain ⟨m, hm, hbranches⟩ := h
  exact ⟨m, mem_preorder_of_child hc hm, hbranches⟩

/-- **A node that comes later in preorder is below, or in another branch.** -/
theorem pairwise_preorder (root : Node) :
    root.preorder.Pairwise fun a b => b ∈ a.descendants ∨ Forked root a b := by
  induction root using induct with
  | step n ih =>
    rw [preorder_eq, List.pairwise_cons]
    constructor
    · intro b hb
      exact .inl hb
    · rw [preorders_eq_flatMap, List.pairwise_flatMap]
      constructor
      · intro c hc
        refine (ih c hc).imp ?_
        intro a b hab
        exact hab.imp_right (Forked.of_child hc)
      · -- Two children of the node itself are where its branches begin.
        rw [List.pairwise_iff_forall_sublist]
        intro c d hcd a ha b hb
        exact .inr ⟨n, self_mem_preorder n, c, d, hcd, ha, hb⟩

section Bounds

variable {root : Node} (first last : Node → Nat)

/-- If every node lies within the bounds of the one above it, all lie within those of the root. -/
theorem bounds_of_children
    (hinside : ∀ n ∈ root.preorder, ∀ c ∈ n.children, first n ≤ first c ∧ last c ≤ last n) :
    ∀ m ∈ root.preorder, first root ≤ first m ∧ last m ≤ last root := by
  induction root using induct with
  | step n ih =>
    intro m hm
    rcases mem_preorder_iff.mp hm with rfl | ⟨c, hc, hmc⟩
    · exact ⟨Nat.le_refl _, Nat.le_refl _⟩
    · -- From the root to the child, and from the child on by induction.
      have hchild := hinside n (self_mem_preorder n) c hc
      have hbelow := ih c hc (fun k hk => hinside k (mem_preorder_of_child hc hk)) m hmc
      omega

/-- If moreover no node begins before its siblings in front of it have ended, no node begins before
those in the branches in front of its own have. -/
theorem Forked.le
    (hinside : ∀ n ∈ root.preorder, ∀ c ∈ n.children, first n ≤ first c ∧ last c ≤ last n)
    (hapart : ∀ n ∈ root.preorder, n.children.Pairwise fun c d => last c ≤ first d)
    {a b : Node} (h : Forked root a b) : last a ≤ first b := by
  obtain ⟨n, hn, c, d, hcd, ha, hb⟩ := h
  have hbranch : ∀ e ∈ n.children, ∀ m ∈ e.preorder, first e ≤ first m ∧ last m ≤ last e := by
    intro e he
    refine bounds_of_children first last ?_
    intro k hk
    exact hinside k (mem_preorder_trans (mem_preorder_of_child he hk) root hn)
  -- Up from `a` to the one child, on to the other, and down to `b`.
  have hup := (hbranch c (hcd.subset List.mem_cons_self) a ha).2
  have hon : last c ≤ first d := List.pairwise_iff_forall_sublist.mp (hapart n hn) hcd
  have hdown := (hbranch d (hcd.subset (List.mem_cons_of_mem c List.mem_cons_self)) b hb).1
  omega

end Bounds

theorem covers_iff {n : Node} {row : Int} :
    n.covers row = true ↔ (n.span.startRow : Int) ≤ row ∧ row ≤ n.span.endRow := by
  unfold covers
  rw [Bool.and_eq_true, decide_eq_true_eq, decide_eq_true_eq]

/-! ## §2. Nested trees. -/

/-- Every node lies within the rows of the one above it. -/
def Within (root : Node) : Prop :=
  ∀ n ∈ root.preorder, ∀ c ∈ n.children,
    n.span.startRow ≤ c.span.startRow ∧ c.span.endRow ≤ n.span.endRow

theorem Within.child {n c : Node} (h : n.Within) (hc : c ∈ n.children) : c.Within := by
  intro m hm
  exact h m (mem_preorder_of_child hc hm)

/-- **All nodes of a tree lie within the rows of its root.** -/
theorem Within.bounds {n : Node} (h : n.Within) :
    ∀ m ∈ n.preorder, n.span.startRow ≤ m.span.startRow ∧ m.span.endRow ≤ n.span.endRow :=
  bounds_of_children (fun m => m.span.startRow) (fun m => m.span.endRow) h

theorem Within.not_covers {n m : Node} {row : Int} (h : n.Within) (houtside : n.covers row = false)
    (hm : m ∈ n.preorder) : m.covers row = false := by
  have hbounds := h.bounds m hm
  rw [← Bool.not_eq_true, covers_iff] at houtside ⊢
  omega

/-- No node ends before it begins, and every node lies within the rows of the one above it. -/
structure Nested (root : Node) : Prop where
  upright : ∀ n ∈ root.preorder, n.span.startRow ≤ n.span.endRow
  within : ∀ n ∈ root.preorder, ∀ c ∈ n.children,
    n.span.startRow ≤ c.span.startRow ∧ c.span.endRow ≤ n.span.endRow

theorem Nested.of_mem {root n : Node} (h : root.Nested) (hn : n ∈ root.preorder) : n.Nested where
  upright m hm := h.upright m (mem_preorder_trans hm root hn)
  within m hm := h.within m (mem_preorder_trans hm root hn)

theorem Nested.bounds {n : Node} (h : n.Nested) :
    ∀ m ∈ n.preorder, n.span.startRow ≤ m.span.startRow ∧ m.span.endRow ≤ n.span.endRow :=
  Within.bounds h.within

/-- A signature ends at the first row of a body, or with the node. -/
theorem Nested.startRow_le_headerEnd {n : Node} (h : n.Nested) :
    n.span.startRow ≤ (Scope.headerEnd n).2 := by
  unfold Scope.headerEnd
  cases hbody : n.children.find? isBody with
  | none => exact h.upright n (self_mem_preorder n)
  | some body =>
    exact (h.within n (self_mem_preorder n) body (List.mem_of_find?_eq_some hbody)).1

/-! ## §3. Trees in order. -/

/-- A nested tree in which no node begins before its siblings in front of it have ended. -/
structure Ordered (root : Node) : Prop extends Nested root where
  siblings : ∀ n ∈ root.preorder, n.children.Pairwise fun a b => a.span.endRow ≤ b.span.startRow

/-- A tree in order whose nodes lie within one another in octets too, and whose siblings share
neither an octet nor a row. -/
structure Spread (root : Node) : Prop extends Ordered root where
  octets : ∀ n ∈ root.preorder, ∀ c ∈ n.children,
    n.span.startByte ≤ c.span.startByte ∧ c.span.endByte ≤ n.span.endByte
  apart : ∀ n ∈ root.preorder, n.children.Pairwise fun a b =>
    a.span.endByte ≤ b.span.startByte ∧ a.span.endRow < b.span.startRow

/-- **In a tree in order, the nodes stand by the rows where they begin.** -/
theorem Ordered.sorted {n : Node} (h : n.Ordered) :
    n.preorder.Pairwise fun a b => a.span.startRow ≤ b.span.startRow := by
  refine n.pairwise_preorder.imp_of_mem ?_
  intro a b ha hb hab
  rcases hab with hbelow | hforked
  · exact ((h.of_mem ha).bounds b (mem_preorder_of_mem_descendants hbelow)).1
  · have hupright := h.upright a ha
    have hle := hforked.le (fun m => m.span.startRow) (fun m => m.span.endRow) h.within h.siblings
    omega

end Breadcrumb.Node

namespace Breadcrumb.Scope

variable {s : Scope} {row : Int}

/-! ## §4. Skipping. -/

theorem scan_nil (cursor : Int) : s.scan row [] cursor = ([], cursor) := rfl

theorem scan_cons_new {n : Node} {cursor : Int} (hcovers : n.covers row = true)
    (hnew : isNew n cursor = true) (ns : List Node) :
    s.scan row (n :: ns) cursor
      = (s.capture n :: (s.scan row ns (s.capture n).endRow).1,
        (s.scan row ns (s.capture n).endRow).2) := by
  rw [scan, hcovers, hnew]
  rfl

theorem scan_cons_old {n : Node} {cursor : Int}
    (hold : ¬(n.covers row = true ∧ isNew n cursor = true)) (ns : List Node) :
    s.scan row (n :: ns) cursor = s.scan row ns cursor := by
  rw [scan, if_neg]
  rw [Bool.and_eq_true]
  exact hold

theorem scan_append (ms ns : List Node) :
    ∀ cursor : Int, s.scan row (ms ++ ns) cursor
      = ((s.scan row ms cursor).1 ++ (s.scan row ns (s.scan row ms cursor).2).1,
        (s.scan row ns (s.scan row ms cursor).2).2) := by
  induction ms with
  | nil =>
    intro cursor
    rfl
  | cons m ms ih =>
    intro cursor
    rw [List.cons_append]
    by_cases hnew : m.covers row = true ∧ isNew m cursor = true
    · rw [scan_cons_new hnew.1 hnew.2, scan_cons_new hnew.1 hnew.2, ih, List.cons_append]
    · rw [scan_cons_old hnew, scan_cons_old hnew, ih]

theorem scan_outside {ns : List Node} (houtside : ∀ n ∈ ns, n.covers row = false) (cursor : Int) :
    s.scan row ns cursor = ([], cursor) := by
  induction ns with
  | nil => rfl
  | cons n ns ih =>
    obtain ⟨hn, hns⟩ := List.forall_mem_cons.mp houtside
    rw [scan_cons_old, ih hns]
    rw [hn]
    exact fun hcovers => Bool.false_ne_true hcovers.1

/-- Trees that are each visited as they are scanned are so one after the other. -/
theorem visitAll_eq_scan {ns : List Node}
    (h : ∀ n ∈ ns, ∀ cursor, s.visit row n cursor = s.scan row n.preorder cursor) :
    ∀ cursor : Int, s.visitAll row ns cursor = s.scan row (Node.preorders ns) cursor := by
  induction ns with
  | nil =>
    intro cursor
    rw [Node.preorders, visitAll_nil, scan_nil]
  | cons n ns ih =>
    intro cursor
    obtain ⟨hn, hns⟩ := List.forall_mem_cons.mp h
    rw [Node.preorders_cons, visitAll_cons, scan_append, hn, ih hns]

theorem visit_eq_scan {n : Node} (hwithin : n.Within) :
    ∀ cursor : Int, s.visit row n cursor = s.scan row n.preorder cursor := by
  induction n using Node.induct with
  | step n ih =>
    intro cursor
    have hchildren := visitAll_eq_scan fun c hc => ih c hc (hwithin.child hc)
    cases hcovers : n.covers row with
    | false =>
      -- The scan goes on below the node, and finds nothing there.
      rw [visit_outside (by rw [hcovers]; rfl),
        scan_outside fun m hm => hwithin.not_covers hcovers hm]
    | true =>
      have hinside : ¬(!n.covers row) = true := by
        rw [hcovers]
        exact Bool.false_ne_true
      rw [Node.preorder_eq]
      by_cases hnew : isNew n cursor = true
      · rw [visit_new hinside hnew, scan_cons_new hcovers hnew, hchildren]
      · rw [visit_old hinside hnew, scan_cons_old fun h => hnew h.2, hchildren]

/-- **Skipping loses nothing**: collecting is a scan of all nodes of a nested tree. -/
theorem collect_eq_scan {root : Node} (hnested : root.Nested) (cursor : Int) :
    s.collect root row cursor = s.scan row root.preorder cursor := by
  rw [collect_eq_visit, visit_eq_scan hnested.within]

end Breadcrumb.Scope
