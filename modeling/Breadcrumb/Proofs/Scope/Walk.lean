/-
  Breadcrumb.Proofs.Scope.Walk
  ────────────────────────────
  **THE STACK WALK FOLLOWS THE TREE.**

  The walk keeps what is left to visit on a stack, and its recursion is on the
  size of the stack.  `visit` recurses along the tree instead, so a visit of a
  given tree can be computed where a walk of it cannot.  Both give the same
  (`walk_eq_visitAll`): the children that a node puts on the stack are visited
  before what was left below them (`visitAll_append`).  Either collects nothing
  but captures of nodes (`capture_of_mem_collect`).
-/
import Breadcrumb.Scope

namespace Breadcrumb.Scope

variable {s : Scope} {row : Int}

/-! ## §1. What a visit does. -/

theorem visitAll_nil (cursor : Int) : s.visitAll row [] cursor = ([], cursor) := rfl

/-- Trees are visited from the cursor that the ones before them leave. -/
theorem visitAll_cons (n : Node) (ns : List Node) (cursor : Int) :
    s.visitAll row (n :: ns) cursor
      = ((s.visit row n cursor).1 ++ (s.visitAll row ns (s.visit row n cursor).2).1,
        (s.visitAll row ns (s.visit row n cursor).2).2) := rfl

/-- A node that does not cover the row is skipped with all below it. -/
theorem visit_outside {n : Node} {cursor : Int} (houtside : (!n.covers row) = true) :
    s.visit row n cursor = ([], cursor) := by
  cases n
  unfold visit
  rw [if_pos houtside]

/-- A declaration that is new moves the cursor before its children are visited. -/
theorem visit_new {n : Node} {cursor : Int} (hinside : ¬(!n.covers row) = true)
    (hnew : isNew n cursor = true) :
    s.visit row n cursor
      = (s.capture n :: (s.visitAll row n.children (s.capture n).endRow).1,
        (s.visitAll row n.children (s.capture n).endRow).2) := by
  cases n
  unfold visit
  rw [if_neg hinside, if_pos hnew]
  rfl

/-- Any other node leaves all to its children. -/
theorem visit_old {n : Node} {cursor : Int} (hinside : ¬(!n.covers row) = true)
    (hold : ¬isNew n cursor = true) :
    s.visit row n cursor = s.visitAll row n.children cursor := by
  cases n
  unfold visit
  rw [if_neg hinside, if_neg hold]
  rfl

/-- The second part of a row of trees is visited from the cursor that the first part leaves. -/
theorem visitAll_append (ms ns : List Node) :
    ∀ cursor : Int, s.visitAll row (ms ++ ns) cursor
      = ((s.visitAll row ms cursor).1
          ++ (s.visitAll row ns (s.visitAll row ms cursor).2).1,
        (s.visitAll row ns (s.visitAll row ms cursor).2).2) := by
  induction ms with
  | nil =>
    intro cursor
    rfl
  | cons m ms ih =>
    intro cursor
    rw [List.cons_append, visitAll_cons, visitAll_cons, ih, List.append_assoc]

/-! ## §2. The walk. -/

/-- **A walk of a stack visits its trees one after the other.** -/
theorem walk_eq_visitAll (stack : List Node) (cursor : Int) :
    s.walk row stack cursor = s.visitAll row stack cursor := by
  -- The induction is on the calls that the walk makes.
  fun_induction walk s row stack cursor with
  | case1 cursor => rfl
  | case2 n rest cursor houtside ih =>
    rw [ih, visitAll_cons, visit_outside houtside, List.nil_append]
  | case3 n rest cursor hinside hnew c cs next heq ih =>
    rw [heq, visitAll_append] at ih
    obtain ⟨rfl, rfl⟩ := Prod.mk.inj ih
    rw [visitAll_cons, visit_new hinside hnew]
    rfl
  | case4 n rest cursor hinside hold ih =>
    rw [ih, visitAll_append, visitAll_cons, visit_old hinside hold]

/-- Collecting is a visit of the root. -/
theorem collect_eq_visit (root : Node) (cursor : Int) :
    s.collect root row cursor = s.visit row root cursor := by
  unfold collect
  rw [walk_eq_visitAll, visitAll_cons, visitAll_nil, List.append_nil]

/-- What is collected are captures of nodes. -/
theorem capture_of_mem_walk {stack : List Node} {cursor : Int} {c : Capture}
    (hc : c ∈ (s.walk row stack cursor).1) : c = s.capture c.node := by
  fun_induction walk s row stack cursor with
  | case1 cursor => exact absurd hc List.not_mem_nil
  | case2 n rest cursor houtside ih => exact ih hc
  | case3 n rest cursor hinside hnew d cs next heq ih =>
    rw [heq] at ih
    rcases List.mem_cons.mp hc with rfl | hc
    · rfl
    · exact ih hc
  | case4 n rest cursor hinside hold ih => exact ih hc

theorem capture_of_mem_collect {root : Node} {cursor : Int} {c : Capture}
    (hc : c ∈ (s.collect root row cursor).1) : c = s.capture c.node :=
  capture_of_mem_walk hc

end Breadcrumb.Scope
