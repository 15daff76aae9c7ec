/-
  Breadcrumb.Proofs.Scope.Loop
  ────────────────────────────
  **THE WALK, TURN BY TURN.**

  A walk as it is carried out is a loop: one turn takes the last node off the
  stack, and puts its children on it in reverse, so that the first child is the
  last node of the stack (`Loop.turn`).  On the stack stand the siblings that are
  still to come of every node above the one at hand, so what a loop still has to
  do is said of whole stacks: it visits the trees on the stack one after the
  other, the last one first (`turns_eq_walk`).

  Each turn uses up one node, so that the loop is over after no more turns than
  there are nodes.  What it has collected by then is what a visit along the tree
  collects, and if the tree lies within itself also what a scan of all its nodes
  does (`loop_agrees`).
-/
import Mathlib
import Breadcrumb.Proofs.Scope.Nesting

namespace Breadcrumb.Scope

open Breadcrumb.Text

variable {s : Scope} {row : Int}

/-! ## §1. The loop. -/

/-- The loop between two turns. -/
structure Loop where
  /-- The nodes to visit; the next one is the last. -/
  stack : List Node
  cursor : Int
  /-- The declarations collected, in the order in which they were met. -/
  collected : List Capture
  deriving Repr, Inhabited

/-- One turn; none is left when the stack is empty. -/
def Loop.turn (s : Scope) (row : Int) (l : Loop) : Option Loop :=
  match l.stack.getLast? with
  | none => none
  | some n =>
    let rest := l.stack.dropLast
    if !n.covers row then some { l with stack := rest }
    else if isNew n l.cursor then
      some ⟨rest ++ n.children.reverse, (s.capture n).endRow, l.collected ++ [s.capture n]⟩
    else some { l with stack := rest ++ n.children.reverse }

/-- The loop after so many turns; nothing if it is over before. -/
def Loop.turns (s : Scope) (row : Int) : Nat → Loop → Option Loop
  | 0, l => some l
  | k + 1, l => (l.turn s row).bind (turns s row k)

/-! ## §2. One turn. -/

section OneTurn

variable {n : Node} {cursor : Int} (rest : List Node) (collected : List Capture)

theorem turn_outside (houtside : (!n.covers row) = true) :
    Loop.turn s row ⟨(n :: rest).reverse, cursor, collected⟩
      = some ⟨rest.reverse, cursor, collected⟩ := by
  simp only [Loop.turn, List.reverse_cons, List.getLast?_concat, List.dropLast_concat]
  rw [if_pos houtside]

theorem turn_new (hinside : ¬(!n.covers row) = true) (hnew : isNew n cursor = true) :
    Loop.turn s row ⟨(n :: rest).reverse, cursor, collected⟩
      = some ⟨(n.children ++ rest).reverse, (s.capture n).endRow, collected ++ [s.capture n]⟩ := by
  simp only [Loop.turn, List.reverse_cons, List.getLast?_concat, List.dropLast_concat]
  rw [if_neg hinside, if_pos hnew, List.reverse_append]

theorem turn_old (hinside : ¬(!n.covers row) = true) (hold : ¬isNew n cursor = true) :
    Loop.turn s row ⟨(n :: rest).reverse, cursor, collected⟩
      = some ⟨(n.children ++ rest).reverse, cursor, collected⟩ := by
  simp only [Loop.turn, List.reverse_cons, List.getLast?_concat, List.dropLast_concat]
  rw [if_neg hinside, if_neg hold, List.reverse_append]

end OneTurn

theorem turns_succ {l next : Loop} (hturn : l.turn s row = some next) (k : Nat) :
    l.turns s row (k + 1) = next.turns s row k := by
  rw [Loop.turns, hturn, Option.bind_some]

/-! ## §3. All turns. -/

theorem sizes_children_append (n : Node) (rest : List Node) :
    Node.sizes (n.children ++ rest) + 1 = Node.sizes (n :: rest) := by
  cases n
  simp only [Node.sizes, Node.size, Node.sizes_append, Node.children]
  omega

/-- **The loop empties any stack as the walk does**, in no more turns than the stack has nodes. -/
theorem turns_eq_walk (stack : List Node) (cursor : Int) :
    ∀ collected : List Capture, ∃ k ≤ Node.sizes stack,
      Loop.turns s row k ⟨stack.reverse, cursor, collected⟩
        = some ⟨[], (s.walk row stack cursor).2, collected ++ (s.walk row stack cursor).1⟩ := by
  -- The induction is on the calls that the walk makes; each call is one turn.
  fun_induction walk s row stack cursor with
  | case1 cursor =>
    intro collected
    exact ⟨0, Nat.le_refl 0, by rw [List.append_nil]; rfl⟩
  | case2 n rest cursor houtside ih =>
    intro collected
    obtain ⟨k, hk, hturns⟩ := ih collected
    refine ⟨k + 1, ?_, ?_⟩
    · have hsizes := sizes_children_append n rest
      rw [Node.sizes_append] at hsizes
      omega
    · rw [turns_succ (turn_outside rest collected houtside), hturns]
  | case3 n rest cursor hinside hnew c cs next heq ih =>
    intro collected
    obtain ⟨k, hk, hturns⟩ := ih (collected ++ [s.capture n])
    refine ⟨k + 1, ?_, ?_⟩
    · have hsizes := sizes_children_append n rest
      omega
    · rw [turns_succ (turn_new rest collected hinside hnew), hturns, heq, List.append_assoc]
      rfl
  | case4 n rest cursor hinside hold ih =>
    intro collected
    obtain ⟨k, hk, hturns⟩ := ih collected
    refine ⟨k + 1, ?_, ?_⟩
    · have hsizes := sizes_children_append n rest
      omega
    · rw [turns_succ (turn_old rest collected hinside hold), hturns]

/-- **The loop ends, and with the same as a visit along the tree**: on whatever tree, from whatever
cursor and for whatever row.  In a tree that lies within itself a scan of all nodes, which skips
nothing, gives the same again. -/
theorem loop_agrees (s : Scope) (root : Node) (row cursor : Int) :
    (∃ k ≤ root.size, Loop.turns s row k ⟨[root], cursor, []⟩
        = some ⟨[], (s.visit row root cursor).2, (s.visit row root cursor).1⟩)
      ∧ s.collect root row cursor = s.visit row root cursor
      ∧ (root.Within → s.visit row root cursor = s.scan row root.preorder cursor) := by
  refine ⟨?_, collect_eq_visit root cursor, fun hwithin => visit_eq_scan hwithin cursor⟩
  obtain ⟨k, hk, hturns⟩ := @turns_eq_walk s row [root] cursor []
  have hsizes : Node.sizes [root] = root.size := Nat.add_zero _
  refine ⟨k, hsizes ▸ hk, ?_⟩
  rw [← collect_eq_visit]
  exact hturns

/-! ## §4. A sample. -/

namespace Siblings

def contents : String := "def f():\n    a\n    b\ndef g():\n    c\n    d"

/-- Two functions, one after the other. -/
def tree : Node :=
  .node "module" ⟨0, 41, 0, 5⟩
    [.node "function_definition" ⟨0, 20, 0, 2⟩ [.node "block" ⟨13, 20, 1, 2⟩ []],
      .node "function_definition" ⟨21, 41, 3, 5⟩ [.node "block" ⟨34, 41, 4, 5⟩ []]]

def scope : Scope := ⟨Utf8.encodeString contents, "#"⟩

theorem within : tree.Within := by
  unfold Node.Within
  decide

end Siblings

/-- For a row of the second function the first one is skipped with its body, and the scan finds
nothing in it either. -/
theorem siblings_agree :
    Siblings.tree.Within
      ∧ Siblings.scope.visit 4 Siblings.tree (-1)
          = Siblings.scope.scan 4 Siblings.tree.preorder (-1)
      ∧ (Siblings.scope.visit 4 Siblings.tree (-1)).1.map Capture.header = ["# def g():\n#"]
      ∧ (Siblings.scope.visit 4 Siblings.tree (-1)).2 = 4 :=
  ⟨Siblings.within, (loop_agrees Siblings.scope Siblings.tree 4 (-1)).2.2 Siblings.within,
    by decide, by decide⟩

end Breadcrumb.Scope
