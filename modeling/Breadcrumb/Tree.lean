/-
  Breadcrumb.Tree
  ───────────────
  **SYNTAX TREES.**

  A node has a kind, a span of octets and rows of the source, and children in
  source order.  Two sets of kinds matter: declarations, whose signatures make
  breadcrumbs, and bodies, where a signature ends.

  `Node.preorder` lists a tree root first and children left to right; a tree can
  be built back from that order and the depths of its nodes (`ofRows?`).
-/
import Breadcrumb.Text.Search

namespace Breadcrumb

/-! ## §1. Nodes. -/

/-- Where a node lies: octets from `startByte` up to `endByte`, and its first and last row. -/
structure Span where
  startByte : Nat
  endByte : Nat
  startRow : Nat
  endRow : Nat
  deriving DecidableEq, Repr, Inhabited

/-- A node of a syntax tree. -/
inductive Node where
  | node (kind : String) (span : Span) (children : List Node)
  deriving Repr, Inhabited

namespace Node

open Breadcrumb.Text

/-- The name of the grammar for what the node is. -/
def kind : Node → String
  | node kind _ _ => kind

/-- Where the node lies. -/
def span : Node → Span
  | node _ span _ => span

/-- The children, in source order. -/
def children : Node → List Node
  | node _ _ children => children

/-- The row lies between the first and the last row of the node. -/
def covers (n : Node) (row : Int) : Bool := n.span.startRow ≤ row && row ≤ n.span.endRow

mutual

/-- The number of nodes of a tree. -/
def size : Node → Nat
  | node _ _ children => sizes children + 1

/-- The number of nodes of several trees. -/
def sizes : List Node → Nat
  | [] => 0
  | n :: ns => size n + sizes ns

end

theorem sizes_append (ms ns : List Node) : sizes (ms ++ ns) = sizes ms + sizes ns := by
  induction ms with
  | nil => simp [sizes]
  | cons m ms ih => simp [sizes, ih]; omega

mutual

/-- The nodes of a tree, root first and children left to right. -/
def preorder : Node → List Node
  | n@(node _ _ children) => n :: preorders children

/-- The nodes of several trees. -/
def preorders : List Node → List Node
  | [] => []
  | n :: ns => preorder n ++ preorders ns

end

/-! ## §2. Kinds. -/

/-- What the kind of a declaration contains. -/
def declarationMarks : List String :=
  ["_declaration", "_definition", "function_expression", "function_item"]

/-- The kinds of bodies. -/
def bodyKinds : List String := ["block", "statement_block", "class_body", "declaration_list"]

/-- A kind whose signature belongs in a breadcrumb. -/
def isDeclarationKind (kind : String) : Bool :=
  declarationMarks.any fun mark => occursIn mark.toList kind.toList

/-- A node whose signature belongs in a breadcrumb. -/
def isDeclaration (n : Node) : Bool := isDeclarationKind n.kind

/-- A node that is the body of the one above it. -/
def isBody (n : Node) : Bool := bodyKinds.contains n.kind

/-! ## §3. Trees from rows. -/

/-- A node without its children, and how deep it lies. -/
structure Row where
  depth : Nat
  kind : String
  span : Span
  deriving DecidableEq, Repr, Inhabited

/-- The trees at a depth that the rows begin with, and the rows after them.  A row one deeper is a
child of the nearest row before it at this depth. -/
def forest : Nat → Nat → List Row → List Node × List Row
  | 0, _, rows => ([], rows)
  | _ + 1, _, [] => ([], [])
  | fuel + 1, depth, row :: rows =>
    if row.depth = depth then
      let (children, rows) := forest fuel (depth + 1) rows
      let (siblings, rows) := forest fuel depth rows
      (node row.kind row.span children :: siblings, rows)
    else ([], row :: rows)

/-- The tree whose preorder the rows are. -/
def ofRows? (rows : List Row) : Option Node := (forest (rows.length + 1) 0 rows).1.head?

end Node

end Breadcrumb
