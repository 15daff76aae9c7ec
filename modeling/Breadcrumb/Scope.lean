/-
  Breadcrumb.Scope
  ────────────────
  **WHICH DECLARATIONS ENCLOSE A ROW.**

  `collect` walks a tree for the declarations that cover a row and have not been
  collected before.  What "before" means is one number, the cursor: a declaration
  that starts at or before the cursor counts as collected, and collecting one
  moves the cursor to the row where its signature ends.

  The walk keeps a stack of nodes to visit and never enters a node that does not
  cover the row.  Beside it stand two other ways to say the same: `visit`, which
  follows the shape of the tree, and `scan`, which goes through all nodes and
  skips nothing.
-/
import Breadcrumb.Text.Blank
import Breadcrumb.Text.Lines
import Breadcrumb.Text.Utf8
import Breadcrumb.Tree

namespace Breadcrumb

open Breadcrumb.Text

/-- What the signatures of a file are made from: its octets and the mark of a comment. -/
structure Scope where
  source : List Utf8.Octet
  marker : String
  deriving DecidableEq, Repr, Inhabited

/-- A declaration collected: the node, its signature as a comment, and the row where that ends. -/
structure Capture where
  node : Node
  header : String
  endRow : Nat
  deriving Repr, Inhabited

namespace Scope

/-! ## §1. Signatures. -/

/-- Where the signature of a node ends: at its first body, or at its own end.  Octet and row. -/
def headerEnd (n : Node) : Nat × Nat :=
  match n.children.find? Node.isBody with
  | some body => (body.span.startByte, body.span.startRow)
  | none => (n.span.endByte, n.span.endRow)

/-- The octets from one place up to another; none if the places are reversed, and no more than
there are. -/
def slice (octets : List Utf8.Octet) (first last : Nat) : List Utf8.Octet :=
  (octets.drop first).take (last - first)

/-- The text of the signature of a node. -/
def signature (s : Scope) (n : Node) : String :=
  Utf8.decodeString (slice s.source n.span.startByte (headerEnd n).1)

/-- A text as a comment: the mark and a space before every line, and no blanks at either end of the
whole. -/
def comment (marker : String) (text : String) : String :=
  trim (join "\n" ((lines text).map fun line => marker ++ " " ++ line))

/-- The signature of a node as a comment. -/
def header (s : Scope) (n : Node) : String := comment s.marker (s.signature n)

/-- The declaration as collected. -/
def capture (s : Scope) (n : Node) : Capture := ⟨n, s.header n, (headerEnd n).2⟩

/-! ## §2. The walk. -/

/-- A declaration that starts after the cursor. -/
def isNew (n : Node) (cursor : Int) : Bool := n.isDeclaration && cursor < n.span.startRow

/-- Visits the nodes of a stack, top first.  Children go on top of what is left, first child
uppermost. -/
def walk (s : Scope) (row : Int) : List Node → Int → List Capture × Int
  | [], cursor => ([], cursor)
  | n :: rest, cursor =>
    if !n.covers row then walk s row rest cursor
    else if isNew n cursor then
      let c := s.capture n
      let (cs, cursor) := walk s row (n.children ++ rest) c.endRow
      (c :: cs, cursor)
    else walk s row (n.children ++ rest) cursor
termination_by stack => Node.sizes stack
decreasing_by
  all_goals
    cases n
    simp only [Node.sizes, Node.size, Node.sizes_append, Node.children]
    omega

/-- The declarations that cover a row and are new to the cursor, outermost first, and the cursor
after them. -/
def collect (s : Scope) (root : Node) (row : Int) (cursor : Int) : List Capture × Int :=
  s.walk row [root] cursor

/-! ## §3. The same along the tree, and without skipping. -/

mutual

/-- Visits a node and then its children, unless the node does not cover the row. -/
def visit (s : Scope) (row : Int) : Node → Int → List Capture × Int
  | n@(.node _ _ children), cursor =>
    if !n.covers row then ([], cursor)
    else if isNew n cursor then
      let c := s.capture n
      let (cs, cursor) := visitAll s row children c.endRow
      (c :: cs, cursor)
    else visitAll s row children cursor

/-- Visits trees one after the other. -/
def visitAll (s : Scope) (row : Int) : List Node → Int → List Capture × Int
  | [], cursor => ([], cursor)
  | n :: ns, cursor =>
    let (first, cursor) := visit s row n cursor
    let (later, cursor) := visitAll s row ns cursor
    (first ++ later, cursor)

end

/-- Goes through a list of nodes and collects those that cover the row and are new. -/
def scan (s : Scope) (row : Int) : List Node → Int → List Capture × Int
  | [], cursor => ([], cursor)
  | n :: ns, cursor =>
    if n.covers row && isNew n cursor then
      let c := s.capture n
      let (cs, cursor) := scan s row ns c.endRow
      (c :: cs, cursor)
    else scan s row ns cursor

/-! ## §4. Breadcrumbs. -/

/-- Headers as the beginning of a chunk: each ends its line. -/
def render : List String → String
  | [] => ""
  | header :: headers => join "\n" (header :: headers) ++ "\n"

/-- The breadcrumb of declarations. -/
def breadcrumb (cs : List Capture) : String := render (cs.map Capture.header)

end Scope

end Breadcrumb
