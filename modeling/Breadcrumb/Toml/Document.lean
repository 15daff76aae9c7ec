/-
  Breadcrumb.Toml.Document
  ────────────────────────
  **THE TABLES OF A DOCUMENT WHILE IT IS READ.**

  The statements of a document fill one table.  Which statements may still
  follow depends on how a table came to be, so two sets of keys are kept beside
  the data: `frozen` keys hold an inline table or a list, and nothing at or below
  them can be extended; `declared` keys have been opened by a header or by the
  dotted keys of a section that is over, and cannot be opened so again.
-/
import Breadcrumb.Toml.Scan

namespace Breadcrumb.Toml

/-- A dotted key. -/
abbrev Key := List String

/-- The document read so far. -/
structure Document where
  /-- The data. -/
  root : Table := []
  /-- The key of the section that assignments fall in. -/
  header : Key := []
  /-- Nothing at or below these keys can be extended. -/
  frozen : List Key := []
  /-- These tables cannot be opened again. -/
  declared : List Key := []
  /-- Tables opened by dotted keys of this section; the next header declares them. -/
  pending : List Key := []

/-! ## §1. Reaching into tables. -/

/-- Applies `f` to the table behind a key, making tables on the way.  A list of tables stands for
its last one if `openLists` says so; anything else in the way is a fault. -/
def reach (openLists : Bool) (f : Table → Except Fault Table) : Key → Table → Except Fault Table
  | [], t => f t
  | k :: ks, t =>
    match t.get? k with
    | none => do
      let inner ← reach openLists f ks []
      return t.put k (.table inner)
    | some (.table entries) => do
      let inner ← reach openLists f ks entries
      return t.put k (.table inner)
    | some (.list items) =>
      match openLists, items.getLast? with
      | true, some (.table entries) => do
        let inner ← reach openLists f ks entries
        return t.put k (.list (items.dropLast ++ [.table inner]))
      | _, _ => .error .malformed
    | some _ => .error .malformed

/-- Puts a value under a key that has none. -/
def define (key : String) (v : Value) (t : Table) : Except Fault Table :=
  if (t.get? key).isSome then .error .malformed else .ok (t.put key v)

/-- Adds an empty table to the list of tables under a key, which is made if there is none. -/
def appendTable (key : String) (t : Table) : Except Fault Table :=
  match t.get? key with
  | none => .ok (t.put key (.list [.table []]))
  | some (.list items) => .ok (t.put key (.list (items ++ [.table []])))
  | some _ => .error .malformed

/-- Whether a value is a list or a table, which makes its key frozen. -/
def isContainer : Value → Bool
  | .list _ | .table _ => true
  | _ => false

namespace Document

/-! ## §2. What a document still admits. -/

/-- A key at or below a frozen one. -/
def isFrozen (d : Document) (key : Key) : Bool := d.frozen.any (·.isPrefixOf key)

/-- A key that cannot be opened again. -/
def isDeclared (d : Document) (key : Key) : Bool := d.declared.contains key

/-- A header ends the section: what its dotted keys opened is declared now. -/
def closeSection (d : Document) : Document :=
  { d with declared := d.pending ++ d.declared, pending := [] }

/-! ## §3. Statements. -/

/-- The header of a table. -/
def openTable (d : Document) (key : Key) : Except Fault Document := do
  if d.isDeclared key || d.isFrozen key then .error .malformed
  let root ← reach true .ok key d.root
  return { d with root, header := key, declared := key :: d.declared }

/-- The header of one more table of a list. -/
def openListItem (d : Document) (key : Key) : Except Fault Document := do
  if d.isFrozen key then .error .malformed
  let root ← reach true (appendTable (key.getLastD "")) key.dropLast d.root
  return { d with
    root
    header := key
    frozen := d.frozen.filter fun k => !key.isPrefixOf k
    declared := key :: d.declared.filter fun k => !key.isPrefixOf k }

/-- The proper beginnings of a key, shortest first. -/
def beginnings (key : Key) : List Key :=
  (List.range (key.length - 1)).map fun i => key.take (i + 1)

/-- An assignment in the current section. -/
def assign (d : Document) (key : Key) (v : Value) : Except Fault Document := do
  let onTheWay := (beginnings key).map (d.header ++ ·)
  if onTheWay.any d.isDeclared then .error .malformed
  let home := d.header ++ key.dropLast
  if d.isFrozen home then .error .malformed
  let root ← reach true (define (key.getLastD "") v) home d.root
  return { d with
    root
    pending := onTheWay ++ d.pending
    frozen := if isContainer v then (d.header ++ key) :: d.frozen else d.frozen }

end Document

end Breadcrumb.Toml
