/-
  Breadcrumb.FileTree
  ───────────────────
  **A FILE SYSTEM AS A VALUE.**

  A tree maps locations (the names from the root down) to directories and files.
  What a path means is found name by name (`walk`), as a file system does it: a
  double dot goes up from where the walk is, every name but the last has to be a
  directory, and even a trailing slash asks for a directory.  On its way down a
  walk looks only at what lies below it (`below`), which has the same entries as
  the whole tree has there (`entry?_view`).

  Changes give a new tree: `makeDirectories` and `store`.  What was made before a
  change met with a fault is not taken back (`Change`).  `changes` tells two trees
  apart.
-/
import Breadcrumb.Path
import Breadcrumb.Text.Quoted
import Breadcrumb.Text.Utf8

namespace Breadcrumb

open Breadcrumb.Text

/-- The octets of a file. -/
abbrev Octets := List Utf8.Octet

/-- The names from the root down. -/
abbrev Location := List String

/-- What lies at a location. -/
inductive Entry where
  | directory
  | file (octets : Octets)
  deriving DecidableEq, Repr, Inhabited

/-- A file system: its entries other than the root, which is a directory. -/
structure FileTree where
  entries : List (Location × Entry)
  deriving DecidableEq, Repr, Inhabited

/-- Why the file system refuses. -/
inductive FileCause where
  /-- There is nothing there. -/
  | absent
  /-- There is something already. -/
  | present
  /-- A name on the way is a file. -/
  | notDirectory
  /-- A file is wanted and there is a directory. -/
  | isDirectory
  /-- A name has more than 255 octets, or the whole path 4096 or more. -/
  | nameTooLong
  /-- The path has a NUL in it, with which no path can be asked for. -/
  | holdsNul
  /-- More directories are missing on the way than are made at once. -/
  | tooDeep
  deriving DecidableEq, Repr

/-- A refusal, with the path that was asked for. -/
structure FileFault where
  cause : FileCause
  path : Path
  deriving DecidableEq, Repr

/-- The number of a refusal, where the file system itself has been asked. -/
def FileCause.number? : FileCause → Option Nat
  | .absent => some 2
  | .present => some 17
  | .notDirectory => some 20
  | .isDirectory => some 21
  | .nameTooLong => some 36
  | .holdsNul | .tooDeep => none

/-- The words for a refusal. -/
def FileCause.text : FileCause → String
  | .absent => "No such file or directory"
  | .present => "File exists"
  | .notDirectory => "Not a directory"
  | .isDirectory => "Is a directory"
  | .nameTooLong => "File name too long"
  | .holdsNul => "embedded null byte"
  | .tooDeep => "maximum recursion depth exceeded while calling a Python object"

/-- A refusal in words. -/
def FileFault.message (f : FileFault) : String :=
  match f.cause.number? with
  | some n => s!"[Errno {n}] {f.cause.text}: " ++ quote f.path.text
  | none => f.cause.text

namespace FileTree

/-! ## §1. Looking. -/

/-- The entry at a location. -/
def entry? (t : FileTree) (at_ : Location) : Option Entry :=
  if at_.isEmpty then some .directory else (t.entries.find? (·.1 = at_)).map (·.2)

/-- The longest name, in octets. -/
def nameLimit : Nat := 255

/-- The length that a whole path must stay below, in octets. -/
def pathLimit : Nat := 4096

/-- Why a text cannot be a path, if it cannot. -/
def unfit? (s : String) : Option FileCause :=
  if s.toList.contains '\x00' then some .holdsNul
  else if pathLimit ≤ s.utf8ByteSize then some .nameTooLong
  else none

/-- What lies below a name, as seen from there. -/
def below (t : FileTree) (name : String) : FileTree :=
  ⟨t.entries.filterMap fun (there, e) =>
    match there with
    | first :: next :: rest => if first = name then some (next :: rest, e) else none
    | _ => none⟩

/-- What lies below a location, as seen from there. -/
def view (t : FileTree) (here : Location) : FileTree := here.foldl below t

theorem entry?_below (t : FileTree) (name next : String) (rest : Location) :
    FileTree.entry? (t.below name) (next :: rest) = t.entry? (name :: next :: rest) := by
  obtain ⟨entries⟩ := t
  simp only [ entry?, below, List.isEmpty_cons, Bool.false_eq_true, if_false]
  induction entries with
  | nil => rfl
  | cons entry others ih =>
    obtain ⟨there, e⟩ := entry
    match there with
    | [] => simpa only [List.filterMap_cons, List.find?_cons, reduceCtorEq, decide_false] using ih
    | [first] =>
      simpa only [List.filterMap_cons, List.find?_cons, List.cons.injEq, reduceCtorEq, and_false,
        decide_false] using ih
    | first :: second :: more =>
      by_cases hf : first = name
      · simp only [List.filterMap_cons, hf, if_true, List.find?_cons, List.cons.injEq, true_and]
        split
        · rfl
        · exact ih
      · simpa only [List.filterMap_cons, hf, if_false, List.find?_cons, List.cons.injEq, false_and,
          decide_false] using ih

/-- A view has the entries that the tree has below the location. -/
theorem entry?_view (t : FileTree) (here : Location) (next : String) (rest : Location) :
    FileTree.entry? (t.view here) (next :: rest) = t.entry? (here ++ next :: rest) := by
  induction here generalizing t with
  | nil => rfl
  | cons name more ih =>
    have step := ih (t.below name)
    cases more with
    | nil => simpa [view] using entry?_below t name next rest
    | cons second others =>
      simp only [view, List.foldl_cons, List.cons_append] at step ⊢
      rw [step, entry?_below]

/-- Follows names from a directory; `seen` is the view from there. -/
def follow (t : FileTree) (here : Location) (seen : FileTree) :
    List String → Except FileCause Location
  | [] => .ok here
  | name :: rest =>
    if name = "" || name = "." then t.follow here seen rest
    else if name = ".." then t.follow here.dropLast (t.view here.dropLast) rest
    else if nameLimit < name.utf8ByteSize then .error .nameTooLong
    else
      match seen.entry? [name] with
      | some .directory => t.follow (here ++ [name]) (seen.below name) rest
      | some (.file _) => if rest.isEmpty then .ok (here ++ [name]) else .error .notDirectory
      | none => .error .absent

/-- Follows names from a location. -/
def walk (t : FileTree) (here : Location) (names : List String) : Except FileCause Location :=
  if names.isEmpty then .ok here
  else
    match t.entry? here with
    | some .directory => t.follow here (t.view here) names
    | some (.file _) => .error .notDirectory
    | none => .error .absent

/-- The location that a text names, seen from a directory.  The empty text names nothing. -/
def locate (t : FileTree) (cwd : Location) (s : String) : Except FileCause Location :=
  match unfit? s with
  | some c => .error c
  | none =>
    if s = "" then .error .absent
    else
      let names := (splitOn '/' s.toList).map String.ofList
      t.walk (if s.toList.head? = some '/' then [] else cwd) names

/-- The entry that a text names. -/
def stat (t : FileTree) (cwd : Location) (s : String) : Except FileCause Entry :=
  match t.locate cwd s with
  | .error c => .error c
  | .ok there => match t.entry? there with
    | some e => .ok e
    | none => .error .absent

/-- Whether a path names anything.  Only a name that is too long is a fault. -/
def isPresent (t : FileTree) (cwd : Location) (p : Path) : Except FileFault Bool :=
  match t.stat cwd p.text with
  | .ok _ => .ok true
  | .error .nameTooLong => .error ⟨.nameTooLong, p⟩
  | .error _ => .ok false

/-- Whether a path names a directory. -/
def isDirectory (t : FileTree) (cwd : Location) (p : Path) : Bool :=
  match t.stat cwd p.text with
  | .ok .directory => true
  | _ => false

/-- The octets of the file that a path names. -/
def octetsOf (t : FileTree) (cwd : Location) (p : Path) : Except FileFault Octets :=
  match t.stat cwd p.text with
  | .ok (.file octets) => .ok octets
  | .ok .directory => .error ⟨.isDirectory, p⟩
  | .error c => .error ⟨c, p⟩

/-- The order of locations: name by name, a directory before what lies below it. -/
def precedes : Location → Location → Bool
  | [], _ => true
  | _ :: _, [] => false
  | a :: as, b :: bs => if a = b then precedes as bs else a < b

/-- The files below a directory, in order, by their names from the directory down. -/
def filesBelow (t : FileTree) (directory : Location) : List Location :=
  let below := t.entries.filterMap fun (there, e) =>
    match e with
    | .file _ =>
      if directory.isPrefixOf there && directory.length < there.length
      then some (there.drop directory.length) else none
    | .directory => none
  below.mergeSort precedes

/-! ## §2. Changing. -/

/-- The tree with an entry at a location. -/
def put (t : FileTree) (at_ : Location) (e : Entry) : FileTree :=
  if (t.entry? at_).isSome then
    ⟨t.entries.map fun (there, old) => if there = at_ then (there, e) else (there, old)⟩
  else ⟨t.entries ++ [(at_, e)]⟩

/-- The tree with an entry at a location, and with the directories that the location lies in. -/
def plant (t : FileTree) (at_ : Location) (e : Entry) : FileTree :=
  let t := (List.range at_.length).foldl (fun t n =>
    if (t.entry? (at_.take n)).isSome then t else t.put (at_.take n) .directory) t
  t.put at_ e

/-- The location of the directory that a path lies in, and the path's last name. -/
def directoryOf (t : FileTree) (cwd : Location) (p : Path) : Except FileCause (Location × String) :=
  match unfit? p.text with
  | some c => .error c
  | none =>
    match t.walk (if p.slashes = 0 then cwd else []) p.names.dropLast with
    | .error c => .error c
    | .ok there =>
      match t.entry? there with
      | some .directory =>
        if nameLimit < p.name.utf8ByteSize then .error .nameTooLong else .ok (there, p.name)
      | some (.file _) => .error .notDirectory
      | none => .error .absent

/-- Makes one directory, which must not be there. -/
def makeDirectory (t : FileTree) (cwd : Location) (p : Path) : Except FileCause FileTree :=
  match t.directoryOf cwd p with
  | .error c => .error c
  | .ok (there, name) =>
    if name = "" || name = ".." then .error .present
    else if (t.entry? (there ++ [name])).isSome then .error .present
    else .ok (t.put (there ++ [name]) .directory)

/-- Makes a directory that may be there. -/
def ensureDirectory (t : FileTree) (cwd : Location) (p : Path) : Except FileFault FileTree :=
  match t.makeDirectory cwd p with
  | .ok t' => .ok t'
  | .error c => if t.isDirectory cwd p then .ok t else .error ⟨c, p⟩

/-- A change as far as it went: the tree that it left, and the fault that ended it early. -/
structure Change where
  tree : FileTree
  fault : Option FileFault := none
  deriving DecidableEq, Repr, Inhabited

/-- One step of a change, which changes all or nothing. -/
def attempt (t : FileTree) : Except FileFault FileTree → Change
  | .ok t' => { tree := t' }
  | .error f => { tree := t, fault := some f }

/-- A change with one more step, which is not taken after a fault. -/
def Change.andThen (c : Change) (next : FileTree → Except FileFault FileTree) : Change :=
  if c.fault.isSome then c else c.tree.attempt (next c.tree)

/-- How many directories are made at once. -/
def missingLimit : Nat := 985

/-- Makes a directory and those it lies in, as far as they are missing.  Nothing is made if too many
are. -/
def makeDirectories (t : FileTree) (cwd : Location) (p : Path) : Change :=
  go p.names.length missingLimit p
where
  /-- The first argument is the number of names of the path, the second how many directories may
  still be made. -/
  go : Nat → Nat → Path → Change
    | 0, _, p => t.attempt (t.ensureDirectory cwd p)
    | n + 1, left, p =>
      match t.makeDirectory cwd p with
      | .error .absent =>
        if left ≤ 1 then t.attempt (.error ⟨.tooDeep, p⟩)
        else (go n (left - 1) p.parent).andThen (·.ensureDirectory cwd p)
      | _ => t.attempt (t.ensureDirectory cwd p)

/-- Writes a file, which replaces one that is there. -/
def store (t : FileTree) (cwd : Location) (p : Path) (octets : Octets) :
    Except FileFault FileTree :=
  match t.directoryOf cwd p with
  | .error c => .error ⟨c, p⟩
  | .ok (there, name) =>
    if name = "" || name = ".." then .error ⟨.isDirectory, p⟩
    else
      match t.entry? (there ++ [name]) with
      | some .directory => .error ⟨.isDirectory, p⟩
      | _ => .ok (t.put (there ++ [name]) (.file octets))

/-- The entries of a tree that another tree does not have, or has with other octets. -/
def changes (before after : FileTree) : List (Location × Entry) :=
  after.entries.filter fun (there, e) => before.entry? there != some e

end FileTree

end Breadcrumb
