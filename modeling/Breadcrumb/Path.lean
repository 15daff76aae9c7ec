/-
  Breadcrumb.Path
  ───────────────
  **FILE PATHS AS NAMES.**

  A path is a root (none, one slash, or the two slashes that POSIX keeps apart)
  and the names below it.  Reading a path drops empty names and single dots and
  keeps double dots, because what `a/..` means is for the file system to say.
  The extension of a path decides its grammar and its comment marker.
-/
import Breadcrumb.Text.Lines

namespace Breadcrumb

/-- A path: how many slashes it starts with (two at most) and its names. -/
structure Path where
  slashes : Nat
  names : List String
  deriving DecidableEq, Repr, Inhabited

namespace Path

open Breadcrumb.Text

/-! ## §1. Reading and writing. -/

/-- The slashes a text starts with: exactly two are kept, any other number counts as one. -/
def leadingSlashes (cs : List Char) : Nat :=
  match (cs.takeWhile (· = '/')).length with
  | 0 => 0
  | 2 => 2
  | _ => 1

/-- Whether a name between slashes stands for something: it is neither empty nor a single dot. -/
def isName (name : String) : Bool := name != "" && name != "."

/-- The path that a text names. -/
def ofString (s : String) : Path where
  slashes := leadingSlashes s.toList
  names := ((splitOn '/' s.toList).map String.ofList).filter isName

/-- The text of a path; the empty relative path is a single dot. -/
def text (p : Path) : String :=
  if p.slashes = 0 && p.names.isEmpty then "."
  else String.ofList (List.replicate p.slashes '/') ++ join "/" p.names

instance : ToString Path := ⟨text⟩

/-! ## §2. Parts of a path. -/

/-- The path of an entry of the directory. -/
def child (p : Path) (name : String) : Path := { p with names := p.names ++ [name] }

/-- The directory that a path lies in; a path without names is its own. -/
def parent (p : Path) : Path := { p with names := p.names.dropLast }

/-- The last name, empty if there is none. -/
def name (p : Path) : String := p.names.getLastD ""

/-- The last name from its last dot on, if that dot is neither its first nor its last character. -/
def suffix (p : Path) : String :=
  let cs := p.name.toList
  let tail := (cs.reverse.takeWhile (· ≠ '.')).reverse
  if tail.isEmpty || cs.length ≤ tail.length + 1 then ""
  else String.ofList ('.' :: tail)

/-! ## §3. Extensions. -/

/-- The small letter of a character, where that is an ASCII letter: A to Z and the Kelvin sign are
all the characters for which it is.  An extension with any other capital stays unlisted in
whatever case it is written. -/
def foldCase (c : Char) : Char :=
  if 'A' ≤ c && c ≤ 'Z' then Char.ofNat (c.toNat + 32)
  else if c.toNat = 0x212A then 'k'
  else c

/-- An extension as the tables list it: in small letters and without leading dots. -/
def extensionKey (extension : String) : String :=
  String.ofList ((extension.toList.map foldCase).dropWhile (· = '.'))

/-- The extension of a path as the tables list it. -/
def extension (p : Path) : String := extensionKey p.suffix

end Path

end Breadcrumb
