/-
  Breadcrumb.Main
  ───────────────
  **THE PROGRAM.**

  Everything that is decided is decided by `CommandLine.run`.  What is here takes
  a picture of the files that the arguments and the settings name, runs, prints,
  and writes what has changed.  No grammar and no vocabulary is built in, so every
  file counts as one without a tree.
-/
import Breadcrumb.CommandLine.Session

namespace Breadcrumb.Program

open Breadcrumb.CommandLine Breadcrumb.Settings

/-- The picture with what a text names, and all below it. -/
partial def picture (t : FileTree) (named : String) : IO FileTree := do
  let real ← try pure (some (← IO.FS.realPath named)) catch _ => pure none
  match real with
  | none => return t
  | some real =>
    let there := (Path.ofString real.toString).names
    if ← real.isDir then
      let mut t := t.plant there .directory
      for e in ← real.readDir do
        t ← picture t (named ++ "/" ++ e.fileName)
      return t
    else
      let octets ← try pure (some (← IO.FS.readBinFile real)) catch _ => pure none
      return match octets with
        | some octets => t.plant there (.file octets.toList)
        | none => t

/-- Writes an entry that has changed. -/
def store (there : Location) : Entry → IO Unit
  | .directory => IO.FS.createDirAll (Path.text ⟨1, there⟩)
  | .file octets => IO.FS.writeBinFile (Path.text ⟨1, there⟩) ⟨octets.toArray⟩

/-- The variables that matter. -/
def assigned : IO (List (String × String)) := do
  let mut found := []
  for name in ["HOME", "XDG_CONFIG_HOME", "APPDATA", columnsVariable] do
    if let some text ← IO.getEnv name then
      found := found ++ [(name, text)]
  return found

/-- No file has a tree, and no encoding has a vocabulary. -/
def tools : Tools where
  parse := fun _ _ => .ok none
  encoding := fun name => Tokens.Encodings.find [] name

/-- Runs the program. -/
def start (args : List String) : IO UInt32 := do
  let here := (← IO.currentDir).toString
  let surroundings : Surroundings := { assigned := ← assigned }
  let cwd := (Path.ofString here).names
  let settings := (localDirectory (Path.ofString here)).text ::
    (match globalFile surroundings with
      | .ok path => [path.text]
      | .error _ => [])
  let mut files := FileTree.plant ⟨[]⟩ cwd .directory
  for named in args ++ settings do
    files ← picture files named
  let screen : Screen := { width := helpWidth surroundings }
  let r := run tools { surroundings, files, cwd } screen productName args
  for record in r.logs do
    IO.eprintln (record.line (toString (← IO.monoMsNow)))
  IO.print r.out
  IO.eprint r.err
  if let some fault := r.brokenOff then
    IO.eprintln fault.message
  for (there, e) in FileTree.changes files r.files do
    store there e
  return UInt32.ofNat r.exitCode

end Breadcrumb.Program

/-- The program. -/
def main (args : List String) : IO UInt32 := Breadcrumb.Program.start args
