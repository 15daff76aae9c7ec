/-
  Breadcrumb.Settings.Cascade
  ───────────────────────────
  **SETTINGS FROM FILES: DEFAULTS, THEN THE PERSON'S, THEN THE PROJECT'S.**

  Each file is laid over what came before it.  A file that is no document, or
  that holds a value which is refused, contributes nothing and leaves a warning;
  a file that is not there is passed over in silence.  A file that the file system
  refuses, or that nests too deep to be read, ends the cascade.
-/
import Breadcrumb.FileTree
import Breadcrumb.Log
import Breadcrumb.Settings.Basic
import Breadcrumb.Settings.Location
import Breadcrumb.Settings.Text
import Breadcrumb.Toml.Reader

namespace Breadcrumb.Settings

open Breadcrumb.Toml

/-! ## §1. One file. -/

/-- Why the data of a file is not to be had. -/
inductive ReadFault where
  /-- There is no file. -/
  | missing (path : Path)
  /-- The file system refuses. -/
  | file (f : FileFault)
  /-- The file is no document. -/
  | load (f : LoadFault)
  deriving DecidableEq, Repr

/-- A fault of reading in words. -/
def ReadFault.message : ReadFault → String
  | .missing path => "Config file not found: " ++ path.text
  | .file f => f.message
  | .load f => f.message

/-- The data of the file that a path names. -/
def readData (files : FileTree) (cwd : Location) (path : Path) : Except ReadFault Table :=
  match files.isPresent cwd path with
  | .error f => .error (.file f)
  | .ok false => .error (.missing path)
  | .ok true =>
    match files.octetsOf cwd path with
    | .error f => .error (.file f)
    | .ok octets =>
      match load octets with
      | .error f => .error (.load f)
      | .ok data => .ok data

/-- Why a file contributes nothing. -/
inductive Rejection where
  /-- It is no document. -/
  | unreadable (f : LoadFault)
  /-- It holds a value that is refused. -/
  | invalid (i : Invalid)
  deriving DecidableEq, Repr

/-- A rejection in words. -/
def Rejection.message : Rejection → String
  | .unreadable f => f.message
  | .invalid i => i.message

/-- Settings with the octets of a file laid over them. -/
def accept (base : Config) (octets : Octets) : Except Rejection Config :=
  match load octets with
  | .error f => .error (.unreadable f)
  | .ok data =>
    match base.overlay data with
    | .error i => .error (.invalid i)
    | .ok c => .ok c

/-! ## §2. The cascade. -/

/-- What the cascade cannot get over. -/
inductive CascadeFault where
  | home (f : NoHome)
  | file (f : FileFault)
  /-- The values of a file nest too deep. -/
  | tooDeep
  deriving DecidableEq, Repr

/-- A fault of the cascade in words. -/
def CascadeFault.message : CascadeFault → String
  | .home f => f.message
  | .file f => f.message
  | .tooDeep => (LoadFault.document .tooDeep).message

/-- The two files of the cascade. -/
inductive Layer where
  /-- The settings of a person. -/
  | global
  /-- The settings of a project. -/
  | project
  deriving DecidableEq, Repr

/-- The record that a file was laid over the settings. -/
def Layer.loaded (layer : Layer) (path : Path) : Log.Record :=
  ⟨.debug, .settings, match layer with
    | .global => "Loaded global config from " ++ path.text
    | .project => "Loaded local config from " ++ path.text⟩

/-- The record that a file contributes nothing. -/
def Layer.rejected (layer : Layer) (path : Path) (reason : String) : Log.Record :=
  ⟨.warning, .settings, match layer with
    | .global =>
      "Failed to parse global config at " ++ path.text ++ ": " ++ reason ++
        ". Ignoring global config."
    | .project =>
      "Failed to parse config.toml: " ++ reason ++ ". Using global/default configuration."⟩

/-- What the cascade gives: the records so far, and the settings or a fault. -/
structure Loaded where
  logs : List Log.Record
  result : Except CascadeFault Config

/-- Settings with a file of octets laid over them as far as it is acceptable, and the record. -/
def Layer.apply (layer : Layer) (path : Path) (base : Config) (octets : Octets) : Loaded :=
  match accept base octets with
  | .ok c => ⟨[layer.loaded path], .ok c⟩
  | .error (.unreadable (.document .tooDeep)) => ⟨[], .error .tooDeep⟩
  | .error r => ⟨[layer.rejected path r.message], .ok base⟩

/-- The layer of a path, which may name nothing. -/
def step (files : FileTree) (cwd : Location) (layer : Layer) (path : Path) (base : Config) :
    Loaded :=
  match files.isPresent cwd path with
  | .error f => ⟨[], .error (.file f)⟩
  | .ok false => ⟨[], .ok base⟩
  | .ok true =>
    match files.octetsOf cwd path with
    | .error f => ⟨[], .error (.file f)⟩
    | .ok octets => layer.apply path base octets

/-- The settings for a directory of project settings. -/
def cascade (surroundings : Surroundings) (files : FileTree) (cwd : Location)
    (directory : Path) : Loaded :=
  match globalFile surroundings with
  | .error f => ⟨[], .error (.home f)⟩
  | .ok path =>
    let first := step files cwd .global path {}
    match first.result with
    | .error _ => first
    | .ok c =>
      let second := step files cwd .project (directory.child fileName) c
      ⟨first.logs ++ second.logs, second.result⟩

/-! ## §3. A first file. -/

/-- Writes the template where settings are to be kept, making the directories on the way. -/
def createFile (files : FileTree) (cwd : Location) (path : Path) : FileTree.Change :=
  (files.makeDirectories cwd path.parent).andThen
    (·.store cwd path (Text.Utf8.encodeString template))

end Breadcrumb.Settings
