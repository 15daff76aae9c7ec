/-
  Breadcrumb.Settings.Location
  ────────────────────────────
  **WHERE SETTINGS ARE KEPT.**

  A project keeps its settings in a directory of its own.  A person's settings,
  for all projects, lie where the system keeps settings: a variable may say where
  (another one on Windows), and without it they lie below the home directory.
-/
import Breadcrumb.Path

namespace Breadcrumb.Settings

/-- What a program is told about where it runs. -/
structure Surroundings where
  /-- The name of the system. -/
  system : String := "Linux"
  /-- The variables that are set, and what to. -/
  assigned : List (String × String) := []
  deriving DecidableEq, Repr, Inhabited

/-- A variable; one that is not set reads as empty. -/
def Surroundings.get (s : Surroundings) (name : String) : String :=
  ((s.assigned.find? (·.1 = name)).map (·.2)).getD ""

/-- The home directory cannot be told. -/
inductive NoHome where
  | noHome
  deriving DecidableEq, Repr

/-- The words for it. -/
def NoHome.message : NoHome → String
  | .noHome => "Could not determine home directory."

/-- The home directory: the variable without its trailing slashes, or the root. -/
def home (s : Surroundings) : Except NoHome Path :=
  let cs := ((s.get "HOME").toList.reverse.dropWhile (· = '/')).reverse
  if cs.isEmpty then .ok (Path.ofString "/")
  else if cs.head? = some '~' then .error .noHome
  else .ok (Path.ofString (String.ofList cs))

/-- The name of the file of settings. -/
def fileName : String := "config.toml"

/-- The directory of a project's settings. -/
def localDirectory (project : Path) : Path := project.child ".scopechunk"

/-- The file of a person's settings. -/
def globalFile (s : Surroundings) : Except NoHome Path := do
  let named := s.get (if s.system = "Windows" then "APPDATA" else "XDG_CONFIG_HOME")
  let base ← if named = "" then (home s).map (·.child ".config") else .ok (Path.ofString named)
  return (base.child "scopechunk").child fileName

end Breadcrumb.Settings
