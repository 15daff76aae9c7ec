/-
  Breadcrumb.Language.Grammar
  ───────────────────────────
  **THE LANGUAGES THAT CAN BE PARSED.**

  A language is known by one name and owns some extensions.  The grammar behind
  it is an entry of a package; two languages may share one.
-/
import Breadcrumb.Path

namespace Breadcrumb.Language

/-- A language: its name, the package and entry of its grammar, and its extensions. -/
structure Grammar where
  name : String
  package : String
  entry : String
  extensions : List String
  deriving DecidableEq, Repr, Inhabited

/-- The languages. -/
def grammars : List Grammar :=
  [ ⟨"python", "tree_sitter_python", "language", ["py", "pyw", "pyi"]⟩,
    ⟨"typescript", "tree_sitter_typescript", "language_typescript", ["ts", "mts", "cts"]⟩,
    ⟨"tsx", "tree_sitter_typescript", "language_tsx", ["tsx", "jsx"]⟩,
    ⟨"javascript", "tree_sitter_typescript", "language_typescript", ["js", "mjs", "cjs"]⟩,
    ⟨"go", "tree_sitter_go", "language", ["go"]⟩,
    ⟨"rust", "tree_sitter_rust", "language", ["rs"]⟩,
    ⟨"java", "tree_sitter_java", "language", ["java"]⟩,
    ⟨"c", "tree_sitter_c", "language", ["c", "h"]⟩,
    ⟨"cpp", "tree_sitter_cpp", "language",
      ["cpp", "hpp", "cc", "cxx", "hxx", "hh", "cp", "inc", "ccm", "c++m", "cppm", "cxxm"]⟩,
    ⟨"csharp", "tree_sitter_c_sharp", "language", ["cs"]⟩,
    ⟨"ruby", "tree_sitter_ruby", "language", ["rb"]⟩ ]

/-- The language of a name. -/
def byName? (name : String) : Option Grammar := grammars.find? (·.name = name)

/-- The language that owns an extension, with or without its dot and in any case. -/
def byExtension? (extension : String) : Option Grammar :=
  grammars.find? (·.extensions.contains (Path.extensionKey extension))

/-- The language of a file. -/
def byPath? (path : Path) : Option Grammar := byExtension? path.suffix

/-- All extensions with a language. -/
def owned : List String := grammars.flatMap Grammar.extensions

/-- All extensions with a language, in ascending order. -/
def extensions : List String := owned.mergeSort fun a b => a ≤ b

/-- A file whose extension is one of them. -/
def isSupported (path : Path) : Bool := owned.contains path.extension

/-- These are the files that a language is found for. -/
theorem isSupported_eq (path : Path) : isSupported path = (byPath? path).isSome := by
  unfold isSupported owned byPath? byExtension?
  rw [Bool.eq_iff_iff, List.contains_iff_mem, List.mem_flatMap, List.find?_isSome]
  simp only [List.contains_iff_mem]
  rfl

/-- The language of a file is one of them. -/
theorem mem_of_byPath? {path : Path} {g : Grammar} (h : byPath? path = some g) : g ∈ grammars := by
  unfold byPath? byExtension? at h
  exact List.mem_of_find?_eq_some h

/-- A language is found by its own name. -/
theorem isSome_byName? {g : Grammar} (h : g ∈ grammars) : (byName? g.name).isSome = true :=
  List.find?_isSome.mpr ⟨g, h, decide_eq_true rfl⟩

/-- No extension has two languages. -/
theorem nodup_extensions : (grammars.flatMap Grammar.extensions).Nodup := by decide

/-- No name has two languages. -/
theorem nodup_names : (grammars.map Grammar.name).Nodup := by decide

end Breadcrumb.Language
