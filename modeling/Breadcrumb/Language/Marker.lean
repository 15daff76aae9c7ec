/-
  Breadcrumb.Language.Marker
  ──────────────────────────
  **HOW A COMMENT BEGINS, BY EXTENSION.**

  A breadcrumb is written so that it reads as a comment in the language of its
  file.  Languages that only have comments with two ends contribute both ends,
  which are put before each line as they are.
-/
import Breadcrumb.Path

namespace Breadcrumb.Language

/-- The mark where the table has none. -/
def defaultMarker : String := "//"

/-- The marks of comments by extension. -/
def markers : List (String × String) :=
  [ -- C, C++ and C#
    ("c", "//"), ("h", "//"), ("cpp", "//"), ("hpp", "//"), ("cc", "//"), ("cxx", "//"),
    ("hxx", "//"), ("cp", "//"), ("hh", "//"), ("inc", "//"), ("ccm", "//"), ("c++m", "//"),
    ("cppm", "//"), ("cxxm", "//"), ("cs", "//"),
    -- CSS
    ("css", "/* */"),
    -- PHP
    ("php", "//"), ("phtml", "//"), ("php3", "//"), ("php4", "//"), ("php5", "//"),
    ("php7", "//"), ("phps", "//"), ("php-s", "//"),
    -- Shell
    ("bash", "#"), ("sh", "#"),
    -- JavaScript and TypeScript
    ("json", "//"), ("ts", "//"), ("mts", "//"), ("cts", "//"), ("tsx", "//"), ("js", "//"),
    ("jsx", "//"), ("mjs", "//"), ("cjs", "//"), ("vue", "<!-- -->"),
    -- Elm
    ("elm", "--"),
    -- Python
    ("py", "#"), ("pyw", "#"), ("pyi", "#"),
    -- Emacs Lisp
    ("el", ";;"), ("emacs", ";;"),
    -- Elixir
    ("ex", "#"), ("exs", "#"), ("eex", "<!-- -->"), ("heex", "<!-- -->"), ("leex", "<!-- -->"),
    -- Go
    ("go", "//"),
    -- HTML
    ("html", "<!-- -->"), ("htm", "<!-- -->"),
    -- The Java machine
    ("java", "//"), ("kt", "//"), ("scala", "//"),
    -- Lua
    ("lua", "--"),
    -- OCaml
    ("ocaml", "(* *)"), ("ml", "(* *)"), ("mli", "(* *)"),
    -- CodeQL
    ("ql", "//"),
    -- ReScript
    ("res", "//"), ("resi", "//"),
    -- Ruby
    ("rb", "#"), ("erb", "#"),
    -- Rust
    ("rs", "//"), ("rdl", "//"),
    -- TOML
    ("toml", "#"),
    -- Solidity
    ("sol", "//"),
    -- Julia
    ("jl", "#"),
    -- Swift
    ("swift", "//") ]

/-- The mark for an extension, with or without its dot and in any case. -/
def markerFor (extension : String) : String :=
  (markers.lookup (Path.extensionKey extension)).getD defaultMarker

/-- The mark for a file. -/
def markerForPath (path : Path) : String := markerFor path.suffix

end Breadcrumb.Language
