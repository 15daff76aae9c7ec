/-
  Breadcrumb.Proofs.Language.Support
  ──────────────────────────────────
  **WHICH FILES A REGISTRY CAN PARSE.**

  A registry looks a file up twice, by its extension and then by the name of the
  language, and on the way it may make a language and a parser.  None of that can
  fail for a file whose extension has a language: whatever has been made before,
  the registry has a parser for it (`isSome_parserForPath`), and the same one when
  it is asked again (`parse_parse`).
-/
import Breadcrumb.Language.Registry

namespace Breadcrumb.Language.Registry

variable (r : Registry)

/-! ## §1. Names. -/

/-- A name that is known has a language. -/
theorem isSome_language {name : String} (h : (byName? name).isSome = true) :
    (r.language name).value.isSome = true := by
  unfold language
  cases r.languages.lookup name with
  | some serial => rfl
  | none =>
    obtain ⟨g, hg⟩ := Option.isSome_iff_exists.mp h
    simp only [hg]
    rfl

/-- A name that is known has a parser. -/
theorem parser_isSome {name : String} (h : (byName? name).isSome = true) :
    (r.parser name).value.isSome = true := by
  unfold parser
  cases r.parsers.lookup name with
  | some p => rfl
  | none =>
    have hsome := r.isSome_language h
    cases hlanguage : r.language name with
    | mk value r' logs =>
      rw [hlanguage] at hsome
      cases value with
      | none => cases hsome
      | some language => rfl

/-- What was not made before is there from then on: a second request gets the same parser and
changes nothing. -/
theorem parser_again (name : String) :
    ((r.parser name).registry.parser name).value = (r.parser name).value
      ∧ ((r.parser name).registry.parser name).registry = (r.parser name).registry := by
  cases hcached : r.parsers.lookup name with
  | some p =>
    have hfirst : r.parser name = ⟨some p, r, []⟩ := by simp only [parser, hcached]
    rw [hfirst]
    exact ⟨by rw [hfirst], by rw [hfirst]⟩
  | none =>
    cases hlanguage : r.language name with
    | mk value r' logs =>
      cases value with
      | none =>
        -- The name is unknown, and the registry stays as it is.
        have hsame : r' = r := by
          unfold language at hlanguage
          split at hlanguage
          · cases hlanguage
          · split at hlanguage
            · cases hlanguage
              rfl
            · cases hlanguage
        have hfirst : r.parser name = ⟨none, r, logs⟩ := by
          simp only [parser, hcached, hlanguage, hsame]
        rw [hfirst]
        exact ⟨by rw [hfirst], by rw [hfirst]⟩
      | some language =>
        -- A parser is made, and found again.
        have hfirst : r.parser name = ⟨some ⟨r'.next, language⟩,
            { r' with parsers := (name, ⟨r'.next, language⟩) :: r'.parsers, next := r'.next + 1 },
            logs ++ [made name]⟩ := by
          simp only [parser, hcached, hlanguage]
        rw [hfirst]
        simp [parser]

/-! ## §2. Files. -/

/-- **A registry has a parser for a file just if the extension has a language.** -/
theorem isSome_parserForPath (path : Path) :
    (r.parserForPath path).value.isSome = isSupported path := by
  rw [isSupported_eq]
  unfold parserForPath
  cases hpath : byPath? path with
  | none => rfl
  | some g => exact r.parser_isSome (isSome_byName? (mem_of_byPath? hpath))

variable (parsing : Parsing) (path : Path) (contents : String)

/-- A tree is missing just if a parser is. -/
theorem treeBy_eq_none_iff (p : Option Parser) :
    treeBy parsing contents p = .ok none ↔ p.isSome = false := by
  cases p with
  | none => simp [treeBy]
  | some p =>
    unfold treeBy
    cases hparse : parsing p (Text.Utf8.encodeString contents) with
    | error f => simp [hparse, Except.map]
    | ok root => simp [hparse, Except.map]

theorem parse_value :
    (r.parse parsing path contents).value
      = treeBy parsing contents (r.parserForPath path).value := by
  simp only [parse]

theorem parse_registry :
    (r.parse parsing path contents).registry = (r.parserForPath path).registry := by
  simp only [parse]

/-- **A registry gives no tree and no failure just if the extension has no language.** -/
theorem parse_eq_none_iff :
    (r.parse parsing path contents).value = .ok none ↔ isSupported path = false := by
  rw [parse_value, treeBy_eq_none_iff, isSome_parserForPath]

/-- Parsing a file again gives the same. -/
theorem parse_parse :
    ((r.parse parsing path contents).registry.parse parsing path contents).value
      = (r.parse parsing path contents).value := by
  have hagain : ((r.parserForPath path).registry.parserForPath path).value
      = (r.parserForPath path).value := by
    unfold parserForPath
    cases byPath? path with
    | none => rfl
    | some g => exact (r.parser_again g.name).1
  rw [parse_value, parse_value, parse_registry, hagain]

end Breadcrumb.Language.Registry
