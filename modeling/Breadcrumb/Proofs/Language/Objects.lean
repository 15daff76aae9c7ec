/-
  Breadcrumb.Proofs.Language.Objects
  ──────────────────────────────────
  **EVERY OBJECT IS MADE ONCE AND HANDED OUT FROM THEN ON.**

  All that a call does to a registry is to make objects that it lacks, a language
  before its parser (`Builds`), and to tell of the parsers.  From that follows what
  holds of the objects at any time (`Sound`), and that what is there stays there.
  So one registry, the one at the end of a run, says what every call of the run
  handed out, whichever way the call named its language (`serves_stable`).  The
  requests of a run are such calls (`asks_eq`).
-/
import Mathlib
import Breadcrumb.Language.Registry

namespace Breadcrumb

/-! ## §1. Extensions in any letter case. -/

/-- The name of the file ends in a dot and the extension, in any letter case. -/
def Path.Spells (path : Path) (extension : String) : Prop :=
  path.suffix.toList.map Path.foldCase = '.' :: extension.toList

instance (path : Path) (extension : String) : Decidable (path.Spells extension) :=
  inferInstanceAs (Decidable (_ = _))

theorem Path.foldCase_ne_dot {c : Char} (h : c ≠ '.') : Path.foldCase c ≠ '.' := by
  unfold Path.foldCase
  split
  · rename_i hcapital
    obtain ⟨hA, hZ⟩ : 'A' ≤ c ∧ c ≤ 'Z' := by simpa using hcapital
    have hlow : 65 ≤ c.toNat := UInt32.le_iff_toNat_le.mp hA
    have hhigh : c.toNat ≤ 90 := UInt32.le_iff_toNat_le.mp hZ
    intro hdot
    have hnumber := congrArg Char.toNat hdot
    rw [Char.toNat_ofNat, if_pos (Or.inl (by omega))] at hnumber
    have hdot' : c.toNat + 32 = 46 := hnumber
    omega
  · split
    · decide
    · exact h

/-- A suffix is empty, or it is a dot and what follows the last dot of the name. -/
theorem Path.suffix_cases (path : Path) :
    path.suffix.toList = [] ∨ ∃ tail, path.suffix.toList = '.' :: tail ∧ '.' ∉ tail := by
  unfold Path.suffix
  simp only
  split
  · exact .inl rfl
  · refine .inr ⟨_, String.toList_ofList, ?_⟩
    intro hdot
    have hmem := List.mem_takeWhile_imp (List.mem_reverse.mp hdot)
    simp at hmem

/-- A file has an extension just if its name is spelled with it. -/
theorem Path.extension_eq_iff {path : Path} {extension : String} (h : extension ≠ "") :
    path.extension = extension ↔ path.Spells extension := by
  unfold Path.extension Path.extensionKey Path.Spells
  rw [← String.toList_inj, String.toList_ofList]
  rcases path.suffix_cases with hnone | ⟨tail, htail, hdot⟩
  · have hne : ¬ [] = extension.toList := fun heq => h (String.toList_eq_nil_iff.mp heq.symm)
    simp [hnone, hne]
  · -- The dot is dropped, and no other comes before the extension.
    have hfirst : ∀ c ∈ tail.map Path.foldCase, c ≠ '.' := by
      intro c hc
      obtain ⟨x, hx, rfl⟩ := List.mem_map.mp hc
      exact Path.foldCase_ne_dot fun heq => hdot (heq ▸ hx)
    have hkey : (tail.map Path.foldCase).dropWhile (· = '.') = tail.map Path.foldCase := by
      cases hfolded : tail.map Path.foldCase with
      | nil => rfl
      | cons c cs =>
        have hc : c ≠ '.' := hfirst c (by rw [hfolded]; exact List.mem_cons_self)
        exact List.dropWhile_cons_of_neg (by simpa using hc)
    have hmark : Path.foldCase '.' = '.' := by decide
    rw [htail, List.map_cons, hmark, List.dropWhile_cons_of_pos rfl, hkey, List.cons.injEq,
      eq_self_iff_true, true_and]

namespace Language

theorem byName?_of_mem : ∀ g ∈ grammars, byName? g.name = some g := by decide

theorem find?_of_mem_extensions : ∀ g ∈ grammars, ∀ e ∈ g.extensions,
    e ≠ "" ∧ grammars.find? (·.extensions.contains e) = some g := by decide

/-- **A file is of a language just if its name is spelled with one of its extensions.** -/
theorem byPath?_eq_some_iff {path : Path} {g : Grammar} :
    byPath? path = some g ↔ g ∈ grammars ∧ ∃ e ∈ g.extensions, path.Spells e := by
  have hfind : byPath? path = grammars.find? (·.extensions.contains path.extension) := rfl
  rw [hfind]
  constructor
  · intro h
    have hg := List.mem_of_find?_eq_some h
    have he : path.extension ∈ g.extensions := by simpa using List.find?_some h
    have hne := (find?_of_mem_extensions g hg _ he).1
    exact ⟨hg, path.extension, he, (Path.extension_eq_iff hne).mp rfl⟩
  · rintro ⟨hg, e, he, hspells⟩
    obtain ⟨hne, hfound⟩ := find?_of_mem_extensions g hg e he
    rw [(Path.extension_eq_iff hne).mpr hspells]
    exact hfound

/-! ## §2. Calls. -/

/-- What a registry can be called for. -/
inductive Call where
  | language (name : String)
  | parser (name : String)
  | parserForPath (path : Path)
  | parse (path : Path) (contents : String)

/-- What a call hands out. -/
inductive Handed where
  | language (l : Option Serial)
  | parser (p : Option Parser)
  | tree (t : Except Failure (Option Node))

/-- The call is about a language: it gives its name, or a file with one of its extensions. -/
inductive Call.About (g : Grammar) : Call → Prop
  | language : About g (.language g.name)
  | parser : About g (.parser g.name)
  | parserForPath {path : Path} {e : String} (he : e ∈ g.extensions) (h : path.Spells e) :
      About g (.parserForPath path)
  | parse {path : Path} {e : String} (contents : String) (he : e ∈ g.extensions)
      (h : path.Spells e) : About g (.parse path contents)

/-- What a call hands out that is about no language. -/
def Call.nothing : Call → Handed
  | .language _ => .language none
  | .parser _ => .parser none
  | .parserForPath _ => .parser none
  | .parse _ _ => .tree (.ok none)

/-- The serial number of what was handed out; a tree has none. -/
def Handed.object : Handed → Option Serial
  | language l => l
  | parser p => p.map Parser.serial
  | tree _ => none

/-- An answer with its value changed. -/
def Answer.map {α β : Type} (f : α → β) (a : Answer α) : Answer β := ⟨f a.value, a.registry, a.logs⟩

/-- The answer to a call. -/
def Registry.serve (parsing : Parsing) (r : Registry) : Call → Answer Handed
  | .language name => (r.language name).map .language
  | .parser name => (r.parser name).map .parser
  | .parserForPath path => (r.parserForPath path).map .parser
  | .parse path contents => (r.parse parsing path contents).map .tree

/-! ## §3. Making objects. -/

/-- An object that is made, and the name it is made for. -/
inductive Creation where
  | language (name : String) (l : Serial)
  | parser (name : String) (p : Parser)

namespace Creation

/-- A parser is told of, a language is not. -/
def logs : Creation → List Log.Record
  | language _ _ => []
  | parser name _ => [Registry.made name]

/-- The call that asks for the object by its name. -/
def call : Creation → Call
  | language name _ => .language name
  | parser name _ => .parser name

end Creation

namespace Registry

/-- The registry with one more object. -/
def create (r : Registry) : Creation → Registry
  | .language name l => { r with languages := (name, l) :: r.languages, next := r.next + 1 }
  | .parser name p => { r with parsers := (name, p) :: r.parsers, next := r.next + 1 }

/-- There is no object yet for the name. -/
def Lacks (r : Registry) : Creation → Prop
  | .language name _ => r.languages.lookup name = none
  | .parser name _ => r.parsers.lookup name = none

/-- An object may be made if there is none yet for its name: a language of the table, or a parser
from the language of its name.  Its serial number is the next one. -/
inductive Admits (r : Registry) : Creation → Prop
  | language {g : Grammar} (hg : g ∈ grammars) (hnew : r.languages.lookup g.name = none) :
      Admits r (.language g.name r.next)
  | parser {name : String} {l : Serial} (hl : r.languages.lookup name = some l)
      (hnew : r.parsers.lookup name = none) : Admits r (.parser name ⟨r.next, l⟩)

/-- Objects are made one after the other, each when it may be. -/
inductive Builds : Registry → List Creation → Registry → Prop
  | nil (r : Registry) : Builds r [] r
  | cons {r r' : Registry} {c : Creation} {cs : List Creation} (h : r.Admits c)
      (rest : Builds (r.create c) cs r') : Builds r (c :: cs) r'

/-- An answer that makes these objects and tells of nothing else. -/
structure Makes (r : Registry) {α : Type} (a : Answer α) (cs : List Creation) : Prop where
  builds : Builds r cs a.registry
  logs : a.logs = cs.flatMap Creation.logs

variable {r : Registry}

/-- It does not matter what the answer hands out. -/
theorem Makes.handing {α β : Type} {a : Answer α} {cs : List Creation} (h : Makes r a cs)
    (value : β) : Makes r ⟨value, a.registry, a.logs⟩ cs :=
  ⟨h.builds, h.logs⟩

theorem Builds.append {r' r'' : Registry} {cs ds : List Creation} (h : Builds r cs r')
    (h' : Builds r' ds r'') : Builds r (cs ++ ds) r'' := by
  induction h with
  | nil => exact h'
  | cons hc _ ih => exact .cons hc (ih h')

theorem language_of_cached {name : String} {l : Serial} (h : r.languages.lookup name = some l) :
    r.language name = ⟨some l, r, []⟩ := by
  simp only [language, h]

theorem language_of_new {g : Grammar} (hg : g ∈ grammars) (h : r.languages.lookup g.name = none) :
    r.language g.name = ⟨some r.next, r.create (.language g.name r.next), []⟩ := by
  simp only [language, h, byName?_of_mem g hg, create]

theorem parser_of_cached {name : String} {p : Parser} (h : r.parsers.lookup name = some p) :
    r.parser name = ⟨some p, r, []⟩ := by
  simp only [parser, h]

theorem parser_of_language {name : String} {r' : Registry} {l : Serial} {logs : List Log.Record}
    (h : r.parsers.lookup name = none) (hl : r.language name = ⟨some l, r', logs⟩) :
    r.parser name
      = ⟨some ⟨r'.next, l⟩, r'.create (.parser name ⟨r'.next, l⟩), logs ++ [made name]⟩ := by
  simp only [parser, h, hl, create]

/-- **Asking for a language of the table** gives the one that is there from then on. -/
theorem language_found {g : Grammar} (hg : g ∈ grammars) :
    ∃ l cs, (r.language g.name).value = some l ∧ Makes r (r.language g.name) cs
      ∧ (r.language g.name).registry.languages.lookup g.name = some l := by
  cases hcached : r.languages.lookup g.name with
  | some l =>
    rw [language_of_cached hcached]
    exact ⟨l, [], rfl, ⟨.nil r, rfl⟩, hcached⟩
  | none =>
    rw [language_of_new hg hcached]
    exact ⟨r.next, [.language g.name r.next], rfl, ⟨.cons (.language hg hcached) (.nil _), rfl⟩,
      List.lookup_cons_self⟩

/-- **Asking for the parser of such a language** gives the one that is there from then on. -/
theorem parser_found {g : Grammar} (hg : g ∈ grammars) :
    ∃ p cs, (r.parser g.name).value = some p ∧ Makes r (r.parser g.name) cs
      ∧ (r.parser g.name).registry.parsers.lookup g.name = some p := by
  cases hcached : r.parsers.lookup g.name with
  | some p =>
    rw [parser_of_cached hcached]
    exact ⟨p, [], rfl, ⟨.nil r, rfl⟩, hcached⟩
  | none =>
    cases hlanguage : r.languages.lookup g.name with
    | some l =>
      rw [parser_of_language hcached (language_of_cached hlanguage)]
      exact ⟨⟨r.next, l⟩, [.parser g.name ⟨r.next, l⟩], rfl,
        ⟨.cons (.parser hlanguage hcached) (.nil _), rfl⟩, List.lookup_cons_self⟩
    | none =>
      -- The language is made first, and has the number before that of the parser.
      rw [parser_of_language hcached (language_of_new hg hlanguage)]
      exact ⟨_, [.language g.name r.next, .parser g.name ⟨r.next + 1, r.next⟩], rfl,
        ⟨.cons (.language hg hlanguage) (.cons (.parser List.lookup_cons_self hcached) (.nil _)),
          rfl⟩,
        List.lookup_cons_self⟩

/-! ## §4. What holds of the objects. -/

/-- The serial numbers of all objects. -/
def serials (r : Registry) : List Serial :=
  r.languages.map Prod.snd ++ r.parsers.map fun x => x.2.serial

/-- What holds of the objects of a registry. -/
structure Sound (r : Registry) : Prop where
  /-- Every language has a name of the table, -/
  known : ∀ x ∈ r.languages, ∃ g ∈ grammars, g.name = x.1
  /-- every parser was made from the language of its name, -/
  built : ∀ x ∈ r.parsers, r.languages.lookup x.1 = some x.2.language
  /-- no name has two languages, -/
  languages : (r.languages.map Prod.fst).Nodup
  /-- no name has two parsers, -/
  parsers : (r.parsers.map Prod.fst).Nodup
  /-- and every object that was ever made is there, once. -/
  serials : r.serials.Perm (List.range r.next)

theorem sound_empty : Sound {} where
  known := fun _ h => absurd h List.not_mem_nil
  built := fun _ h => absurd h List.not_mem_nil
  languages := List.nodup_nil
  parsers := List.nodup_nil
  serials := List.Perm.refl []

section Entries

variable {α : Type} {entries : List (String × α)} {name : String}

theorem mem_of_lookup {x : α} (h : entries.lookup name = some x) : (name, x) ∈ entries := by
  obtain ⟨before, after, rfl, -⟩ := List.lookup_eq_some_iff.mp h
  exact List.mem_append_right _ List.mem_cons_self

theorem not_mem_of_lookup (h : entries.lookup name = none) : name ∉ entries.map Prod.fst := by
  intro hmem
  obtain ⟨x, hx, rfl⟩ := List.mem_map.mp hmem
  simpa using List.lookup_eq_none_iff.mp h x hx

/-- What is found is found behind a new entry for a name that had none. -/
theorem lookup_cons_of_lookup {new : String} {x y : α} (hnew : entries.lookup new = none)
    (h : entries.lookup name = some x) : ((new, y) :: entries).lookup name = some x := by
  have hne : name ≠ new := by
    rintro rfl
    rw [hnew] at h
    cases h
  rw [List.lookup_cons, beq_false_of_ne hne]
  exact h

end Entries

/-- The objects of a registry are those of another as well. -/
structure Grows (r r' : Registry) : Prop where
  language : ∀ name l, r.languages.lookup name = some l → r'.languages.lookup name = some l
  parser : ∀ name p, r.parsers.lookup name = some p → r'.parsers.lookup name = some p

theorem Grows.refl (r : Registry) : r.Grows r := ⟨fun _ _ h => h, fun _ _ h => h⟩

theorem Grows.trans {r' r'' : Registry} (h : r.Grows r') (h' : r'.Grows r'') : r.Grows r'' :=
  ⟨fun name l hl => h'.language name l (h.language name l hl),
    fun name p hp => h'.parser name p (h.parser name p hp)⟩

theorem Grows.lacks {r' : Registry} (h : r.Grows r') {c : Creation} (hc : r'.Lacks c) :
    r.Lacks c := by
  cases c with
  | language name l =>
    refine Option.eq_none_iff_forall_ne_some.mpr fun x hx => ?_
    exact absurd (hc.symm.trans (h.language name x hx)) nofun
  | parser name p =>
    refine Option.eq_none_iff_forall_ne_some.mpr fun x hx => ?_
    exact absurd (hc.symm.trans (h.parser name x hx)) nofun

/-- An object that was just made is not lacking. -/
theorem not_lacks_create (r : Registry) {c x : Creation} (h : x.call = c.call) :
    ¬ (r.create c).Lacks x := by
  intro hlacks
  cases c with
  | language name l =>
    cases x with
    | language other l' =>
      obtain rfl : other = name := Call.language.inj h
      exact absurd (hlacks.symm.trans List.lookup_cons_self) nofun
    | parser => cases h
  | parser name p =>
    cases x with
    | language => cases h
    | parser other p' =>
      obtain rfl : other = name := Call.parser.inj h
      exact absurd (hlacks.symm.trans List.lookup_cons_self) nofun

section Admitted

variable {c : Creation} (hc : r.Admits c)

include hc

/-- One more object takes none away. -/
theorem Admits.grows : r.Grows (r.create c) := by
  cases hc with
  | language hg hnew => exact ⟨fun _ _ hl => lookup_cons_of_lookup hnew hl, fun _ _ hp => hp⟩
  | parser hl hnew => exact ⟨fun _ _ hl => hl, fun _ _ hp => lookup_cons_of_lookup hnew hp⟩

theorem Admits.serials : (r.create c).serials.Perm (r.next :: r.serials) := by
  cases hc with
  | language => exact List.Perm.refl _
  | parser => exact List.perm_middle

theorem Admits.next : (r.create c).next = r.next + 1 := by
  cases hc <;> rfl

theorem Admits.lacks : r.Lacks c := by
  cases hc with
  | language hg hnew => exact hnew
  | parser hl hnew => exact hnew

/-- **One more object.** -/
theorem Sound.create (h : Sound r) : Sound (r.create c) where
  known := by
    cases hc with
    | language hg hnew => exact List.forall_mem_cons.mpr ⟨⟨_, hg, rfl⟩, h.known⟩
    | parser => exact h.known
  built := by
    cases hc with
    | language hg hnew => exact fun x hx => lookup_cons_of_lookup hnew (h.built x hx)
    | parser hl hnew => exact List.forall_mem_cons.mpr ⟨hl, h.built⟩
  languages := by
    cases hc with
    | language hg hnew => exact List.nodup_cons.mpr ⟨not_mem_of_lookup hnew, h.languages⟩
    | parser => exact h.languages
  parsers := by
    cases hc with
    | language => exact h.parsers
    | parser hl hnew => exact List.nodup_cons.mpr ⟨not_mem_of_lookup hnew, h.parsers⟩
  serials := by
    have hrange : (r.next :: r.serials).Perm (List.range r.next ++ [r.next]) :=
      (h.serials.cons _).trans (List.perm_append_singleton _ _).symm
    rw [hc.next, List.range_succ]
    exact hc.serials.trans hrange

end Admitted

section Built

variable {r' : Registry} {cs : List Creation} (hbuilds : Builds r cs r')

include hbuilds

/-- **What is there stays there.** -/
theorem Builds.grows : r.Grows r' := by
  induction hbuilds with
  | nil r => exact .refl r
  | cons hc _ ih => exact hc.grows.trans ih

/-- **What holds of the objects holds on.** -/
theorem Sound.builds (h : Sound r) : Sound r' := by
  induction hbuilds with
  | nil => exact h
  | cons hc _ ih => exact ih (h.create hc)

/-- Nothing is made that was there before. -/
theorem Builds.lacks : ∀ c ∈ cs, r.Lacks c := by
  induction hbuilds with
  | nil => exact fun _ h => absurd h List.not_mem_nil
  | cons hc _ ih => exact List.forall_mem_cons.mpr ⟨hc.lacks, fun x hx => hc.grows.lacks (ih x hx)⟩

/-- **Nothing is made twice for a name.** -/
theorem Builds.nodup : (cs.map Creation.call).Nodup := by
  induction hbuilds with
  | nil => exact List.nodup_nil
  | @cons r r' c cs hc rest ih =>
    refine List.nodup_cons.mpr ⟨?_, ih⟩
    intro hmem
    obtain ⟨x, hx, hcall⟩ := List.mem_map.mp hmem
    -- A later object for the name would have to be lacking once this one is there.
    exact not_lacks_create r hcall (rest.lacks x hx)

end Built

namespace Sound

/-- The serial numbers of the objects differ. -/
theorem nodup_serials (h : Sound r) : r.serials.Nodup := h.serials.nodup_iff.mpr List.nodup_range

/-- **Two names never have the same language.** -/
theorem language_inj (h : Sound r) {m n : String} {l : Serial} (hm : r.languages.lookup m = some l)
    (hn : r.languages.lookup n = some l) : m = n := by
  have hnodup := (List.nodup_append.mp h.nodup_serials).1
  have heq := List.inj_on_of_nodup_map hnodup (mem_of_lookup hm) (mem_of_lookup hn) rfl
  exact congrArg Prod.fst heq

/-- **Two names never have the same parser.** -/
theorem parser_inj (h : Sound r) {m n : String} {p q : Parser} (hm : r.parsers.lookup m = some p)
    (hn : r.parsers.lookup n = some q) (hserial : p.serial = q.serial) : m = n := by
  have hnodup := (List.nodup_append.mp h.nodup_serials).2.1
  have heq := List.inj_on_of_nodup_map hnodup (mem_of_lookup hm) (mem_of_lookup hn) hserial
  exact congrArg Prod.fst heq

/-- A name that is not in the table has no language, -/
theorem language_of_unknown (h : Sound r) {name : String} (hname : ∀ g ∈ grammars, g.name ≠ name) :
    r.language name = ⟨none, r, []⟩ := by
  have hnone : r.languages.lookup name = none := by
    refine Option.eq_none_iff_forall_ne_some.mpr fun l hl => ?_
    obtain ⟨g, hg, hgname⟩ := h.known _ (mem_of_lookup hl)
    exact hname g hg hgname
  have hgrammar : byName? name = none :=
    List.find?_eq_none.mpr fun g hg => by simpa using hname g hg
  simp only [language, hnone, hgrammar]

/-- and no parser. -/
theorem parser_of_unknown (h : Sound r) {name : String} (hname : ∀ g ∈ grammars, g.name ≠ name) :
    r.parser name = ⟨none, r, []⟩ := by
  have hnone : r.parsers.lookup name = none := by
    -- The language of a parser is there as well, and has a name of the table.
    refine Option.eq_none_iff_forall_ne_some.mpr fun p hp => ?_
    obtain ⟨g, hg, hgname⟩ := h.known _ (mem_of_lookup (h.built _ (mem_of_lookup hp)))
    exact hname g hg hgname
  simp only [parser, hnone, h.language_of_unknown hname]

end Sound

/-! ## §5. One call. -/

/-- What a call about a language hands out, if all objects are those that the registry `r` has. -/
inductive Fetched (r : Registry) (parsing : Parsing) (name : String) : Call → Handed → Prop
  | language {l : Serial} (h : r.languages.lookup name = some l) :
      Fetched r parsing name (.language name) (.language (some l))
  | parser {p : Parser} (h : r.parsers.lookup name = some p) :
      Fetched r parsing name (.parser name) (.parser (some p))
  | parserForPath {path : Path} {p : Parser} (h : r.parsers.lookup name = some p) :
      Fetched r parsing name (.parserForPath path) (.parser (some p))
  | parse {path : Path} {contents : String} {p : Parser} (h : r.parsers.lookup name = some p) :
      Fetched r parsing name (.parse path contents)
        (.tree ((parsing p (Text.Utf8.encodeString contents)).map some))

/-- What a call to the registry `r` comes to; its objects are those that `final` has. -/
structure Serves (parsing : Parsing) (final r : Registry) (call : Call) (a : Answer Handed) :
    Prop where
  /-- Objects that were lacking are made, and nothing else is done. -/
  makes : ∃ cs, Makes r a cs
  /-- A call about a language gets the objects of that language. -/
  known : ∀ g ∈ grammars, call.About g → Fetched final parsing g.name call a.value
  /-- A call about none gets nothing, and changes nothing. -/
  unknown : (∀ g ∈ grammars, ¬ call.About g) → a = ⟨call.nothing, r, []⟩

variable {parsing : Parsing}

theorem Fetched.mono {r' : Registry} {name : String} {call : Call} {value : Handed}
    (h : Fetched r parsing name call value) (hgrows : r.Grows r') :
    Fetched r' parsing name call value := by
  cases h with
  | language h => exact .language (hgrows.language _ _ h)
  | parser h => exact .parser (hgrows.parser _ _ h)
  | parserForPath h => exact .parserForPath (hgrows.parser _ _ h)
  | parse h => exact .parse (hgrows.parser _ _ h)

/-- The parser of a name and the parser of a file of that language are one. -/
theorem Fetched.parser_eq {name : String} {path : Path} {v v' : Handed}
    (h : Fetched r parsing name (.parser name) v)
    (h' : Fetched r parsing name (.parserForPath path) v') :
    ∃ p, v = .parser (some p) ∧ v' = .parser (some p) := by
  cases h with
  | @parser p hp =>
    cases h' with
    | @parserForPath _ p' hp' =>
      obtain rfl : p = p' := Option.some.inj (hp.symm.trans hp')
      exact ⟨p, rfl, rfl⟩

theorem parserForPath_of_spells {path : Path} {g : Grammar} {e : String} (hg : g ∈ grammars)
    (he : e ∈ g.extensions) (h : path.Spells e) : r.parserForPath path = r.parser g.name := by
  have hpath : byPath? path = some g := byPath?_eq_some_iff.mpr ⟨hg, e, he, h⟩
  unfold parserForPath
  rw [hpath]

theorem parserForPath_of_unsupported {path : Path}
    (h : ∀ g ∈ grammars, ∀ e ∈ g.extensions, ¬ path.Spells e) :
    r.parserForPath path = ⟨none, r, []⟩ := by
  have hpath : byPath? path = none := by
    refine Option.eq_none_iff_forall_ne_some.mpr fun g hg => ?_
    obtain ⟨hmem, e, he, hspells⟩ := byPath?_eq_some_iff.mp hg
    exact h g hmem e he hspells
  unfold parserForPath
  rw [hpath]

/-- **A call about a language**, whatever was made before. -/
theorem serve_known (parsing : Parsing) {g : Grammar} (hg : g ∈ grammars) {call : Call}
    (h : call.About g) :
    ∃ cs, Makes r (r.serve parsing call) cs
      ∧ Fetched (r.serve parsing call).registry parsing g.name call
        (r.serve parsing call).value := by
  obtain ⟨l, ls, hl, hlmakes, hlfound⟩ := language_found (r := r) hg
  obtain ⟨p, ps, hp, hpmakes, hpfound⟩ := parser_found (r := r) hg
  cases h with
  | language =>
    simp only [serve, Answer.map, hl]
    exact ⟨ls, hlmakes.handing _, .language hlfound⟩
  | parser =>
    simp only [serve, Answer.map, hp]
    exact ⟨ps, hpmakes.handing _, .parser hpfound⟩
  | @parserForPath path e he hspells =>
    have hpath : r.parserForPath path = r.parser g.name := parserForPath_of_spells hg he hspells
    simp only [serve, Answer.map, hpath, hp]
    exact ⟨ps, hpmakes.handing _, .parserForPath hpfound⟩
  | @parse path e contents he hspells =>
    have hpath : r.parserForPath path = r.parser g.name := parserForPath_of_spells hg he hspells
    simp only [serve, Answer.map, parse, hpath, hp]
    exact ⟨ps, hpmakes.handing _, .parse hpfound⟩

/-- **A call about none.** -/
theorem Sound.serve_unknown (hr : Sound r) {call : Call} (h : ∀ g ∈ grammars, ¬ call.About g) :
    r.serve parsing call = ⟨call.nothing, r, []⟩ := by
  cases call with
  | language name =>
    have hname : ∀ g ∈ grammars, g.name ≠ name := fun g hg heq => h g hg (heq ▸ .language)
    rw [serve, hr.language_of_unknown hname]
    rfl
  | parser name =>
    have hname : ∀ g ∈ grammars, g.name ≠ name := fun g hg heq => h g hg (heq ▸ .parser)
    rw [serve, hr.parser_of_unknown hname]
    rfl
  | parserForPath path =>
    have hpath : r.parserForPath path = ⟨none, r, []⟩ :=
      parserForPath_of_unsupported fun g hg e he hspells => h g hg (.parserForPath he hspells)
    rw [serve, hpath]
    rfl
  | parse path contents =>
    have hpath : r.parserForPath path = ⟨none, r, []⟩ :=
      parserForPath_of_unsupported fun g hg e he hspells => h g hg (.parse contents he hspells)
    rw [serve, parse, hpath]
    rfl

/-- **One call.** -/
theorem Sound.serves (hr : Sound r) (parsing : Parsing) (call : Call) :
    Serves parsing (r.serve parsing call).registry r call (r.serve parsing call) where
  makes := by
    by_cases h : ∃ g ∈ grammars, call.About g
    · obtain ⟨g, hg, habout⟩ := h
      obtain ⟨cs, hmakes, -⟩ := serve_known (r := r) parsing hg habout
      exact ⟨cs, hmakes⟩
    · rw [hr.serve_unknown fun g hg habout => h ⟨g, hg, habout⟩]
      exact ⟨[], .nil r, rfl⟩
  known := by
    intro g hg habout
    obtain ⟨-, -, hfetched⟩ := serve_known (r := r) parsing hg habout
    exact hfetched
  unknown := hr.serve_unknown

theorem Serves.mono {final final' : Registry} {call : Call} {a : Answer Handed}
    (h : Serves parsing final r call a) (hgrows : final.Grows final') :
    Serves parsing final' r call a :=
  { h with known := fun g hg habout => (h.known g hg habout).mono hgrows }

/-! ## §6. Calls one after the other. -/

/-- The answers to calls. -/
def serves (parsing : Parsing) (r : Registry) : List Call → List (Answer Handed)
  | [] => []
  | call :: calls =>
    r.serve parsing call :: serves parsing (r.serve parsing call).registry calls

/-- The registry after calls. -/
def after (parsing : Parsing) (r : Registry) (calls : List Call) : Registry :=
  calls.foldl (fun r call => (r.serve parsing call).registry) r

theorem after_append (before later : List Call) :
    r.after parsing (before ++ later) = (r.after parsing before).after parsing later :=
  List.foldl_append

theorem after_cons (call : Call) (later : List Call) :
    r.after parsing (call :: later) = (r.serve parsing call).registry.after parsing later :=
  rfl

theorem serves_getElem? (call : Call) (later : List Call) :
    ∀ (before : List Call) (r : Registry),
      (r.serves parsing (before ++ call :: later))[before.length]?
        = some ((r.after parsing before).serve parsing call)
  | [], _ => rfl
  | c :: before, r => serves_getElem? call later before (r.serve parsing c).registry

/-- All that calls do is to make objects that are lacking, and to tell of the parsers. -/
theorem Sound.exists_builds (parsing : Parsing) (calls : List Call) : ∀ {r : Registry}, Sound r →
    ∃ cs, Builds r cs (r.after parsing calls)
      ∧ (r.serves parsing calls).flatMap Answer.logs = cs.flatMap Creation.logs := by
  induction calls with
  | nil => exact fun _ => ⟨[], .nil _, rfl⟩
  | cons call calls ih =>
    intro r hr
    obtain ⟨cs, hmakes⟩ := (hr.serves parsing call).makes
    obtain ⟨ds, hbuilds, hlogs⟩ := ih (hr.builds hmakes.builds)
    refine ⟨cs ++ ds, hmakes.builds.append hbuilds, ?_⟩
    rw [Registry.serves, List.flatMap_cons, hmakes.logs, hlogs, List.flatMap_append]

/-- The call that a request of a run stands for. -/
def Ask.call : Ask → Call
  | language name => .language name
  | parser name => .parser name
  | parserForPath path => .parserForPath path
  | parses path => .parserForPath path

/-- What a request tells of what is handed out. -/
def Ask.reads : Ask → Handed → Reply
  | parses _, h => .truth h.object.isSome
  | _, h => .object h.object

/-- A request of a run is a call; of a parser it tells the serial number, or that there is one. -/
theorem ask_eq (parsing : Parsing) (a : Ask) :
    r.ask a = reply (r.serve parsing a.call) a.reads := by
  unfold ask serve Answer.map reply
  cases a with
  | language name => rfl
  | parser name => rfl
  | parserForPath path =>
    dsimp only [Ask.call]
    generalize r.parserForPath path = a
    rfl
  | parses path =>
    unfold parses
    dsimp only [Ask.call]
    generalize r.parserForPath path = a
    simp only [Ask.reads, Handed.object, Option.isSome_map]

/-- So are all requests of a run. -/
theorem asks_eq (parsing : Parsing) (as : List Ask) (r : Registry) :
    r.asks as
      = List.zipWith (fun a x => reply x a.reads) as (r.serves parsing (as.map Ask.call)) := by
  induction as generalizing r with
  | nil => rfl
  | cons a as ih =>
    simp only [asks, List.map_cons, serves, List.zipWith_cons_cons]
    rw [ask_eq parsing, ih]
    rfl

/-- **THE REGISTRY THEOREM.**  Whatever calls are made to a new registry: a name has one language
and one parser at most, a parser was made from the language of its name, and objects of different
names differ.  What was made was lacking, nothing was made twice for a name, and each parser is told
of once, by the call that made it.  A call about a language gives the objects that the registry has
at the end of the run, so all such calls give the same ones; a call about none gives nothing, makes
nothing and tells nothing. -/
theorem serves_stable (parsing : Parsing) (calls : List Call) :
    Sound (({} : Registry).after parsing calls)
      ∧ (∀ m n l, (({} : Registry).after parsing calls).languages.lookup m = some l →
          (({} : Registry).after parsing calls).languages.lookup n = some l → m = n)
      ∧ (∀ m n p q, (({} : Registry).after parsing calls).parsers.lookup m = some p →
          (({} : Registry).after parsing calls).parsers.lookup n = some q →
          p.serial = q.serial → m = n)
      ∧ (∃ cs, Builds {} cs (({} : Registry).after parsing calls)
          ∧ (cs.map Creation.call).Nodup
          ∧ (({} : Registry).serves parsing calls).flatMap Answer.logs = cs.flatMap Creation.logs)
      ∧ ∀ before call later, calls = before ++ call :: later → ∃ a,
          (({} : Registry).serves parsing calls)[before.length]? = some a
            ∧ Serves parsing (({} : Registry).after parsing calls)
                (({} : Registry).after parsing before) call a := by
  obtain ⟨cs, hbuilds, hlogs⟩ := sound_empty.exists_builds parsing calls
  have hsound : Sound (({} : Registry).after parsing calls) := sound_empty.builds hbuilds
  refine ⟨hsound, fun m n l => hsound.language_inj, fun m n p q => hsound.parser_inj,
    ⟨cs, hbuilds, hbuilds.nodup, hlogs⟩, ?_⟩
  rintro before call later rfl
  -- What the calls before it left is sound, and what those behind it make takes nothing away.
  obtain ⟨bs, hbefore, -⟩ := sound_empty.exists_builds parsing before
  have hstands := sound_empty.builds hbefore
  have hserves := hstands.serves parsing call
  obtain ⟨ds, hmakes⟩ := hserves.makes
  obtain ⟨ls, hlater, -⟩ :=
    (hstands.builds hmakes.builds).exists_builds parsing later
  refine ⟨(({} : Registry).after parsing before).serve parsing call,
    serves_getElem? call later before {}, ?_⟩
  rw [after_append, after_cons]
  exact hserves.mono hlater.grows

namespace Sample

/-- Every parser fails, and says which it is. -/
def failing : Parsing := fun p _ => .error (.breakdown (toString p.serial))

def module : Path := ⟨0, ["src", "App.MJS"]⟩

/-- Two names with one grammar, a name that is not in the table and a file without a language. -/
def before : List Call :=
  [.parser "javascript", .language "typescript", .parser "JavaScript",
    .parserForPath ⟨0, ["README"]⟩]

def later : List Call := [.parse ⟨0, ["main.ts"]⟩ "let x = 1", .language "javascript"]

def javascript : Grammar :=
  ⟨"javascript", "tree_sitter_typescript", "language_typescript", ["js", "mjs", "cjs"]⟩

end Sample

/-- The file, whose extension is in capitals, gets the parser that the first call made. -/
theorem sample_stable :
    Sample.module.Spells "mjs"
      ∧ ∃ p a b,
        (({} : Registry).serves Sample.failing
            (Sample.before ++ .parserForPath Sample.module :: Sample.later))[0]? = some a
          ∧ (({} : Registry).serves Sample.failing
            (Sample.before ++ .parserForPath Sample.module :: Sample.later))[4]? = some b
          ∧ a.value = .parser (some p) ∧ b.value = .parser (some p) := by
  obtain ⟨-, -, -, -, hserves⟩ :=
    serves_stable Sample.failing (Sample.before ++ .parserForPath Sample.module :: Sample.later)
  have hspells : Sample.module.Spells "mjs" := by decide
  have hmem : Sample.javascript ∈ grammars := by decide
  have habout : Call.About Sample.javascript (.parserForPath Sample.module) :=
    .parserForPath (by decide) hspells
  obtain ⟨a, hfirst, hfirstServes⟩ := hserves [] (.parser "javascript") _ rfl
  obtain ⟨b, hfile, hfileServes⟩ :=
    hserves Sample.before (.parserForPath Sample.module) Sample.later rfl
  have hfirstFetched := hfirstServes.known Sample.javascript hmem .parser
  have hfileFetched := hfileServes.known Sample.javascript hmem habout
  obtain ⟨p, hfirstValue, hfileValue⟩ := hfirstFetched.parser_eq hfileFetched
  exact ⟨hspells, p, a, b, hfirst, hfile, hfirstValue, hfileValue⟩

end Registry

end Language

end Breadcrumb
