/-
  Breadcrumb.Proofs.Toml.Written
  ──────────────────────────────
  **WHAT IS WRITTEN IN TOML IS READ BACK.**

  A document is written line by line: a header, an assignment, or an empty line
  (`Line`).  The reader is a tower of scanners, and each has one law about what was
  written for it, whatever comes after that:

      a string goes on up to its own mark, whatever it holds   (`basic_flatMap_escape`)
      a number goes on up to the end of its line               (`number?_digits`)
      a name goes on up to a character that no name has        (`keyPart_bare`)
      a line is one statement                                  (`statements_line`)

  So to read the lines is to apply them to the document one after the other
  (`statements_written`).  Before that a reader folds the ends of lines; a carriage
  return is always escaped, so nothing is folded (`parse_written`).
-/
import Mathlib
import Breadcrumb.Toml.Reader
import Breadcrumb.Toml.Writer

namespace Breadcrumb.Toml

open Breadcrumb.Number Breadcrumb.Text

/-! ## §1. Strings. -/

/-- A mark ends the string. -/
theorem basic_mark (rest : List Char) : basic false .plain ('"' :: rest) = .ok ([], rest) := by
  rw [basic.eq_def]
  simp

theorem basic_plain {c : Char} (hmark : c ≠ '"') (hslash : c ≠ '\\')
    (hline : forbiddenInLine c = false) (rest : List Char) :
    basic false .plain (c :: rest) = (basic false .plain rest).push c := by
  rw [basic.eq_def]
  simp [hmark, hslash, hline]

theorem basic_short {x y : Char} (h : shortEscape? x = some y) (rest : List Char) :
    basic false .plain ('\\' :: x :: rest) = (basic false .plain rest).push y := by
  have hu : x ≠ 'u' := by
    rintro rfl
    cases h
  have hU : x ≠ 'U' := by
    rintro rfl
    cases h
  rw [basic.eq_def]
  simp [hu, hU, h]

theorem basic_code {a b d e x : Char} (h : scalar? [a, b, d, e] = some x) (rest : List Char) :
    basic false .plain ('\\' :: 'u' :: a :: b :: d :: e :: rest)
      = (basic false .plain rest).push x := by
  rw [basic.eq_def]
  simp [h]

theorem scalar?_digits {c : Char} (h : c.toNat < 0xD800) :
    scalar? (Hexadecimal.digits 4 c.toNat) = some c := by
  have hvalue : Hexadecimal.value? (Hexadecimal.digits 4 c.toNat) = some c.toNat :=
    Hexadecimal.value?_digits (show c.toNat < 65536 by omega)
  unfold scalar?
  rw [hvalue]
  simp only [h, decide_true, Bool.true_or, if_true, Char.ofNat_toNat]

/-- **What is written for a character is read as that character**, whatever follows. -/
theorem basic_escape (c : Char) (rest : List Char) :
    basic false .plain (escape c ++ rest) = (basic false .plain rest).push c := by
  unfold escape
  split
  · exact basic_short rfl rest
  · exact basic_short rfl rest
  · exact basic_short rfl rest
  · exact basic_short rfl rest
  · -- A tab stands for itself.
    exact basic_plain (by decide) (by decide) (by decide) rest
  · rename_i hmark hslash hnewline hreturn htab
    have hback := Char.ofNat_toNat c
    split_ifs with hbackspace hfeed hcontrol
    · rw [hbackspace] at hback
      exact basic_short (hback ▸ rfl) rest
    · rw [hfeed] at hback
      exact basic_short (hback ▸ rfl) rest
    · have hcode : c.toNat < 0xD800 := by
        simp only [Bool.or_eq_true, decide_eq_true_eq] at hcontrol
        omega
      exact basic_code (scalar?_digits hcode) rest
    · have hline : forbiddenInLine c = false := by
        have hplain : isControl c = false := by simpa [isControl] using hcontrol
        rw [forbiddenInLine, hplain, Bool.false_and]
      exact basic_plain hmark hslash hline rest

theorem basic_flatMap_escape (cs rest : List Char) :
    basic false .plain (cs.flatMap escape ++ '"' :: rest) = .ok (cs, rest) := by
  induction cs with
  | nil => exact basic_mark rest
  | cons c cs ih =>
    rw [List.flatMap_cons, List.append_assoc, basic_escape, ih]
    rfl

/-- What is written for a character does not begin with a mark: it would be read as the end. -/
theorem escape_eq_cons (c : Char) : ∃ a as, escape c = a :: as ∧ a ≠ '"' := by
  have hread := basic_escape c ['"']
  rw [basic_mark] at hread
  cases hescape : escape c with
  | nil =>
    rw [hescape, List.nil_append, basic_mark] at hread
    cases hread
  | cons a as =>
    refine ⟨a, as, rfl, ?_⟩
    rintro rfl
    rw [hescape, List.cons_append, basic_mark] at hread
    cases hread

/-- So a string is not taken for one of several lines, which three marks begin. -/
theorem string?_flatMap_escape (cs rest : List Char) :
    string? ('"' :: (cs.flatMap escape ++ '"' :: '\n' :: rest))
      = some (.ok (cs, '\n' :: rest)) := by
  have hread := basic_flatMap_escape cs ('\n' :: rest)
  cases cs with
  | nil => rfl
  | cons c cs =>
    obtain ⟨a, as, hescape, ha⟩ := escape_eq_cons c
    rw [List.flatMap_cons, hescape, List.append_assoc, List.cons_append] at hread ⊢
    rw [string?.eq_def]
    simp [ha, hread]

theorem return_not_mem_escape (c : Char) : '\r' ∉ escape c := by
  unfold escape
  split
  · decide
  · decide
  · decide
  · decide
  · decide
  · rename_i hmark hslash hnewline hreturn htab
    split_ifs
    · decide
    · decide
    · intro hmem
      have hdigits : '\r' ∈ Hexadecimal.digits 4 c.toNat := by simpa using hmem
      have hdigit := Hexadecimal.isSome_digit?_of_mem_digits hdigits
      cases hdigit
    · intro hmem
      exact hreturn (List.mem_singleton.mp hmem).symm

/-! ## §2. Numbers. -/

theorem exists_digits {n : Nat} (hpos : 0 < n) :
    ∃ d ds, Decimal.digits n = d :: ds ∧ d ≠ '0' ∧ ∀ c ∈ d :: ds, Decimal.isDigit c = true := by
  obtain ⟨d, ds, hds, hzero⟩ := Decimal.digits_eq_cons hpos
  refine ⟨d, ds, hds, hzero, ?_⟩
  rw [← hds]
  intro c hc
  exact Decimal.isDigit_of_mem_digits hc

theorem moreDigits_append {ds : List Char} (h : ∀ d ∈ ds, Decimal.isDigit d = true)
    (rest : List Char) :
    moreDigits Decimal.isDigit (ds ++ '\n' :: rest) = (ds, '\n' :: rest) := by
  induction ds with
  | nil =>
    rw [List.nil_append, moreDigits.eq_def]
    rfl
  | cons d ds ih =>
    obtain ⟨hd, hds⟩ := List.forall_mem_cons.mp h
    have hunder : d ≠ '_' := ne_of_class hd rfl
    rw [List.cons_append, moreDigits.eq_def]
    simp [hunder, hd, ih hds]

theorem dropWhile_of_twoDigits? {low high n : Nat} {cs rest : List Char}
    (h : twoDigits? low high cs = some (n, rest)) :
    cs.dropWhile Decimal.isDigit = rest.dropWhile Decimal.isDigit := by
  unfold twoDigits? at h
  split at h
  · rename_i a b after
    simp only at h
    split_ifs at h with hdigits
    obtain ⟨ha, hb⟩ := Bool.and_eq_true_iff.mp hdigits
    cases h
    rw [List.dropWhile_cons_of_pos ha, List.dropWhile_cons_of_pos hb]
  · cases h

/-- Digits up to the end of a line begin no date: a dash would stand behind the year. -/
theorem date?_eq_none {cs rest : List Char} (h : cs.dropWhile Decimal.isDigit = '\n' :: rest) :
    date? cs = none := by
  unfold date?
  split
  · rename_i a b c d after
    split_ifs with hdigits
    · simp only [List.all_cons, List.all_nil, Bool.and_true, Bool.and_eq_true] at hdigits
      obtain ⟨ha, hb, hc, hd⟩ := hdigits
      rw [List.dropWhile_cons_of_pos ha, List.dropWhile_cons_of_pos hb,
        List.dropWhile_cons_of_pos hc, List.dropWhile_cons_of_pos hd] at h
      cases h
    · rfl
  · rfl

/-- They begin no time of day: a colon would stand behind the hour. -/
theorem time?_eq_none {cs rest : List Char} (h : cs.dropWhile Decimal.isDigit = '\n' :: rest) :
    time? cs = none := by
  unfold time?
  cases hhour : twoDigits? 0 23 cs with
  | none => rfl
  | some r =>
    obtain ⟨hour, after⟩ := r
    rw [dropWhile_of_twoDigits? hhour] at h
    have hcolon : time?.expect ':' after = none := by
      unfold time?.expect
      split
      · rename_i x more
        apply if_neg
        rintro rfl
        cases h
      · rfl
    simp [hcolon]

theorem number?_digits {n : Nat} (hpos : 0 < n)
    (hshort : (Decimal.digits n).length ≤ Decimal.digitLimit) (rest : List Char) :
    number? (Decimal.digits n ++ '\n' :: rest) = some (.ok (.whole n, '\n' :: rest)) := by
  obtain ⟨d, ds, hds, hzero, hall⟩ := exists_digits hpos
  obtain ⟨hd, hmore⟩ := List.forall_mem_cons.mp hall
  have hbased : based? (d :: (ds ++ '\n' :: rest)) = none := by
    rw [based?.eq_def]
    simp [hzero]
  have hsign : sign (d :: (ds ++ '\n' :: rest)) = (false, d :: (ds ++ '\n' :: rest)) := by
    have hminus : d ≠ '-' := ne_of_class hd rfl
    have hplus : d ≠ '+' := ne_of_class hd rfl
    rw [sign.eq_def]
    simp [hminus, hplus]
  have hintegral : integral? (d :: (ds ++ '\n' :: rest)) = some (d :: ds, '\n' :: rest) := by
    rw [integral?.eq_def]
    simp [hzero, digits?, hd, moreDigits_append hmore]
  -- Neither a point nor an exponent stands at the end of a line.
  have hfraction : fraction ('\n' :: rest) = (none, '\n' :: rest) := rfl
  have hexponent : exponent ('\n' :: rest) = (none, '\n' :: rest) := rfl
  unfold number?
  rw [hds, List.cons_append, hbased, hsign]
  simp only [hintegral, hfraction, hexponent, Option.isNone_none, Bool.and_self, if_true, ← hds,
    if_neg (Nat.not_lt.mpr hshort), Bool.false_eq_true, if_false, Decimal.value_digits]

/-! ## §3. Values. -/

/-- A text that is read as a value, from the blanks before it to the end of its line.  It holds no
carriage return, which might be taken for the end of a line. -/
structure Spells (text : String) (v : Value) : Prop where
  value_eq : ∀ (fuel room : Nat) (rest : List Char),
    value (fuel + 1) room (skipGap (text.toList ++ '\n' :: rest)) = .ok (v, '\n' :: rest)
  noReturn : '\r' ∉ text.toList

theorem value_of_ne {c : Char} (hlist : c ≠ '[') (htable : c ≠ '\x7b') (fuel room : Nat)
    (cs : List Char) : value (fuel + 1) room (c :: cs) = leaf (c :: cs) := by
  rw [value.eq_def]
  simp [hlist, htable]

theorem skipGap_of_not_isGap {c : Char} (h : isGap c = false) (cs : List Char) :
    skipGap (c :: cs) = c :: cs := by
  unfold skipGap
  exact List.dropWhile_cons_of_neg (by simp [h])

/-- **A string that is written is read back.** -/
theorem spells_writeString (s : String) : Spells (writeString s) (.text s) where
  value_eq := by
    intro fuel room rest
    have hread := string?_flatMap_escape s.toList rest
    have htext : (writeString s).toList ++ '\n' :: rest
        = '"' :: (s.toList.flatMap escape ++ '"' :: '\n' :: rest) := by
      simp [writeString]
    rw [htext, skipGap_of_not_isGap rfl, value_of_ne (by decide) (by decide)]
    simp only [leaf, hread, Except.map, String.ofList_toList]
  noReturn := by
    have hbody : '\r' ∉ s.toList.flatMap escape := by
      intro hmem
      obtain ⟨c, -, hc⟩ := List.mem_flatMap.mp hmem
      exact return_not_mem_escape c hc
    simp [writeString, hbody]

/-- **A positive number that is written is read back.** -/
theorem spells_digits {n : Nat} (hpos : 0 < n)
    (hshort : (Decimal.digits n).length ≤ Decimal.digitLimit) :
    Spells (Decimal.text n) (.amount (.whole n)) where
  value_eq := by
    intro fuel room rest
    have htext : (Decimal.text n).toList = Decimal.digits n := String.toList_ofList
    have hnumber := number?_digits hpos hshort rest
    obtain ⟨d, ds, hds, -, hall⟩ := exists_digits hpos
    have hne : ∀ c : Char, Decimal.isDigit c = false → d ≠ c :=
      fun c hc => ne_of_class (hall d List.mem_cons_self) hc
    have hgap : isGap d = false := by simp [isGap, hne ' ' rfl, hne '\t' rfl]
    have hstring : string? (d :: (ds ++ '\n' :: rest)) = none := by
      rw [string?.eq_def]
      simp [hne '"' rfl, hne '\x27' rfl]
    have hend : (d :: (ds ++ '\n' :: rest)).dropWhile Decimal.isDigit = '\n' :: rest := by
      rw [← List.cons_append, List.dropWhile_append_of_pos hall]
      rfl
    have hmoment : moment? (d :: (ds ++ '\n' :: rest)) = none := by
      unfold moment?
      rw [date?_eq_none hend, time?_eq_none hend]
      rfl
    rw [hds, List.cons_append] at hnumber
    rw [htext, hds, List.cons_append, skipGap_of_not_isGap hgap,
      value_of_ne (hne '[' rfl) (hne '\x7b' rfl), leaf.eq_def, hstring]
    simp [hne 't' rfl, hne 'f' rfl, hmoment, hnumber, Except.map]
  noReturn := by
    have htext : (Decimal.text n).toList = Decimal.digits n := String.toList_ofList
    rw [htext]
    intro hmem
    have hdigit := Decimal.isDigit_of_mem_digits hmem
    cases hdigit

theorem spells_true : Spells "true" (.amount (.flag true)) where
  value_eq := fun _ _ _ => rfl
  noReturn := by decide

/-! ## §4. Names. -/

/-- A name that is written without marks. -/
def isBare (name : String) : Bool := !name.toList.isEmpty && name.toList.all isBareKey

theorem exists_cons_of_isBare {name : String} (h : isBare name = true) :
    ∃ c cs, name.toList = c :: cs ∧ ∀ x ∈ c :: cs, isBareKey x = true := by
  unfold isBare at h
  cases hname : name.toList with
  | nil =>
    rw [hname] at h
    cases h
  | cons c cs =>
    rw [hname] at h
    exact ⟨c, cs, rfl, by simpa using h⟩

theorem isGapOrNewline_of_class {c : Char} (h : isBareKey c = true) :
    isGapOrNewline c = false := by
  have hspace : c ≠ ' ' := ne_of_class h rfl
  have htab : c ≠ '\t' := ne_of_class h rfl
  have hnewline : c ≠ '\n' := ne_of_class h rfl
  simp [isGapOrNewline, isGap, hspace, htab, hnewline]

theorem return_not_mem_of_isBare {name : String} (h : isBare name = true) :
    '\r' ∉ name.toList := by
  obtain ⟨c, cs, hname, hall⟩ := exists_cons_of_isBare h
  rw [hname]
  intro hmem
  have hkey := hall _ hmem
  cases hkey

theorem keyPart_bare {name : String} (h : isBare name = true) {x : Char}
    (hx : isBareKey x = false) (rest : List Char) :
    keyPart (name.toList ++ x :: rest) = .ok (name, x :: rest) := by
  obtain ⟨c, cs, hname, hall⟩ := exists_cons_of_isBare h
  have hc := hall c List.mem_cons_self
  have hmark : c ≠ '"' := ne_of_class hc rfl
  have hquote : c ≠ '\x27' := ne_of_class hc rfl
  have hx' : ¬ isBareKey x = true := by simp [hx]
  have htake : (c :: (cs ++ x :: rest)).takeWhile isBareKey = c :: cs := by
    rw [← List.cons_append, List.takeWhile_append_of_pos hall, List.takeWhile_cons_of_neg hx',
      List.append_nil]
  have hdrop : (c :: (cs ++ x :: rest)).dropWhile isBareKey = x :: rest := by
    rw [← List.cons_append, List.dropWhile_append_of_pos hall, List.dropWhile_cons_of_neg hx']
  have hback : String.ofList (c :: cs) = name := by rw [← hname, String.ofList_toList]
  rw [hname, List.cons_append, keyPart.eq_def]
  simp [hmark, hquote, htake, hdrop, hback]

/-- A name is a key of one part if no point follows. -/
theorem key_bare {name : String} (h : isBare name = true) {x y : Char} {rest after : List Char}
    (hx : isBareKey x = false) (hgap : skipGap (x :: rest) = y :: after) (hy : y ≠ '.')
    (fuel : Nat) :
    key (fuel + 1) (name.toList ++ x :: rest) = .ok ([name], y :: after) := by
  rw [key, keyPart_bare h hx]
  simp only [bind, Except.bind, hgap]
  split
  · rename_i heq
    cases heq
    exact absurd rfl hy
  · rfl

/-! ## §5. Lines. -/

/-- A line of a document as it is written. -/
inductive Line where
  | header (name : String)
  /-- An assignment: the key, and how its value is written. -/
  | entry (name text : String) (v : Value)
  | blank

namespace Line

/-- A line with its newline. -/
def text : Line → String
  | header name => writeHeader name
  | entry name text _ => writeEntry name text
  | blank => "\n"

/-- What a line does to the document. -/
def apply (d : Document) : Line → Except Fault Document
  | header name => d.closeSection.openTable [name]
  | entry name _ v => d.assign [name] v
  | blank => .ok d

/-- The names of the line need no marks, and the value is written as it is read. -/
def WellFormed : Line → Prop
  | header name => isBare name = true
  | entry name text v => isBare name = true ∧ Spells text v
  | blank => True

theorem WellFormed.noReturn {l : Line} (h : l.WellFormed) : '\r' ∉ l.text.toList := by
  cases l with
  | header name =>
    have hname := return_not_mem_of_isBare h
    simp [Line.text, writeHeader, hname]
  | entry name text v =>
    have hname := return_not_mem_of_isBare h.1
    simp [Line.text, writeEntry, hname, h.2.noReturn]
  | blank => decide

theorem length_pos (l : Line) : 0 < l.text.toList.length := by
  cases l <;> simp [text, writeHeader, writeEntry]

end Line

theorem statement_header {d d' : Document} {name : String} (h : isBare name = true)
    (hopen : d.closeSection.openTable [name] = .ok d') (fuel : Nat) (rest : List Char) :
    statement (fuel + 1) d ('[' :: (name.toList ++ ']' :: '\n' :: rest))
      = .ok (d', '\n' :: rest) := by
  have hbracket : skipGap (']' :: '\n' :: rest) = ']' :: '\n' :: rest := skipGap_of_not_isGap rfl _
  have hkey := key_bare h rfl hbracket (by decide) fuel
  obtain ⟨c, cs, hname, hall⟩ := exists_cons_of_isBare h
  have hc := hall c List.mem_cons_self
  have hlist : c ≠ '[' := ne_of_class hc rfl
  have hgap : isGap c = false := (Bool.or_eq_false_iff.mp (isGapOrNewline_of_class hc)).1
  rw [hname, List.cons_append] at hkey ⊢
  rw [statement.eq_def]
  simp [hlist, skipGap_of_not_isGap hgap, hkey, bind, Except.bind, hopen, pure, Except.pure]

theorem statement_entry {d d' : Document} {name text : String} {v : Value}
    (h : isBare name = true) (htext : Spells text v) (hassign : d.assign [name] v = .ok d')
    (fuel : Nat) (rest : List Char) :
    statement (fuel + 1) d (name.toList ++ ' ' :: '=' :: ' ' :: (text.toList ++ '\n' :: rest))
      = .ok (d', '\n' :: rest) := by
  have hequals : equalsSign ('=' :: ' ' :: (text.toList ++ '\n' :: rest))
      = .ok (skipGap (text.toList ++ '\n' :: rest)) := rfl
  have hgap : skipGap (' ' :: '=' :: ' ' :: (text.toList ++ '\n' :: rest))
      = '=' :: ' ' :: (text.toList ++ '\n' :: rest) := rfl
  have hkey := key_bare h rfl hgap (by decide) fuel
  obtain ⟨c, cs, hname, hall⟩ := exists_cons_of_isBare h
  have hlist : c ≠ '[' := ne_of_class (hall c List.mem_cons_self) rfl
  rw [hname, List.cons_append] at hkey ⊢
  rw [statement.eq_def]
  simp [hlist, hkey, hequals, htext.value_eq, bind, Except.bind, hassign, pure, Except.pure]

theorem statements_of_statement {fuel : Nat} {d d' : Document} {c : Char} {cs rest : List Char}
    (hgap : isGapOrNewline c = false) (hcomment : c ≠ '#')
    (h : statement fuel d (c :: cs) = .ok (d', '\n' :: rest)) :
    statements (fuel + 1) d (c :: cs) = statements fuel d' rest := by
  obtain ⟨hblank, hnewline⟩ : isGap c = false ∧ c ≠ '\n' := by
    simpa [isGapOrNewline] using hgap
  have hend : skipGap ('\n' :: rest) = '\n' :: rest := rfl
  have hnote : skipComment ('\n' :: rest) = .ok ('\n' :: rest) := rfl
  rw [statements.eq_def]
  simp [skipGap_of_not_isGap hblank, hcomment, h, bind, Except.bind, hend, hnote]

/-- **To read a line is to apply it to the document.** -/
theorem statements_line {l : Line} (h : l.WellFormed) {d d' : Document}
    (happly : l.apply d = .ok d') (fuel : Nat) (rest : List Char) :
    statements (fuel + 2) d (l.text.toList ++ rest) = statements (fuel + 1) d' rest := by
  cases l with
  | header name =>
    have htext : (Line.header name).text.toList ++ rest
        = '[' :: (name.toList ++ ']' :: '\n' :: rest) := by
      simp [Line.text, writeHeader]
    rw [htext]
    exact statements_of_statement rfl (by decide) (statement_header h happly fuel rest)
  | entry name text v =>
    obtain ⟨hname, hspells⟩ := h
    have htext : (Line.entry name text v).text.toList ++ rest
        = name.toList ++ ' ' :: '=' :: ' ' :: (text.toList ++ '\n' :: rest) := by
      simp [Line.text, writeEntry]
    have hread := statement_entry hname hspells happly fuel rest
    obtain ⟨c, cs, hcs, hall⟩ := exists_cons_of_isBare hname
    have hc := hall c List.mem_cons_self
    rw [htext]
    rw [hcs, List.cons_append] at hread ⊢
    exact statements_of_statement (isGapOrNewline_of_class hc) (ne_of_class hc rfl) hread
  | blank =>
    cases happly
    rfl

/-! ## §6. Documents. -/

/-- The characters of lines one after the other. -/
def written (ls : List Line) : List Char := ls.flatMap fun l => l.text.toList

/-- **To read lines is to apply them one after the other.**  Each takes one unit of fuel, and any
amount may be spared. -/
theorem statements_written {ls : List Line} (h : ∀ l ∈ ls, l.WellFormed) {d d' : Document}
    (happly : ls.foldlM Line.apply d = .ok d') (spare : Nat) :
    statements (ls.length + spare + 1) d (written ls) = .ok d' := by
  induction ls generalizing d with
  | nil =>
    cases happly
    rfl
  | cons l ls ih =>
    obtain ⟨hl, hls⟩ := List.forall_mem_cons.mp h
    rw [List.foldlM_cons] at happly
    cases hfirst : l.apply d with
    | error f =>
      rw [hfirst] at happly
      cases happly
    | ok e =>
      rw [hfirst] at happly
      have hfuel : (l :: ls).length + spare + 1 = ls.length + spare + 2 := by
        rw [List.length_cons]
        omega
      have htext : written (l :: ls) = l.text.toList ++ written ls := List.flatMap_cons
      rw [hfuel, htext, statements_line hl hfirst]
      exact ih hls happly

theorem foldPairs_of_not_mem {cs : List Char} (h : '\r' ∉ cs) : foldPairs cs = cs := by
  induction cs with
  | nil => rfl
  | cons c cs ih =>
    obtain ⟨hc, hcs⟩ := not_or.mp (List.mem_cons.not.mp h)
    rw [foldPairs.eq_def]
    split
    · rename_i heq
      cases heq
      exact absurd rfl hc
    · rename_i heq
      cases heq
      rw [ih hcs]
    · rename_i heq
      cases heq

theorem length_le_written (ls : List Line) : ls.length ≤ (written ls).length := by
  induction ls with
  | nil => exact Nat.le_refl 0
  | cons l ls ih =>
    have hl := l.length_pos
    have htext : written (l :: ls) = l.text.toList ++ written ls := List.flatMap_cons
    rw [htext, List.length_append, List.length_cons]
    omega

/-- **A document that is written is read back.** -/
theorem parse_written {ls : List Line} (h : ∀ l ∈ ls, l.WellFormed) {d : Document}
    (happly : ls.foldlM Line.apply {} = .ok d) : parse (written ls) = .ok d.root := by
  have hreturn : '\r' ∉ written ls := by
    intro hmem
    obtain ⟨l, hl, hc⟩ := List.mem_flatMap.mp hmem
    exact (h l hl).noReturn hc
  have hlength := length_le_written ls
  have hfuel : 2 * (written ls).length + 4
      = ls.length + (2 * (written ls).length + 3 - ls.length) + 1 := by omega
  unfold parse
  simp only [foldPairs_of_not_mem hreturn]
  rw [hfuel, statements_written h happly]
  rfl

end Breadcrumb.Toml
