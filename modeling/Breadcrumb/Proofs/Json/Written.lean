/-
  Breadcrumb.Proofs.Json.Written
  ──────────────────────────────
  **WHAT IS WRITTEN IN JSON IS READ BACK.**

  A value is written in ASCII and read by scanners that each have one law about
  what was written for them, whatever comes after that:

      an escape gives the unit that it names                    (`units?_unit`)
      a character gives its units, however it is escaped         (`units?_escape`)
      a text goes on up to its own mark, whatever it holds       (`string?_quoted`)
      an integer goes on up to a character that is no digit      (`integer?_ofInt`)
      an item or entry is followed by the others and the end     (`Reads`)

  So a value is read back at every depth (`reads_print`), and two values with one
  text are one value (`eq_of_pretty?`).
-/
import Mathlib
import Breadcrumb.Json.Reader

namespace Breadcrumb.Json

open Breadcrumb.Text

/-! ## §1. Texts. -/

/-- Units in front of those that are read. -/
def putUnits (us : List Nat) (r : List Nat × List Char) : List Nat × List Char := (us ++ r.1, r.2)

theorem units?_mark (rest : List Char) : units? ('"' :: rest) = some ([], rest) := by
  rw [units?.eq_def]
  simp

theorem units?_plain {c : Char} (hmark : c ≠ '"') (hslash : c ≠ '\\') (hprint : 0x20 ≤ c.toNat)
    (rest : List Char) :
    units? (c :: rest) = (units? rest).map (putUnits (Utf16.encodeChar c)) := by
  have hcontrol : ¬ c.toNat < 0x20 := by omega
  rw [units?.eq_def]
  cases hrest : units? rest <;> simp [hslash, hcontrol, hrest, putUnits]

theorem units?_short {x y : Char} (h : shortEscape? x = some y) (rest : List Char) :
    units? ('\\' :: x :: rest) = (units? rest).map (putUnits [y.toNat]) := by
  have hu : x ≠ 'u' := by
    rintro rfl
    cases h
  rw [units?.eq_def]
  cases hrest : units? rest <;> simp [hu, h, hrest, putUnits]

/-- An escape gives the unit that it names. -/
theorem units?_unit {n : Nat} (h : n < 0x10000) (rest : List Char) :
    units? (unit n ++ rest) = (units? rest).map (putUnits [n]) := by
  have hvalue : Hexadecimal.value? (Hexadecimal.digits 4 n) = some n :=
    Hexadecimal.value?_digits (show n < 65536 from h)
  obtain ⟨a, b, c, d, hdigits⟩ : ∃ a b c d, Hexadecimal.digits 4 n = [a, b, c, d] :=
    ⟨_, _, _, _, rfl⟩
  rw [hdigits] at hvalue
  rw [unit, hdigits, units?.eq_def]
  cases hrest : units? rest <;> simp [hvalue, hrest, putUnits]

/-- Escapes one after the other give their units. -/
theorem units?_flatMap_unit {us : List Nat} (h : ∀ u ∈ us, u < 0x10000) (rest : List Char) :
    units? (us.flatMap unit ++ rest) = (units? rest).map (putUnits us) := by
  induction us with
  | nil =>
    cases hrest : units? rest <;> simp [hrest, putUnits]
  | cons u us ih =>
    obtain ⟨hu, hus⟩ := List.forall_mem_cons.mp h
    rw [List.flatMap_cons, List.append_assoc, units?_unit hu, ih hus, Option.map_map]
    rfl

/-- Every unit of a character has 16 bits. -/
theorem lt_of_mem_encodeChar {c : Char} {u : Nat} (h : u ∈ Utf16.encodeChar c) : u < 0x10000 := by
  have hvalid := c.valid
  simp only [UInt32.isValidChar, Nat.isValidChar] at hvalid
  have hn : c.toNat = c.val.toNat := rfl
  unfold Utf16.encodeChar at h
  split at h
  · rename_i hplane
    rw [List.mem_singleton.mp h]
    exact hplane
  · rcases List.mem_cons.mp h with rfl | h
    · omega
    · rw [List.mem_singleton.mp h]
      omega

/-- **What is written for a character is read as its units**, whatever follows. -/
theorem units?_escape (c : Char) (rest : List Char) :
    units? (escape c ++ rest) = (units? rest).map (putUnits (Utf16.encodeChar c)) := by
  unfold escape
  split
  · exact units?_short rfl rest
  · exact units?_short rfl rest
  · exact units?_short rfl rest
  · exact units?_short rfl rest
  · exact units?_short rfl rest
  · rename_i hmark hslash hnewline hreturn htab
    have hback := Char.ofNat_toNat c
    simp only
    split_ifs with hbackspace hfeed hprint
    · rw [← hback, hbackspace]
      exact units?_short rfl rest
    · rw [← hback, hfeed]
      exact units?_short rfl rest
    · have hlow : 0x20 ≤ c.toNat := by
        simp only [Bool.and_eq_true, decide_eq_true_eq] at hprint
        exact hprint.1
      exact units?_plain hmark hslash hlow rest
    · exact units?_flatMap_unit (fun u => lt_of_mem_encodeChar) rest

theorem units?_flatMap_escape (cs rest : List Char) :
    units? (cs.flatMap escape ++ '"' :: rest) = some (cs.flatMap Utf16.encodeChar, rest) := by
  induction cs with
  | nil => exact units?_mark rest
  | cons c cs ih =>
    rw [List.flatMap_cons, List.append_assoc, units?_escape, ih]
    rfl

/-- **A text that is written is read back.** -/
theorem string?_quoted (s : String) (rest : List Char) :
    string? (s.toList.flatMap escape ++ '"' :: rest) = some (s, rest) := by
  unfold string?
  rw [units?_flatMap_escape]
  simp only [Utf16.decode?_encode, Option.map_some, String.ofList_toList]

/-! ## §2. Integers. -/

/-- What follows does not begin with a digit, which an integer before it would take in. -/
def NoDigit (rest : List Char) : Prop := ∀ c cs, rest = c :: cs → Decimal.isDigit c = false

theorem noDigit_nil : NoDigit [] := fun _ _ h => nomatch h

theorem noDigit_cons {c : Char} (h : Decimal.isDigit c = false) (cs : List Char) :
    NoDigit (c :: cs) := by
  intro x xs heq
  cases heq
  exact h

theorem takeWhile_digits {ds rest : List Char} (h : ∀ d ∈ ds, Decimal.isDigit d = true)
    (hrest : NoDigit rest) : (ds ++ rest).takeWhile Decimal.isDigit = ds := by
  rw [List.takeWhile_append_of_pos h]
  cases rest with
  | nil => exact List.append_nil ds
  | cons c cs => rw [List.takeWhile_cons_of_neg (by simp [hrest c cs rfl]), List.append_nil]

theorem dropWhile_digits {ds rest : List Char} (h : ∀ d ∈ ds, Decimal.isDigit d = true)
    (hrest : NoDigit rest) : (ds ++ rest).dropWhile Decimal.isDigit = rest := by
  rw [List.dropWhile_append_of_pos h]
  cases rest with
  | nil => rfl
  | cons c cs => rw [List.dropWhile_cons_of_neg (by simp [hrest c cs rfl])]

/-- A number is written with a digit in front, which is a zero only if it is the only one. -/
theorem digits_cases (n : Nat) :
    ∃ d ds, Decimal.digits n = d :: ds ∧ Decimal.isDigit d = true ∧ (d = '0' → ds = []) := by
  cases n with
  | zero => exact ⟨'0', [], by rw [Decimal.digits]; rfl, rfl, fun _ => rfl⟩
  | succ n =>
    obtain ⟨d, ds, hds, hzero⟩ := Decimal.digits_eq_cons (Nat.succ_pos n)
    have hd : d ∈ Decimal.digits (n + 1) := by
      rw [hds]
      exact List.mem_cons_self
    exact ⟨d, ds, hds, Decimal.isDigit_of_mem_digits hd, fun h => absurd h hzero⟩

theorem natural?_digits (n : Nat) {rest : List Char} (hrest : NoDigit rest) :
    natural? (Decimal.digits n ++ rest) = some (n, rest) := by
  have hall : ∀ d ∈ Decimal.digits n, Decimal.isDigit d = true :=
    fun d => Decimal.isDigit_of_mem_digits
  have hvalue := Decimal.value_digits n
  unfold natural?
  rw [takeWhile_digits hall hrest, dropWhile_digits hall hrest]
  obtain ⟨d, ds, hds, -, hzero⟩ := digits_cases n
  rw [hds] at hvalue ⊢
  by_cases hd : d = '0'
  · simp [hzero hd, ← hvalue]
  · simp [hd, hvalue]

/-- **An integer that is written is read back.** -/
theorem integer?_ofInt (n : Int) {rest : List Char} (hrest : NoDigit rest) :
    integer? (Decimal.ofInt n ++ rest) = some (n, rest) := by
  cases n with
  | ofNat n =>
    have hread := natural?_digits n hrest
    obtain ⟨d, ds, hds, hd, -⟩ := digits_cases n
    have hminus : d ≠ '-' := ne_of_class hd rfl
    rw [Decimal.ofInt]
    rw [hds, List.cons_append] at hread ⊢
    rw [integer?.eq_def]
    simp [hminus, hread]
  | negSucc n =>
    rw [Decimal.ofInt, List.cons_append, integer?.eq_def]
    simp only [natural?_digits (n + 1) hrest, Option.map_some]
    rfl

/-! ## §3. Blanks, and what follows an item or an entry. -/

/-- A new line and its indentation are passed over. -/
theorem skipSpace_newline (depth : Nat) (cs : List Char) :
    skipSpace (newline depth ++ cs) = skipSpace cs := by
  have hblank : ∀ c ∈ newline depth, isSpace c = true := by
    intro c hc
    rcases List.mem_cons.mp hc with rfl | hc
    · rfl
    · rw [List.eq_of_mem_replicate hc]
      rfl
  unfold skipSpace
  exact List.dropWhile_append_of_pos hblank

theorem skipSpace_of_not_isSpace {c : Char} (h : isSpace c = false) (cs : List Char) :
    skipSpace (c :: cs) = c :: cs := by
  unfold skipSpace
  exact List.dropWhile_cons_of_neg (by simp [h])

/-- A reader of values looks first at what follows the blanks. -/
theorem value?_of_skipSpace {cs ds : List Char} (h : skipSpace cs = skipSpace ds) (fuel : Nat) :
    value? fuel cs = value? fuel ds := by
  cases fuel with
  | zero => simp only [value?]
  | succ fuel => simp only [value?, h]

theorem value?_newline (depth fuel : Nat) (cs : List Char) :
    value? fuel (newline depth ++ cs) = value? fuel cs :=
  value?_of_skipSpace (skipSpace_newline depth cs) fuel

theorem value?_blank (fuel : Nat) (cs : List Char) : value? fuel (' ' :: cs) = value? fuel cs :=
  value?_of_skipSpace (List.dropWhile_cons_of_pos rfl) fuel

/-- The end of a list stands behind the item. -/
theorem items?_last {fuel : Nat} {cs after rest : List Char} {item : Json}
    (hitem : value? fuel cs = some (item, after)) (hend : skipSpace after = ']' :: rest) :
    items? (fuel + 1) cs = some ([item], rest) := by
  rw [items?, hitem]
  simp [hend]

/-- A comma and further items stand behind the item. -/
theorem items?_next {fuel : Nat} {cs after more rest : List Char} {item : Json} {items : List Json}
    (hitem : value? fuel cs = some (item, after)) (hcomma : skipSpace after = ',' :: more)
    (hmore : items? fuel more = some (items, rest)) :
    items? (fuel + 1) cs = some (item :: items, rest) := by
  rw [items?, hitem]
  simp [hcomma, hmore]

/-- A key and its colon stand before the value of an entry. -/
theorem entries?_key {fuel : Nat} {cs after : List Char} {key : String}
    (hkey : skipSpace cs = '"' :: (key.toList.flatMap escape ++ '"' :: ':' :: after)) :
    entries? (fuel + 1) cs = (value? fuel after).bind fun r =>
      match skipSpace r.2 with
      | '\x7d' :: rest => some ([(key, r.1)], rest)
      | ',' :: rest => (entries? fuel rest).map fun m => ((key, r.1) :: m.1, m.2)
      | _ => none := by
  have hcolon : skipSpace (':' :: after) = ':' :: after := skipSpace_of_not_isSpace rfl after
  rw [entries?, hkey]
  simp only [string?_quoted, hcolon, Option.bind_eq_bind, Option.bind_some, Option.map_eq_bind]
  rfl

/-- The end of an object stands behind the entry. -/
theorem entries?_last {fuel : Nat} {cs after behind rest : List Char} {key : String} {value : Json}
    (hkey : skipSpace cs = '"' :: (key.toList.flatMap escape ++ '"' :: ':' :: after))
    (hvalue : value? fuel after = some (value, behind)) (hend : skipSpace behind = '\x7d' :: rest) :
    entries? (fuel + 1) cs = some ([(key, value)], rest) := by
  rw [entries?_key hkey, hvalue]
  simp [hend]

/-- A comma and further entries stand behind the entry. -/
theorem entries?_next {fuel : Nat} {cs after behind more rest : List Char} {key : String}
    {value : Json} {entries : List (String × Json)}
    (hkey : skipSpace cs = '"' :: (key.toList.flatMap escape ++ '"' :: ':' :: after))
    (hvalue : value? fuel after = some (value, behind)) (hcomma : skipSpace behind = ',' :: more)
    (hmore : entries? fuel more = some (entries, rest)) :
    entries? (fuel + 1) cs = some ((key, value) :: entries, rest) := by
  rw [entries?_key hkey, hvalue]
  simp [hcomma, hmore]

/-- A minus sign or a digit: it is told from the marks of a text, a list and an object, and from a
blank. -/
def beginsInteger (c : Char) : Bool := c = '-' || Decimal.isDigit c

theorem isSpace_of_beginsInteger {c : Char} (h : beginsInteger c = true) : isSpace c = false := by
  have hne : ∀ x, beginsInteger x = false → c ≠ x := fun x => ne_of_class h
  simp [isSpace, hne ' ' rfl, hne '\n' rfl, hne '\r' rfl, hne '\t' rfl]

theorem ofInt_eq_cons (n : Int) :
    ∃ c cs, Decimal.ofInt n = c :: cs ∧ beginsInteger c = true := by
  cases n with
  | ofNat n =>
    obtain ⟨d, ds, hds, hd, -⟩ := digits_cases n
    exact ⟨d, ds, hds, by rw [beginsInteger, hd, Bool.or_true]⟩
  | negSucc n => exact ⟨'-', _, rfl, rfl⟩

/-- A value begins with a character that is no blank and does not end a list. -/
theorem print_eq_cons (depth : Nat) (j : Json) :
    ∃ c cs, print depth j = c :: cs ∧ isSpace c = false ∧ c ≠ ']' := by
  cases j with
  | number n =>
    obtain ⟨c, cs, hcs, hc⟩ := ofInt_eq_cons n
    exact ⟨c, cs, by rw [print, hcs], isSpace_of_beginsInteger hc, ne_of_class hc rfl⟩
  | text s => exact ⟨'"', _, by rw [print, quoted], rfl, by decide⟩
  | list items =>
    cases items with
    | nil => exact ⟨'[', _, by rw [print], rfl, by decide⟩
    | cons item items => exact ⟨'[', _, by rw [print], rfl, by decide⟩
  | object entries =>
    cases entries with
    | nil => exact ⟨'\x7b', _, by rw [print], rfl, by decide⟩
    | cons entry entries => exact ⟨'\x7b', _, by rw [print], rfl, by decide⟩

/-! ## §4. Values. -/

/-- A value that is written at a depth is read back, whatever follows. -/
def Reads (depth : Nat) (j : Json) : Prop :=
  ∀ (fuel : Nat) (rest : List Char), (print depth j).length ≤ fuel → NoDigit rest →
    value? fuel (print depth j ++ rest) = some (j, rest)

/-- Further items are read back up to the end of their list, once the item before them is. -/
def ReadsItems (depth : Nat) (items : List Json) : Prop :=
  ∀ (fuel outer : Nat) (cs rest : List Char) (item : Json), (printItems depth items).length ≤ fuel →
    value? fuel cs = some (item, printItems depth items ++ (newline outer ++ ']' :: rest)) →
    items? (fuel + 1) cs = some (item :: items, rest)

/-- Further entries are read back up to the end of their object, once the entry before them is. -/
def ReadsEntries (depth : Nat) (entries : List (String × Json)) : Prop :=
  ∀ (fuel outer : Nat) (cs after rest : List Char) (key : String) (value : Json),
    (printEntries depth entries).length ≤ fuel →
    skipSpace cs = '"' :: (key.toList.flatMap escape ++ '"' :: ':' :: after) →
    value? fuel after
      = some (value, printEntries depth entries ++ (newline outer ++ '\x7d' :: rest)) →
    entries? (fuel + 1) cs = some ((key, value) :: entries, rest)

theorem noDigit_newline (depth : Nat) (cs : List Char) : NoDigit (newline depth ++ cs) :=
  noDigit_cons rfl _

theorem noDigit_printItems (depth outer : Nat) (items : List Json) (cs : List Char) :
    NoDigit (printItems depth items ++ (newline outer ++ cs)) := by
  cases items with
  | nil =>
    rw [printItems]
    exact noDigit_newline outer cs
  | cons item items =>
    rw [printItems]
    exact noDigit_cons rfl _

theorem noDigit_printEntries (depth outer : Nat) (entries : List (String × Json)) (cs : List Char) :
    NoDigit (printEntries depth entries ++ (newline outer ++ cs)) := by
  cases entries with
  | nil =>
    rw [printEntries]
    exact noDigit_newline outer cs
  | cons entry entries =>
    rw [printEntries]
    exact noDigit_cons rfl _

/-- Fuel for a value is fuel for a step. -/
theorem exists_fuel {depth fuel : Nat} {j : Json} (h : (print depth j).length ≤ fuel) :
    ∃ spare, fuel = spare + 1 := by
  obtain ⟨c, cs, hcs, -⟩ := print_eq_cons depth j
  rw [hcs, List.length_cons] at h
  exact ⟨fuel - 1, by omega⟩

theorem reads_number (depth : Nat) (n : Int) : Reads depth (.number n) := by
  intro fuel rest hfuel hrest
  obtain ⟨spare, rfl⟩ := exists_fuel hfuel
  have hread := integer?_ofInt n hrest
  obtain ⟨c, cs, hcs, hc⟩ := ofInt_eq_cons n
  have hne : ∀ x, beginsInteger x = false → c ≠ x := fun x => ne_of_class hc
  rw [print]
  rw [hcs, List.cons_append] at hread ⊢
  rw [value?, skipSpace_of_not_isSpace (isSpace_of_beginsInteger hc)]
  simp [hne '"' rfl, hne '[' rfl, hne '\x7b' rfl, hread]

theorem reads_text (depth : Nat) (s : String) : Reads depth (.text s) := by
  intro fuel rest hfuel _
  obtain ⟨spare, rfl⟩ := exists_fuel hfuel
  rw [print, quoted, List.cons_append, List.append_assoc, value?, skipSpace_of_not_isSpace rfl]
  simp [string?_quoted]

theorem reads_list_nil (depth : Nat) : Reads depth (.list []) := by
  intro fuel rest hfuel _
  obtain ⟨spare, rfl⟩ := exists_fuel hfuel
  rw [print, value?]
  rfl

theorem reads_list_cons {depth : Nat} {item : Json} {items : List Json}
    (hitem : Reads (depth + 1) item) (hitems : ReadsItems (depth + 1) items) :
    Reads depth (.list (item :: items)) := by
  intro fuel rest hfuel _
  rw [print] at hfuel ⊢
  simp only [List.length_cons, List.length_append, newline] at hfuel
  -- One step is for the list and one for its first item.
  obtain ⟨spare, rfl⟩ : ∃ spare, fuel = spare + 2 := ⟨fuel - 2, by omega⟩
  have hread := hitem spare (printItems (depth + 1) items ++ (newline depth ++ ']' :: rest))
    (by omega) (noDigit_printItems _ _ _ _)
  have hall := hitems spare depth _ rest item (by omega) hread
  obtain ⟨c, cs, hcs, hspace, hend⟩ := print_eq_cons (depth + 1) item
  rw [hcs, List.cons_append] at hall
  rw [hcs]
  simp only [List.cons_append, List.append_assoc, List.nil_append]
  rw [value?, skipSpace_of_not_isSpace rfl]
  simp only [skipSpace_newline, skipSpace_of_not_isSpace hspace]
  simp [hend, hall]

theorem reads_object_nil (depth : Nat) : Reads depth (.object []) := by
  intro fuel rest hfuel _
  obtain ⟨spare, rfl⟩ := exists_fuel hfuel
  rw [print, value?]
  rfl

theorem reads_object_cons {depth : Nat} {key : String} {value : Json}
    {entries : List (String × Json)} (hvalue : Reads (depth + 1) value)
    (hentries : ReadsEntries (depth + 1) entries) :
    Reads depth (.object ((key, value) :: entries)) := by
  intro fuel rest hfuel _
  rw [print] at hfuel ⊢
  simp only [List.length_cons, List.length_append, newline] at hfuel
  -- One step is for the object and one for its first entry.
  obtain ⟨spare, rfl⟩ : ∃ spare, fuel = spare + 2 := ⟨fuel - 2, by omega⟩
  have hread := hvalue spare (printEntries (depth + 1) entries ++ (newline depth ++ '\x7d' :: rest))
    (by omega) (noDigit_printEntries _ _ _ _)
  rw [← value?_blank] at hread
  have hmark : isSpace '"' = false := rfl
  have hall := hentries spare depth _ _ rest key value (by omega)
    (skipSpace_of_not_isSpace hmark _) hread
  simp only [quoted, List.cons_append, List.append_assoc, List.nil_append]
  rw [value?, skipSpace_of_not_isSpace rfl]
  simp only [skipSpace_newline, skipSpace_of_not_isSpace hmark]
  simp [hall]

theorem readsItems_nil (depth : Nat) : ReadsItems depth [] := by
  intro fuel outer cs rest item _ hitem
  rw [printItems, List.nil_append] at hitem
  refine items?_last hitem ?_
  rw [skipSpace_newline]
  rfl

theorem readsItems_cons {depth : Nat} {item : Json} {items : List Json}
    (hitem : Reads depth item) (hitems : ReadsItems depth items) :
    ReadsItems depth (item :: items) := by
  intro fuel outer cs rest first hfuel hfirst
  rw [printItems] at hfuel hfirst
  simp only [List.length_cons, List.length_append, newline] at hfuel
  simp only [List.cons_append, List.append_assoc] at hfirst
  obtain ⟨spare, rfl⟩ : ∃ spare, fuel = spare + 1 := ⟨fuel - 1, by omega⟩
  have hread := hitem spare (printItems depth items ++ (newline outer ++ ']' :: rest)) (by omega)
    (noDigit_printItems _ _ _ _)
  rw [← value?_newline depth] at hread
  exact items?_next hfirst rfl (hitems spare outer _ rest item (by omega) hread)

theorem readsEntries_nil (depth : Nat) : ReadsEntries depth [] := by
  intro fuel outer cs after rest key value _ hkey hvalue
  rw [printEntries, List.nil_append] at hvalue
  refine entries?_last hkey hvalue ?_
  rw [skipSpace_newline]
  rfl

theorem readsEntries_cons {depth : Nat} {key : String} {value : Json}
    {entries : List (String × Json)} (hvalue : Reads depth value)
    (hentries : ReadsEntries depth entries) : ReadsEntries depth ((key, value) :: entries) := by
  intro fuel outer cs after rest first v hfuel hfirst hv
  rw [printEntries] at hfuel hv
  simp only [List.length_cons, List.length_append, newline] at hfuel
  simp only [quoted, List.cons_append, List.append_assoc, List.nil_append] at hv
  obtain ⟨spare, rfl⟩ : ∃ spare, fuel = spare + 1 := ⟨fuel - 1, by omega⟩
  have hread := hvalue spare (printEntries depth entries ++ (newline outer ++ '\x7d' :: rest))
    (by omega) (noDigit_printEntries _ _ _ _)
  rw [← value?_blank] at hread
  have hkey : ∀ cs, skipSpace (newline depth ++ '"' :: cs) = '"' :: cs := by
    intro cs
    rw [skipSpace_newline, skipSpace_of_not_isSpace rfl]
  have hmore := hentries spare outer _ _ rest key value (by omega) (hkey _) hread
  exact entries?_next hfirst hv rfl hmore

/-- **A value that is written is read back**, at every depth and whatever follows. -/
theorem reads_print (depth : Nat) (j : Json) : Reads depth j :=
  print.induct Reads ReadsEntries ReadsItems reads_number reads_text reads_list_nil
    (fun _ _ _ => reads_list_cons) reads_object_nil (fun _ _ _ _ => reads_object_cons)
    readsItems_nil (fun _ _ _ => readsItems_cons) readsEntries_nil
    (fun _ _ _ _ => readsEntries_cons) depth j

/-- **To read what is written for a value gives the value.** -/
theorem parse_pretty (j : Json) : parse (pretty j) = some j := by
  have hlength : (print 0 j).length ≤ 2 * (pretty j).length + 2 := by
    simp only [pretty, String.length_ofList]
    omega
  have hread := reads_print 0 j _ [] hlength noDigit_nil
  rw [List.append_nil] at hread
  unfold parse
  rw [pretty, String.toList_ofList, ← pretty, hread]
  rfl

theorem eq_pretty_of_pretty? {j : Json} {text : String} (h : pretty? j = some text) :
    text = pretty j := by
  unfold pretty? at h
  split at h
  · exact (Option.some.inj h).symm
  · cases h

/-- **Values with one text are one value.** -/
theorem eq_of_pretty? {i j : Json} {text : String} (hi : pretty? i = some text)
    (hj : pretty? j = some text) : i = j := by
  have hread := parse_pretty i
  rw [← eq_pretty_of_pretty? hi, eq_pretty_of_pretty? hj, parse_pretty] at hread
  exact (Option.some.inj hread).symm

/-! ## §5. The characters of a text. -/

/-- There is nothing but ASCII, without its last character. -/
def Ascii (cs : List Char) : Prop := ∀ c ∈ cs, c.toNat < 0x7F

@[simp] theorem ascii_nil : Ascii [] := fun _ h => absurd h List.not_mem_nil

@[simp] theorem ascii_cons {c : Char} {cs : List Char} :
    Ascii (c :: cs) ↔ c.toNat < 0x7F ∧ Ascii cs :=
  List.forall_mem_cons

@[simp] theorem ascii_append {cs ds : List Char} : Ascii (cs ++ ds) ↔ Ascii cs ∧ Ascii ds :=
  List.forall_mem_append

theorem ascii_flatMap {α : Type} {f : α → List Char} (h : ∀ x, Ascii (f x)) (xs : List α) :
    Ascii (xs.flatMap f) := by
  intro c hc
  obtain ⟨x, -, hx⟩ := List.mem_flatMap.mp hc
  exact h x c hx

theorem ascii_ofInt (n : Int) : Ascii (Decimal.ofInt n) := by
  have hdigits : ∀ n, Ascii (Decimal.digits n) := by
    intro n c hc
    have hdigit := Decimal.isDigit_of_mem_digits hc
    simp only [Decimal.isDigit, Bool.and_eq_true, decide_eq_true_eq] at hdigit
    omega
  cases n with
  | ofNat n => exact hdigits n
  | negSucc n => exact ascii_cons.mpr ⟨by decide, hdigits (n + 1)⟩

theorem ascii_unit (n : Nat) : Ascii (unit n) := by
  have hdigits : Ascii (Hexadecimal.digits 4 n) := by
    intro c hc
    have hdigit := Hexadecimal.isSome_digit?_of_mem_digits hc
    have hlow : ∀ x : Char, c ≤ x → x.toNat < 0x7F → c.toNat < 0x7F := by
      intro x hx hascii
      have hle : c.toNat ≤ x.toNat := UInt32.le_iff_toNat_le.mp hx
      omega
    unfold Hexadecimal.digit? at hdigit
    split_ifs at hdigit with hnine hsmall hcapital
    · obtain ⟨-, hc⟩ : '0' ≤ c ∧ c ≤ '9' := by simpa using hnine
      exact hlow '9' hc (by decide)
    · obtain ⟨-, hc⟩ : 'a' ≤ c ∧ c ≤ 'f' := by simpa using hsmall
      exact hlow 'f' hc (by decide)
    · obtain ⟨-, hc⟩ : 'A' ≤ c ∧ c ≤ 'F' := by simpa using hcapital
      exact hlow 'F' hc (by decide)
    · cases hdigit
  simp [unit, hdigits]

theorem ascii_escape (c : Char) : Ascii (escape c) := by
  unfold escape
  split
  · simp
  · simp
  · simp
  · simp
  · simp
  · simp only
    split_ifs with hbackspace hfeed hprint
    · simp
    · simp
    · simp only [Bool.and_eq_true, decide_eq_true_eq] at hprint
      exact ascii_cons.mpr ⟨by omega, ascii_nil⟩
    · exact ascii_flatMap ascii_unit _

theorem ascii_quoted (s : String) : Ascii (quoted s) := by
  simp [quoted, ascii_flatMap ascii_escape]

theorem ascii_newline (depth : Nat) : Ascii (newline depth) := by
  intro c hc
  rcases List.mem_cons.mp hc with rfl | hc
  · decide
  · rw [List.eq_of_mem_replicate hc]
    decide

/-- **All that is written is ASCII.** -/
theorem ascii_print (depth : Nat) (j : Json) : Ascii (print depth j) := by
  refine print.induct (fun depth j => Ascii (print depth j))
    (fun depth entries => Ascii (printEntries depth entries))
    (fun depth items => Ascii (printItems depth items)) ?_ ?_ ?_ ?_ ?_ ?_ ?_ ?_ ?_ ?_ depth j
  · intro depth n
    rw [print]
    exact ascii_ofInt n
  · intro depth s
    rw [print]
    exact ascii_quoted s
  · intro depth
    simp [print]
  · intro depth item items hitem hitems
    simp [print, ascii_newline, hitem, hitems]
  · intro depth
    simp [print]
  · intro depth key value entries hvalue hentries
    simp [print, ascii_newline, ascii_quoted, hvalue, hentries]
  · intro depth
    simp [printItems]
  · intro depth item items hitem hitems
    simp [printItems, ascii_newline, hitem, hitems]
  · intro depth
    simp [printEntries]
  · intro depth key value entries hvalue hentries
    simp [printEntries, ascii_newline, ascii_quoted, hvalue, hentries]

end Breadcrumb.Json
