/-
  Breadcrumb.Proofs.Text.Pieces
  ─────────────────────────────
  **WHAT A TEXT PASSES ON TO ITS PIECES.**

  A line has characters of its text only, and none of them is a newline.  Texts
  that are joined by newlines keep their lines (`lines_join`).  The words of a text
  are at most the words of its parts, since a cut can only make two words of one.
  Trimming stops at a character that is not blank (`trimEnd_append_cons`).
-/
import Breadcrumb.Text.Blank
import Breadcrumb.Text.Lines

namespace Breadcrumb.Text

/-! ## §1. Lines. -/

/-- The characters of a piece are characters of the text, and not the separator. -/
theorem mem_of_mem_splitOn {sep c : Char} :
    ∀ {cs piece : List Char}, piece ∈ splitOn sep cs → c ∈ piece → c ∈ cs ∧ c ≠ sep
  | [], piece, hp, hc => by
      unfold splitOn at hp
      rw [List.mem_singleton.mp hp] at hc
      exact absurd hc List.not_mem_nil
  | d :: cs, piece, hp, hc => by
      unfold splitOn at hp
      by_cases hd : d = sep
      · -- The separator itself ends an empty piece, and the others come from the rest.
        rw [if_pos hd] at hp
        rcases List.mem_cons.mp hp with rfl | hp
        · exact absurd hc List.not_mem_nil
        · obtain ⟨hmem, hne⟩ := mem_of_mem_splitOn hp hc
          exact ⟨List.mem_cons_of_mem d hmem, hne⟩
      · -- Any other character goes to the first piece of the rest.
        rw [if_neg hd] at hp
        cases hs : splitOn sep cs with
        | nil => exact absurd hs (splitOn_ne_nil sep cs)
        | cons first more =>
          rw [hs] at hp
          have hrest : ∀ p ∈ first :: more, c ∈ p → c ∈ d :: cs ∧ c ≠ sep := by
            intro p hp hc
            rw [← hs] at hp
            obtain ⟨hmem, hne⟩ := mem_of_mem_splitOn hp hc
            exact ⟨List.mem_cons_of_mem d hmem, hne⟩
          rcases List.mem_cons.mp hp with rfl | hp
          · rcases List.mem_cons.mp hc with rfl | hc
            · exact ⟨List.mem_cons_self, hd⟩
            · exact hrest first List.mem_cons_self hc
          · exact hrest piece (List.mem_cons_of_mem first hp) hc

/-- A text of blanks has only blank lines. -/
theorem allBlank_of_mem_lines {contents text : String} (h : allBlank contents = true)
    (ht : text ∈ lines contents) : allBlank text = true := by
  unfold lines at ht
  obtain ⟨piece, hp, rfl⟩ := List.mem_map.mp ht
  unfold allBlank at h ⊢
  rw [String.toList_ofList, List.all_eq_true]
  intro c hc
  exact List.all_eq_true.mp h c (mem_of_mem_splitOn hp hc).1

theorem newline_not_mem_of_mem_lines {contents text : String} (h : text ∈ lines contents) :
    '\n' ∉ text.toList := by
  unfold lines at h
  obtain ⟨piece, hp, rfl⟩ := List.mem_map.mp h
  rw [String.toList_ofList]
  intro hmem
  exact (mem_of_mem_splitOn hp hmem).2 rfl

/-! ## §2. Lines of parts. -/

/-- A separator cuts a text in two that are cut by themselves. -/
theorem splitOn_append_cons (sep : Char) (as bs : List Char) :
    splitOn sep (as ++ sep :: bs) = splitOn sep as ++ splitOn sep bs := by
  induction as with
  | nil =>
    show splitOn sep (sep :: bs) = [[]] ++ splitOn sep bs
    rw [splitOn, if_pos rfl]
    rfl
  | cons a as ih =>
    rw [List.cons_append, splitOn, splitOn]
    by_cases ha : a = sep
    · rw [if_pos ha, if_pos ha, ih]
      rfl
    · -- The character goes to the first piece of what is left, which `as` has.
      rw [if_neg ha, if_neg ha, ih]
      cases hs : splitOn sep as with
      | nil => exact absurd hs (splitOn_ne_nil sep as)
      | cons piece pieces => rfl

theorem splitOn_of_not_mem {sep : Char} {cs : List Char} (h : sep ∉ cs) :
    splitOn sep cs = [cs] := by
  induction cs with
  | nil => rfl
  | cons c cs ih =>
    rw [List.mem_cons, not_or] at h
    rw [splitOn, if_neg (Ne.symm h.1), ih h.2]

/-- A text has one piece more than separators. -/
theorem length_splitOn (sep : Char) (cs : List Char) :
    (splitOn sep cs).length = cs.count sep + 1 := by
  induction cs with
  | nil => rfl
  | cons c cs ih =>
    rw [splitOn]
    by_cases hc : c = sep
    · rw [if_pos hc, List.length_cons, ih, hc, List.count_cons_self]
    · rw [if_neg hc, List.count_cons_of_ne hc, ← ih]
      cases hs : splitOn sep cs with
      | nil => exact absurd hs (splitOn_ne_nil sep cs)
      | cons piece pieces => rfl

theorem length_lines (s : String) : (lines s).length = s.toList.count '\n' + 1 := by
  unfold lines
  rw [List.length_map, length_splitOn]

theorem lines_ne_nil (s : String) : lines s ≠ [] := by
  unfold lines
  intro h
  exact splitOn_ne_nil '\n' s.toList (List.map_eq_nil_iff.mp h)

theorem lines_of_not_mem {s : String} (h : '\n' ∉ s.toList) : lines s = [s] := by
  unfold lines
  rw [splitOn_of_not_mem h, List.map_singleton, String.ofList_toList]

/-- A newline ends a line, and another one begins behind it. -/
theorem lines_append_newline (a b : String) : lines (a ++ "\n" ++ b) = lines a ++ lines b := by
  unfold lines
  have htext : (a ++ "\n" ++ b).toList = a.toList ++ '\n' :: b.toList := by
    rw [String.toList_append, String.toList_append, List.append_assoc]
    rfl
  rw [htext, splitOn_append_cons, List.map_append]

/-- **Texts that are joined by newlines keep their lines.** -/
theorem lines_join : ∀ {parts : List String}, parts ≠ [] →
    lines (join "\n" parts) = parts.flatMap lines
  | [part], _ => (List.append_nil (lines part)).symm
  | part :: next :: parts, _ => by
      show lines (part ++ "\n" ++ join "\n" (next :: parts)) = _
      rw [lines_append_newline, lines_join (List.cons_ne_nil next parts)]
      rfl

/-- Lines that are joined are the lines of the whole. -/
theorem lines_join_of_not_mem {parts : List String} (hne : parts ≠ [])
    (h : ∀ part ∈ parts, '\n' ∉ part.toList) : lines (join "\n" parts) = parts := by
  rw [lines_join hne]
  induction parts with
  | nil => rfl
  | cons part parts ih =>
    obtain ⟨hpart, hparts⟩ := List.forall_mem_cons.mp h
    rw [List.flatMap_cons, lines_of_not_mem hpart]
    cases parts with
    | nil => rfl
    | cons next more => rw [ih (List.cons_ne_nil next more) hparts]; rfl

/-- Parts that are joined begin with the first of them. -/
theorem exists_join_cons (sep part : String) (parts : List String) :
    ∃ rest, join sep (part :: parts) = part ++ rest := by
  cases parts with
  | nil => exact ⟨"", String.append_empty.symm⟩
  | cons next more => exact ⟨sep ++ join sep (next :: more), String.append_assoc⟩

/-- What stands before the last of several parts does not depend on it. -/
theorem exists_join_concat (sep : String) (parts : List String) :
    ∃ ahead, ∀ last, join sep (parts ++ [last]) = ahead ++ last := by
  induction parts with
  | nil => exact ⟨"", fun last => String.empty_append.symm⟩
  | cons part parts ih =>
    obtain ⟨ahead, hjoin⟩ := ih
    refine ⟨part ++ sep ++ ahead, ?_⟩
    intro last
    cases parts with
    | nil =>
      show part ++ sep ++ join sep ([] ++ [last]) = _
      rw [hjoin, ← String.append_assoc]
    | cons next more =>
      show part ++ sep ++ join sep (next :: more ++ [last]) = _
      rw [hjoin, ← String.append_assoc]

/-! ## §3. Words. -/

theorem wordCount_go_cons (inside : Bool) (c : Char) (cs : List Char) :
    wordCount.go inside (c :: cs)
      = if isBlank c then wordCount.go false cs
        else (if inside then 0 else 1) + wordCount.go true cs := rfl

/-- A text inside a word counts no more words than the same text outside. -/
theorem wordCount_go_true_le : ∀ cs : List Char, wordCount.go true cs ≤ wordCount.go false cs
  | [] => Nat.le_refl _
  | c :: cs => by
      rw [wordCount_go_cons, wordCount_go_cons]
      split
      · exact Nat.le_refl _
      · exact Nat.add_le_add_right (Nat.zero_le 1) _

/-- **No word is missed where a text is cut**; one that goes on behind the cut is counted twice. -/
theorem wordCount_go_append_le :
    ∀ (inside : Bool) (cs ds : List Char),
      wordCount.go inside (cs ++ ds) ≤ wordCount.go inside cs + wordCount.go false ds
  | true, [], ds => by
      -- The cut lies inside a word, or right behind it.
      have hinside := wordCount_go_true_le ds
      show wordCount.go true ds ≤ 0 + wordCount.go false ds
      omega
  | false, [], ds => by
      show wordCount.go false ds ≤ 0 + wordCount.go false ds
      omega
  | inside, c :: cs, ds => by
      rw [List.cons_append, wordCount_go_cons, wordCount_go_cons]
      split
      · exact wordCount_go_append_le false cs ds
      · have hrest := wordCount_go_append_le true cs ds
        omega

theorem words_append_le (a b : String) : words (a ++ b) ≤ words a + words b := by
  unfold words
  rw [String.toList_append]
  exact wordCount_go_append_le false a.toList b.toList

/-! ## §4. Trimming. -/

theorem trimStart_cons {c : Char} (hc : isBlank c = false) (cs : List Char) :
    trimStart (c :: cs) = c :: cs :=
  List.dropWhile_cons_of_neg (by rw [hc]; exact Bool.false_ne_true)

/-- **Trimming the end stops at a character that is not blank.** -/
theorem trimEnd_append_cons {c : Char} (hc : isBlank c = false) (as bs : List Char) :
    trimEnd (as ++ c :: bs) = as ++ c :: trimEnd bs := by
  unfold trimEnd
  have hstop : (c :: as.reverse).dropWhile isBlank = c :: as.reverse := trimStart_cons hc as.reverse
  have hdrop : (bs.reverse ++ c :: as.reverse).dropWhile isBlank
      = bs.reverse.dropWhile isBlank ++ c :: as.reverse := by
    rw [List.dropWhile_append, hstop]
    cases bs.reverse.dropWhile isBlank <;> rfl
  have hreverse : (as ++ c :: bs).reverse = bs.reverse ++ c :: as.reverse := by
    rw [List.reverse_append, List.reverse_cons, List.append_assoc]
    rfl
  rw [hreverse, hdrop, List.reverse_append, List.reverse_cons, List.reverse_reverse,
    List.append_assoc]
  rfl

theorem mem_of_mem_trimRight {s : String} {c : Char} (h : c ∈ (trimRight s).toList) :
    c ∈ s.toList := by
  unfold trimRight trimEnd at h
  rw [String.toList_ofList, List.mem_reverse] at h
  exact List.mem_reverse.mp ((List.dropWhile_sublist isBlank).subset h)

/-- A character in front of a text changes nothing behind it. -/
theorem drop_one_trimEnd_cons (c : Char) (cs : List Char) :
    (trimEnd (c :: cs)).drop 1 = trimEnd cs := by
  unfold trimEnd
  rw [List.reverse_cons, List.dropWhile_append]
  cases hrest : cs.reverse.dropWhile isBlank with
  | nil =>
    show (([c].dropWhile isBlank).reverse).drop 1 = []
    cases hc : isBlank c with
    | true => rw [List.dropWhile_cons_of_pos hc]; rfl
    | false => rw [List.dropWhile_cons_of_neg (by rw [hc]; exact Bool.false_ne_true)]; rfl
  | cons d ds =>
    show ((d :: ds ++ [c]).reverse).drop 1 = (d :: ds).reverse
    rw [List.reverse_append]
    rfl

end Breadcrumb.Text
