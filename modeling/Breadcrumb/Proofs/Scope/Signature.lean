/-
  Breadcrumb.Proofs.Scope.Signature
  ─────────────────────────────────
  **HOW A SIGNATURE READS IN A BREADCRUMB.**

  A signature is cut out of the octets of a file, and read with replacement.  Where
  it begins and ends between two characters, what is read is the text that stands
  there, whatever the widths of its characters (`signature_eq_text`).

  Written as a comment, every line of it stands under the mark, and the whole is
  trimmed.  Under a mark without a blank at either end (`Solid`) that takes away
  nothing but the blanks behind the last line:

      the first character of the whole is the first of the mark
      the last line holds the last character of the mark, so that trimming stops
      in that line, or right behind its mark

  So a comment has a line for each line of the signature and shows all of it up to
  those blanks (`Shows`), and a breadcrumb shows the comments of its declarations
  line by line (`Legible`).
-/
import Mathlib
import Breadcrumb.Language.Marker
import Breadcrumb.Proofs.Scope.Walk
import Breadcrumb.Proofs.Text.Newlines
import Breadcrumb.Proofs.Text.Pieces

namespace Breadcrumb.Scope

open Breadcrumb.Text

variable {s : Scope} {marker text : String}

/-! ## §1. What is cut out of a text. -/

/-- An offset into the octets of a text lies between two characters, with so many of them in front
of it. -/
structure Boundary (cs : List Char) (position offset : Nat) : Prop where
  position_le : position ≤ cs.length
  offset_eq : offset = (Utf8.encode (cs.take position)).length

/-- **Between characters, the octets of a text are cut as its characters are.** -/
theorem slice_encode {cs : List Char} {i j first last : Nat} (hfirst : Boundary cs i first)
    (hlast : Boundary cs j last) :
    slice (Utf8.encode cs) first last = Utf8.encode ((cs.take j).drop i) := by
  obtain ⟨-, rfl⟩ := hfirst
  obtain ⟨-, rfl⟩ := hlast
  unfold slice
  by_cases hle : i ≤ j
  · -- In front of the cut are `i` characters, and behind it all from the `j`th on.
    have hfront : cs.take j = cs.take i ++ (cs.take j).drop i := by
      conv_lhs => rw [← List.take_append_drop i (cs.take j)]
      rw [List.take_take, Nat.min_eq_left hle]
    have hwhole : Utf8.encode cs = Utf8.encode (cs.take i)
        ++ (Utf8.encode ((cs.take j).drop i) ++ Utf8.encode (cs.drop j)) := by
      rw [← Utf8.encode_append, ← Utf8.encode_append, ← List.append_assoc, ← hfront,
        List.take_append_drop]
    have hlength : (Utf8.encode (cs.take j)).length
        = (Utf8.encode (cs.take i)).length + (Utf8.encode ((cs.take j).drop i)).length := by
      conv_lhs => rw [hfront]
      rw [Utf8.encode_append, List.length_append]
    rw [hwhole, List.drop_left, hlength, Nat.add_sub_cancel_left, List.take_left]
  · -- The places are reversed, and nothing is cut out.
    have hfront : cs.take i = cs.take j ++ (cs.take i).drop j := by
      conv_lhs => rw [← List.take_append_drop j (cs.take i)]
      rw [List.take_take, Nat.min_eq_left (by omega)]
    have hlength : (Utf8.encode (cs.take j)).length ≤ (Utf8.encode (cs.take i)).length := by
      rw [hfront, Utf8.encode_append, List.length_append]
      exact Nat.le_add_right _ _
    have hnone : (cs.take j).drop i = [] := by
      apply List.drop_eq_nil_of_le
      rw [List.length_take]
      omega
    rw [hnone, Nat.sub_eq_zero_of_le hlength, List.take_zero]
    rfl

/-- **THE EXCERPT THEOREM.**  Of the octets of any text, a signature that begins and ends between
two characters is the text from the one place to the other, and its header shows that as a comment:
no character is replaced, cut or lost. -/
theorem signature_eq_text (contents marker : String) (n : Node) {i j : Nat}
    (hstart : Boundary contents.toList i n.span.startByte)
    (hend : Boundary contents.toList j (headerEnd n).1) :
    (⟨Utf8.encodeString contents, marker⟩ : Scope).signature n
        = String.ofList ((contents.toList.take j).drop i)
      ∧ (⟨Utf8.encodeString contents, marker⟩ : Scope).header n
        = comment marker (String.ofList ((contents.toList.take j).drop i)) := by
  have hsignature : (⟨Utf8.encodeString contents, marker⟩ : Scope).signature n
      = String.ofList ((contents.toList.take j).drop i) := by
    show String.ofList (Utf8.decode (slice (Utf8.encode contents.toList) _ _)) = _
    rw [slice_encode hstart hend, Utf8.decode_encode]
  refine ⟨hsignature, ?_⟩
  unfold header
  rw [hsignature]

namespace Foreign

/-- A function whose signature has characters of all widths, and stands behind others. -/
def contents : String := "# Größe\ndef café(x, 漢, 𝄞):\n    return x"

def function : Node :=
  .node "function_definition" ⟨10, 47, 1, 2⟩ [.node "block" ⟨39, 47, 2, 2⟩ []]

def tree : Node := .node "module" ⟨0, 47, 0, 2⟩ [function]

def scope : Scope := ⟨Utf8.encodeString contents, "#"⟩

theorem boundary_start : Boundary contents.toList 8 10 := ⟨by decide, by decide⟩

theorem boundary_end : Boundary contents.toList 31 39 := ⟨by decide, by decide⟩

theorem excerpt_eq :
    String.ofList ((contents.toList.take 31).drop 8) = "def café(x, 漢, 𝄞):\n    " := by
  decide

end Foreign

/-- The sample: its signature is the text from the eighth character up to the thirty-first. -/
theorem foreign_signature_eq :
    Boundary Foreign.contents.toList 8 Foreign.function.span.startByte
      ∧ Boundary Foreign.contents.toList 31 (headerEnd Foreign.function).1
      ∧ Foreign.scope.signature Foreign.function = "def café(x, 漢, 𝄞):\n    "
      ∧ Foreign.scope.header Foreign.function = comment "#" "def café(x, 漢, 𝄞):\n    " := by
  have htext := signature_eq_text Foreign.contents "#" Foreign.function Foreign.boundary_start
    Foreign.boundary_end
  rw [Foreign.excerpt_eq] at htext
  exact ⟨Foreign.boundary_start, Foreign.boundary_end, htext⟩

/-! ## §2. A comment. -/

/-- A mark on one line, with no blank at either end. -/
structure Solid (marker : String) : Prop where
  one_line : '\n' ∉ marker.toList
  front : marker.toList.head?.any (fun c => !isBlank c) = true
  back : marker.toList.getLast?.any (fun c => !isBlank c) = true

instance (marker : String) : Decidable (Solid marker) :=
  decidable_of_iff ('\n' ∉ marker.toList ∧ marker.toList.head?.any (fun c => !isBlank c) = true
      ∧ marker.toList.getLast?.any (fun c => !isBlank c) = true)
    ⟨fun ⟨hline, hfront, hback⟩ => ⟨hline, hfront, hback⟩, fun h => ⟨h.one_line, h.front, h.back⟩⟩

theorem Solid.exists_front (h : Solid marker) :
    ∃ c rest, marker.toList = c :: rest ∧ isBlank c = false := by
  have hfront := h.front
  cases hmarker : marker.toList with
  | nil =>
    rw [hmarker] at hfront
    cases hfront
  | cons c rest =>
    rw [hmarker, List.head?_cons, Option.any_some, Bool.not_eq_true'] at hfront
    exact ⟨c, rest, rfl, hfront⟩

theorem Solid.exists_back (h : Solid marker) :
    ∃ front c, marker.toList = front ++ [c] ∧ isBlank c = false := by
  have hback := h.back
  rcases List.eq_nil_or_concat marker.toList with hmarker | ⟨front, c, hmarker⟩
  · rw [hmarker] at hback
    cases hback
  · rw [List.concat_eq_append] at hmarker
    rw [hmarker, List.getLast?_concat, Option.any_some, Bool.not_eq_true'] at hback
    exact ⟨front, c, hmarker, hback⟩

/-- All marks of the table are solid, and so is the mark where it has none. -/
theorem solid_markerFor (extension : String) : Solid (Language.markerFor extension) := by
  unfold Language.markerFor
  cases hfound : Language.markers.lookup (Path.extensionKey extension) with
  | none =>
    show Solid Language.defaultMarker
    decide
  | some marker =>
    have htable : ∀ e ∈ Language.markers, Solid e.2 := by decide
    obtain ⟨before, after, hmem, -⟩ := List.lookup_eq_some_iff.mp hfound
    exact htable _ (by rw [hmem]; exact List.mem_append_right _ List.mem_cons_self)

/-- Behind a solid mark, trimming the end is done with the text behind it. -/
theorem Solid.trimRight_append (h : Solid marker) (a b : String) :
    trimRight (a ++ marker ++ b) = a ++ marker ++ trimRight b := by
  obtain ⟨front, c, hmarker, hc⟩ := h.exists_back
  apply String.toList_injective
  unfold trimRight
  rw [String.toList_ofList, String.toList_append, String.toList_append, String.toList_append,
    String.toList_append, String.toList_ofList, hmarker, ← List.append_assoc,
    List.append_assoc (a.toList ++ front), List.append_assoc (a.toList ++ front)]
  exact trimEnd_append_cons hc (a.toList ++ front) b.toList

theorem Solid.trimRight_marker (h : Solid marker) (b : String) :
    trimRight (marker ++ b) = marker ++ trimRight b := by
  have htrim := h.trimRight_append "" b
  rw [String.empty_append] at htrim
  exact htrim

/-- In front of a text with a solid mark there is nothing to trim. -/
theorem Solid.trim_append (h : Solid marker) (b : String) :
    trim (marker ++ b) = trimRight (marker ++ b) := by
  obtain ⟨c, rest, hmarker, hc⟩ := h.exists_front
  unfold trim trimRight trimBoth
  rw [String.toList_append, hmarker, List.cons_append, trimStart_cons hc]

/-- Nor is there in the last of several parts, if the first of them and that one have the mark. -/
theorem Solid.trim_lines (h : Solid marker) (before : List String) (b : String) :
    trim (join "\n" (before.map (fun line => marker ++ " " ++ line) ++ [marker ++ b]))
      = join "\n"
          (before.map (fun line => marker ++ " " ++ line) ++ [trimRight (marker ++ b)]) := by
  have hfront : ∃ rest,
      join "\n" (before.map (fun line => marker ++ " " ++ line) ++ [marker ++ b])
        = marker ++ rest := by
    cases before with
    | nil => exact ⟨b, rfl⟩
    | cons line more =>
      obtain ⟨rest, hrest⟩ := exists_join_cons "\n" (marker ++ " " ++ line)
        (more.map (fun line => marker ++ " " ++ line) ++ [marker ++ b])
      refine ⟨" " ++ line ++ rest, ?_⟩
      rw [← String.append_assoc, ← String.append_assoc]
      exact hrest
  obtain ⟨rest, hrest⟩ := hfront
  rw [hrest, h.trim_append, ← hrest]
  -- What stands in front of the last mark stays as it is.
  obtain ⟨ahead, hjoin⟩ := exists_join_concat "\n" (before.map fun line => marker ++ " " ++ line)
  rw [hjoin, hjoin, h.trimRight_marker, ← String.append_assoc, ← String.append_assoc]
  exact h.trimRight_append ahead b

/-- **A comment is trimmed in its last line only.** -/
theorem lines_comment (h : Solid marker) {before : List String} {last : String}
    (hlines : lines text = before ++ [last]) :
    lines (comment marker text)
      = before.map (fun line => marker ++ " " ++ line) ++ [trimRight (marker ++ " " ++ last)] := by
  have hassoc : marker ++ " " ++ last = marker ++ (" " ++ last) := String.append_assoc
  have hcomment : comment marker text
      = join "\n" (before.map (fun line => marker ++ " " ++ line)
          ++ [trimRight (marker ++ " " ++ last)]) := by
    unfold comment
    rw [hlines, List.map_append, List.map_singleton, hassoc]
    exact h.trim_lines before (" " ++ last)
  -- A mark and a line of the text are one line.
  have hone : ∀ line ∈ lines text, '\n' ∉ (marker ++ " " ++ line).toList := by
    intro line hline hmem
    rw [String.toList_append, String.toList_append, List.mem_append, List.mem_append] at hmem
    rcases hmem with (hmarker | hspace) | htext
    · exact h.one_line hmarker
    · exact absurd hspace (by decide)
    · exact newline_not_mem_of_mem_lines hline htext
  rw [hlines] at hone
  rw [hcomment]
  apply lines_join_of_not_mem
  · exact List.append_ne_nil_of_right_ne_nil _ (List.cons_ne_nil _ _)
  · intro part hpart hmem
    rcases List.mem_append.mp hpart with hfront | hlast
    · obtain ⟨line, hline, rfl⟩ := List.mem_map.mp hfront
      exact hone line (List.mem_append_left _ hline) hmem
    · rw [List.mem_singleton.mp hlast] at hmem
      exact hone last (List.mem_append_right _ List.mem_cons_self) (mem_of_mem_trimRight hmem)

/-- A line of a comment without its mark and the space behind it. -/
def unmarked (marker line : String) : String :=
  String.ofList (line.toList.drop (marker.length + 1))

theorem toList_append_drop (marker rest : String) :
    (marker ++ rest).toList.drop (marker.length + 1) = rest.toList.drop 1 := by
  rw [String.toList_append, ← String.length_toList, ← List.drop_drop, List.drop_left]

theorem unmarked_line (marker line : String) : unmarked marker (marker ++ " " ++ line) = line := by
  unfold unmarked
  rw [String.append_assoc, toList_append_drop, String.toList_append]
  exact String.ofList_toList

/-- Trimming the end of a marked line trims the line, and the space if nothing else is left. -/
theorem Solid.unmarked_trimRight (h : Solid marker) (line : String) :
    unmarked marker (trimRight (marker ++ " " ++ line)) = trimRight line := by
  unfold unmarked
  rw [String.append_assoc, h.trimRight_marker, toList_append_drop]
  unfold trimRight
  rw [String.toList_ofList, String.toList_append]
  exact congrArg String.ofList (drop_one_trimEnd_cons ' ' line.toList)

/-- A comment shows a text line by line. -/
structure Shows (marker comment text : String) : Prop where
  length_eq : (lines comment).length = (lines text).length
  /-- Every line stands under the mark, the last one without the blanks at its end; without the
  marks, the text is read back but for those blanks. -/
  exists_lines : ∃ before last, lines text = before ++ [last]
    ∧ lines comment
      = before.map (fun line => marker ++ " " ++ line) ++ [trimRight (marker ++ " " ++ last)]
    ∧ (lines comment).map (unmarked marker) = before ++ [trimRight last]

/-- **Under a solid mark, a comment shows its text.** -/
theorem Solid.shows (h : Solid marker) (text : String) :
    Shows marker (comment marker text) text := by
  rcases List.eq_nil_or_concat (lines text) with hnone | ⟨before, last, hlines⟩
  · exact absurd hnone (lines_ne_nil text)
  · rw [List.concat_eq_append] at hlines
    have hcomment := lines_comment h hlines
    have hread : (before.map fun line => marker ++ " " ++ line).map (unmarked marker) = before := by
      rw [List.map_map]
      exact (List.map_congr_left fun line _ => unmarked_line marker line).trans (List.map_id before)
    refine ⟨?_, before, last, hlines, hcomment, ?_⟩
    · rw [hcomment, hlines, List.length_append, List.length_append, List.length_map]
      rfl
    · rw [hcomment, List.map_append, hread, List.map_singleton, h.unmarked_trimRight]

/-- Every line of a comment begins with its mark. -/
theorem Solid.marked (h : Solid marker) (text : String) :
    ∀ line ∈ lines (comment marker text), ∃ rest, line = marker ++ rest := by
  obtain ⟨-, before, last, -, hcomment, -⟩ := h.shows text
  rw [hcomment]
  intro line hline
  rcases List.mem_append.mp hline with hfront | hlast
  · obtain ⟨part, -, rfl⟩ := List.mem_map.mp hfront
    exact ⟨" " ++ part, String.append_assoc⟩
  · refine ⟨trimRight (" " ++ last), ?_⟩
    rw [List.mem_singleton.mp hlast, String.append_assoc, h.trimRight_marker]

/-! ## §3. The rows of a signature. -/

/-- A signature begins and ends in the rows where its octets do, the newlines in front of an octet
being counted. -/
structure RowsCounted (s : Scope) (n : Node) : Prop where
  ordered : n.span.startByte ≤ (headerEnd n).1
  start_eq : n.span.startRow = (s.source.take n.span.startByte).count 10
  end_eq : (headerEnd n).2 = (s.source.take (headerEnd n).1).count 10

theorem count_take_of_le {octets : List Utf8.Octet} {first last : Nat} (h : first ≤ last)
    (o : Utf8.Octet) :
    (octets.take last).count o
      = (octets.take first).count o + (slice octets first last).count o := by
  unfold slice
  rw [← List.count_append, ← List.take_add, Nat.add_sub_cancel' h]

/-- **A signature has a line for every row.** -/
theorem RowsCounted.length_eq {s : Scope} {n : Node} (h : RowsCounted s n) :
    ((lines (s.signature n)).length : Int) = (headerEnd n).2 - n.span.startRow + 1 := by
  have hcount : (lines (s.signature n)).length
      = (slice s.source n.span.startByte (headerEnd n).1).count 10 + 1 := by
    unfold signature Utf8.decodeString
    rw [length_lines, String.toList_ofList, Utf8.count_newline_decode]
  have hrows : (s.source.take (headerEnd n).1).count 10
      = (s.source.take n.span.startByte).count 10
        + (slice s.source n.span.startByte (headerEnd n).1).count 10 :=
    count_take_of_le h.ordered 10
  rw [← h.start_eq, ← h.end_eq] at hrows
  omega

/-! ## §4. A breadcrumb. -/

/-- A breadcrumb shows the signatures of its declarations: it is empty, or it is ended by a newline
and has the lines of their comments, in order, all of them under the mark. -/
structure Legible (s : Scope) (cs : List Capture) : Prop where
  shows : ∀ c ∈ cs, Shows s.marker c.header (s.signature c.node)
  nothing : cs = [] → breadcrumb cs = ""
  ended : cs ≠ [] → ∃ body, breadcrumb cs = body ++ "\n"
    ∧ lines body = cs.flatMap (fun c => lines c.header)
    ∧ ∀ line ∈ lines body, ∃ rest, line = s.marker ++ rest

theorem breadcrumb_of_ne_nil {cs : List Capture} (h : cs ≠ []) :
    breadcrumb cs = join "\n" (cs.map Capture.header) ++ "\n" := by
  cases cs with
  | nil => exact absurd rfl h
  | cons c cs => rfl

theorem legible_of_captures {s : Scope} (h : Solid s.marker) {cs : List Capture}
    (hcs : ∀ c ∈ cs, c.header = s.header c.node) : Legible s cs where
  shows := by
    intro c hc
    rw [hcs c hc]
    exact h.shows (s.signature c.node)
  nothing := by
    intro hnone
    rw [hnone]
    rfl
  ended := by
    intro hsome
    have hlines : lines (join "\n" (cs.map Capture.header))
        = cs.flatMap fun c => lines c.header := by
      rw [lines_join (fun hnone => hsome (List.map_eq_nil_iff.mp hnone)), List.flatMap_map]
    refine ⟨_, breadcrumb_of_ne_nil hsome, hlines, ?_⟩
    rw [hlines]
    intro line hline
    obtain ⟨c, hc, hline⟩ := List.mem_flatMap.mp hline
    rw [hcs c hc] at hline
    exact h.marked (s.signature c.node) line hline

/-- **THE LEGIBILITY THEOREM.**  All marks of the table are solid; under a solid mark, whatever the
octets of the file and the tree, a header shows its signature line by line, and has a line for every
row if the rows count newlines; and what is collected for any row from any cursor makes a breadcrumb
that is empty or shows those headers line by line. -/
theorem breadcrumb_legible :
    (∀ extension, Solid (Language.markerFor extension))
      ∧ ∀ s : Scope, Solid s.marker →
          (∀ n, Shows s.marker (s.header n) (s.signature n)
            ∧ (RowsCounted s n →
              ((lines (s.header n)).length : Int) = (headerEnd n).2 - n.span.startRow + 1))
          ∧ ∀ root row cursor, Legible s (s.collect root row cursor).1 := by
  refine ⟨solid_markerFor, ?_⟩
  intro s hsolid
  constructor
  · intro n
    have hshows : Shows s.marker (s.header n) (s.signature n) := hsolid.shows (s.signature n)
    refine ⟨hshows, ?_⟩
    intro hrows
    rw [hshows.length_eq]
    exact hrows.length_eq
  · intro root row cursor
    apply legible_of_captures hsolid
    intro c hc
    have hheader := congrArg Capture.header (capture_of_mem_collect hc)
    exact hheader

/-- The sample: its signature has two lines, and nothing but a mark is left of the second. -/
theorem foreign_legible :
    Solid Foreign.scope.marker ∧ RowsCounted Foreign.scope Foreign.function
      ∧ Shows "#" (Foreign.scope.header Foreign.function)
          (Foreign.scope.signature Foreign.function)
      ∧ lines (Foreign.scope.header Foreign.function) = ["# def café(x, 漢, 𝄞):", "#"]
      ∧ ((lines (Foreign.scope.header Foreign.function)).length : Int) = 2 - 1 + 1
      ∧ Legible Foreign.scope (Foreign.scope.collect Foreign.tree 2 (-1)).1 := by
  have hsolid : Solid Foreign.scope.marker := by decide
  have hrows : RowsCounted Foreign.scope Foreign.function := ⟨by decide, by decide, by decide⟩
  obtain ⟨hheaders, hbreadcrumbs⟩ := breadcrumb_legible.2 Foreign.scope hsolid
  exact ⟨hsolid, hrows, (hheaders Foreign.function).1, by decide,
    (hheaders Foreign.function).2 hrows, hbreadcrumbs Foreign.tree 2 (-1)⟩

end Breadcrumb.Scope
