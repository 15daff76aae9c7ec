/-
  Breadcrumb.Proofs.Report.Sizes
  ──────────────────────────────
  **A REPORT IS OF ALL CHUNKS OR OF NONE.**

  Both reports say something of every chunk in turn (`records_eq_mapM`,
  `blocks_eq_mapM`) and for that count the chunk's whole text, which nobody has
  counted before.  Where every text has a size, both name all chunks in the order of
  their files; where one has none, there is no report at all, and the failure is that
  of the first such chunk (`reportText_of_sized`, `reportText_of_unsized`).  Nor is
  there a report in JSON if a number in it has too many digits
  (`reportText_of_unwritable`), that is, if it is not below a certain power of ten
  (`Decimal.short_iff`).
-/
import Mathlib
import Breadcrumb.CommandLine.Session

namespace Breadcrumb.Text.Decimal

/-! ## §1. Numbers that can be written. -/

/-- A number has so many digits just if it is below that power of ten. -/
theorem length_digits_le_iff {n k : Nat} : (digits n).length ≤ k + 1 ↔ n < 10 ^ (k + 1) := by
  induction k generalizing n with
  | zero =>
    rw [digits]
    split
    · rename_i hlow
      simpa using hlow
    · rename_i hhigh
      obtain ⟨d, ds, hds, -⟩ := digits_eq_cons (show 0 < n / 10 by omega)
      simp only [hds, List.length_append, List.length_cons]
      omega
  | succ k ih =>
    rw [digits]
    split
    · rename_i hlow
      have hpower : 0 < 10 ^ (k + 1) := Nat.pow_pos (by decide)
      have hbound : n < 10 ^ (k + 1 + 1) := by
        rw [Nat.pow_succ]
        omega
      simp [hbound]
    · -- The last digit is taken off, and a ten is taken off the power.
      have hlast : n < 10 ^ (k + 1 + 1) ↔ n / 10 < 10 ^ (k + 1) := by
        rw [Nat.pow_succ, Nat.div_lt_iff_lt_mul (by decide)]
      rw [hlast, ← ih]
      simp

/-- The integers that can be written are those below a power of ten, whatever their sign. -/
theorem short_iff (n : Int) : Short n ↔ n.natAbs < 10 ^ digitLimit := by
  have hlimit : digitLimit = 4299 + 1 := rfl
  unfold Short
  rw [hlimit]
  exact length_digits_le_iff

theorem short_of_lt {n : Int} {k : Nat} (hk : k ≤ digitLimit) (h : n.natAbs < 10 ^ k) : Short n :=
  (short_iff n).mpr (Nat.lt_of_lt_of_le h (Nat.pow_le_pow_right (by decide) hk))

end Breadcrumb.Text.Decimal

namespace Breadcrumb.Report

open Breadcrumb.CommandLine Breadcrumb.Packing Breadcrumb.Text Breadcrumb.Tokens

/-! ## §2. What is said of one chunk. -/

/-- The chunks of files in order, each with the path of its file. -/
def placed (files : List FileChunks) : List (Path × Chunk) :=
  files.flatMap fun f => f.chunks.map fun c => (f.path, c)

/-- The text of the chunk can be counted. -/
def Sized (count : Tokenizer) (x : Path × Chunk) : Prop := ∃ n, count x.2.content = .ok n

/-- The tokens of a text; nothing where it cannot be counted. -/
def size (count : Tokenizer) (s : String) : Int :=
  match count s with
  | .ok n => n
  | .error _ => 0

theorem size_of_ok {count : Tokenizer} {s : String} {n : Int} (h : count s = .ok n) :
    size count s = n := by
  unfold size
  rw [h]

/-- The record of a chunk of so many tokens. -/
def recordOf (path : Path) (c : Chunk) (n : Int) : Record :=
  ⟨path.text, c.startLine, c.endLine, n, c.content⟩

/-- The numbers of the record can be written. -/
def Record.Writable (r : Record) : Prop :=
  Decimal.Short r.startLine ∧ Decimal.Short r.endLine ∧ Decimal.Short r.tokens

/-- The numbers that the report gives of a chunk can be written, about which only JSON is
particular. -/
def Writable (count : Tokenizer) (json : Bool) (c : Chunk) : Prop :=
  json = true → Decimal.Short c.startLine ∧ Decimal.Short c.endLine
    ∧ Decimal.Short (size count c.content)

/-- The block of a chunk of so many tokens. -/
def blockOf (styled : Bool) (path : Path) (c : Chunk) (n : Int) : String :=
  heading styled path c n ++ "\n" ++ c.content

section Every

variable {α : Type} (count : Tokenizer) (say : Path → Chunk → Int → α)

/-- What is said of a chunk once it is counted. -/
def said (x : Path × Chunk) : Except Failure α := (count x.2.content).map (say x.1 x.2)

variable {count say}

theorem said_of_ok {x : Path × Chunk} {n : Int} (h : count x.2.content = .ok n) :
    said count say x = .ok (say x.1 x.2 n) := by
  unfold said
  rw [h]
  rfl

theorem said_of_error {x : Path × Chunk} {f : Failure} (h : count x.2.content = .error f) :
    said count say x = .error f := by
  unfold said
  rw [h]
  rfl

/-! ## §3. What is said of all chunks. -/

/-- Where all chunks have sizes, something is said of each. -/
theorem mapM_said_of_sized {xs : List (Path × Chunk)} (h : ∀ x ∈ xs, Sized count x) :
    xs.mapM (said count say) = .ok (xs.map fun x => say x.1 x.2 (size count x.2.content)) := by
  induction xs with
  | nil => rfl
  | cons x xs ih =>
    obtain ⟨n, hn⟩ := h x List.mem_cons_self
    have hrest := ih fun y hy => h y (List.mem_cons_of_mem _ hy)
    rw [List.mapM_cons, said_of_ok hn, hrest, List.map_cons, size_of_ok hn]
    rfl

/-- The first chunk without a size is where it ends. -/
theorem mapM_said_of_unsized {before after : List (Path × Chunk)} {x : Path × Chunk} {f : Failure}
    (hbefore : ∀ y ∈ before, Sized count y) (hx : count x.2.content = .error f) :
    (before ++ x :: after).mapM (said count say) = .error f := by
  rw [List.mapM_append, mapM_said_of_sized hbefore, List.mapM_cons, said_of_error hx]
  rfl

end Every

/-- Either all chunks have sizes or there is a first one that has none. -/
theorem sized_or_unsized (count : Tokenizer) (xs : List (Path × Chunk)) :
    (∀ x ∈ xs, Sized count x)
    ∨ ∃ before x after f, xs = before ++ x :: after ∧ (∀ y ∈ before, Sized count y)
      ∧ count x.2.content = .error f := by
  induction xs with
  | nil => exact .inl fun x hx => absurd hx List.not_mem_nil
  | cons x xs ih =>
    cases hx : count x.2.content with
    | error f =>
      exact .inr ⟨[], x, xs, f, rfl, fun y hy => absurd hy List.not_mem_nil, hx⟩
    | ok n =>
      have hsized : ∀ {ys : List (Path × Chunk)}, (∀ y ∈ ys, Sized count y) →
          ∀ y ∈ x :: ys, Sized count y := by
        intro ys hys y hy
        rcases List.mem_cons.mp hy with rfl | hy
        · exact ⟨n, hx⟩
        · exact hys y hy
      rcases ih with hall | ⟨before, y, after, f, rfl, hbefore, hy⟩
      · exact .inl (hsized hall)
      · exact .inr ⟨x :: before, y, after, f, rfl, hsized hbefore, hy⟩

/-! ## §4. The two reports. -/

variable {count : Tokenizer}

theorem placed_cons (f : FileChunks) (files : List FileChunks) :
    placed (f :: files) = (f.chunks.map fun c => (f.path, c)) ++ placed files :=
  List.flatMap_cons

theorem mem_placed {files : List FileChunks} {x : Path × Chunk} :
    x ∈ placed files ↔ ∃ f ∈ files, x.1 = f.path ∧ x.2 ∈ f.chunks := by
  obtain ⟨path, c⟩ := x
  simp only [placed, List.mem_flatMap, List.mem_map, Prod.mk.injEq]
  constructor
  · rintro ⟨f, hf, c', hc, rfl, rfl⟩
    exact ⟨f, hf, rfl, hc⟩
  · rintro ⟨f, hf, rfl, hc⟩
    exact ⟨f, hf, c, hc, rfl, rfl⟩

/-- The records of one file. -/
theorem fileRecords_eq_mapM (path : Path) (cs : List Chunk) :
    fileRecords count path cs = (cs.map fun c => (path, c)).mapM (said count recordOf) := by
  induction cs with
  | nil => rfl
  | cons c cs ih =>
    rw [fileRecords, ih, List.map_cons, List.mapM_cons]
    rfl

/-- The records of all files say something of every chunk in turn. -/
theorem records_eq_mapM (files : List FileChunks) :
    records count files = (placed files).mapM (said count recordOf) := by
  induction files with
  | nil => rfl
  | cons f files ih => rw [records, ih, fileRecords_eq_mapM, placed_cons, List.mapM_append]

/-- A block is the line above a chunk and the chunk. -/
theorem map_header (styled : Bool) (path : Path) (c : Chunk) :
    ((header count styled path c).map fun h => h ++ "\n" ++ c.content)
      = said count (blockOf styled) (path, c) := by
  unfold header said
  cases count c.content with
  | error f => rfl
  | ok n => rfl

/-- And so do the blocks of the listing. -/
theorem blocks_eq_mapM (styled : Bool) (files : List FileChunks) :
    blocks count styled files = (placed files).mapM (said count (blockOf styled)) := by
  unfold blocks
  induction files with
  | nil => rfl
  | cons f files ih =>
    rw [List.foldr_cons, ih, placed_cons, List.mapM_append, List.mapM_map]
    simp only [map_header]
    rfl

/-- The numbers in the JSON of records are those of the records. -/
theorem numbers_records (rs : List Record) :
    (Json.list (rs.map Record.json)).numbers
      = rs.flatMap fun r => [r.startLine, r.endLine, r.tokens] := by
  rw [Json.numbers]
  induction rs with
  | nil => rfl
  | cons r rs ih =>
    rw [List.map_cons, Json.itemNumbers, ih, List.flatMap_cons]
    rfl

theorem forall_short_iff {rs : List Record} :
    (∀ n ∈ (Json.list (rs.map Record.json)).numbers, Decimal.Short n) ↔ ∀ r ∈ rs, r.Writable := by
  rw [numbers_records, List.forall_mem_flatMap]
  simp [Record.Writable]

/-- Records have a text if all their numbers can be written, -/
theorem recordsText?_of_writable {rs : List Record} (h : ∀ r ∈ rs, r.Writable) :
    recordsText? rs = some (Json.pretty (.list (rs.map Record.json))) := by
  unfold recordsText? Json.pretty?
  rw [if_pos (forall_short_iff.mpr h)]

/-- and none if one of them cannot. -/
theorem recordsText?_of_unwritable {rs : List Record} {r : Record} (hr : r ∈ rs)
    (h : ¬ r.Writable) : recordsText? rs = none := by
  unfold recordsText? Json.pretty?
  rw [if_neg fun hall => h (forall_short_iff.mp hall r hr)]

theorem jsonText_of_records {files : List FileChunks} {rs : List Record} {text : String}
    (hrecords : records count files = .ok rs) (htext : recordsText? rs = some text) :
    jsonText count files = .ok text := by
  unfold jsonText
  rw [hrecords]
  simp only [bind, Except.bind, htext]
  rfl

theorem jsonText_of_no_text {files : List FileChunks} {rs : List Record}
    (hrecords : records count files = .ok rs) (htext : recordsText? rs = none) :
    jsonText count files = .error (.badValue Decimal.tooLong) := by
  unfold jsonText
  rw [hrecords]
  simp only [bind, Except.bind, htext]
  rfl

theorem records_of_sized {files : List FileChunks} (h : ∀ x ∈ placed files, Sized count x) :
    records count files
      = .ok ((placed files).map fun x => recordOf x.1 x.2 (size count x.2.content)) := by
  rw [records_eq_mapM, mapM_said_of_sized h]

/-- What is printed of chunks that have sizes. -/
def printed (count : Tokenizer) (json : Bool) (xs : List (Path × Chunk)) : String :=
  if json then
    Json.pretty (.list (xs.map fun x => (recordOf x.1 x.2 (size count x.2.content)).json)) ++ "\n"
  else
    let text := join "\n" (xs.map fun x => blockOf true x.1 x.2 (size count x.2.content))
    if text = "" then "" else text ++ "\n"

/-- **Where every chunk has a size, all of them are reported**, in the order of their files. -/
theorem reportText_of_sized {files : List FileChunks} (json : Bool)
    (h : ∀ x ∈ placed files, Sized count x)
    (hwritable : ∀ x ∈ placed files, Writable count json x.2) :
    reportText count json files = .ok (printed count json (placed files)) := by
  cases json with
  | true =>
    have hall : ∀ r ∈ (placed files).map fun x => recordOf x.1 x.2 (size count x.2.content),
        r.Writable := List.forall_mem_map.mpr fun x hx => hwritable x hx rfl
    rw [reportText, if_pos rfl,
      jsonText_of_records (records_of_sized h) (recordsText?_of_writable hall), printed, if_pos rfl,
      List.map_map]
    rfl
  | false =>
    rw [reportText, if_neg Bool.false_ne_true, listing, blocks_eq_mapM, mapM_said_of_sized h,
      printed, if_neg Bool.false_ne_true]
    rfl

/-- **One number of too many digits is enough for there to be no report in JSON.** -/
theorem reportText_of_unwritable {files : List FileChunks} {json : Bool} {x : Path × Chunk}
    (h : ∀ x ∈ placed files, Sized count x) (hx : x ∈ placed files)
    (hunwritable : ¬ Writable count json x.2) :
    reportText count json files = .error (.badValue Decimal.tooLong) := by
  obtain ⟨rfl, hlong⟩ := Classical.not_imp.mp hunwritable
  have hrecord : recordOf x.1 x.2 (size count x.2.content)
      ∈ (placed files).map fun x => recordOf x.1 x.2 (size count x.2.content) :=
    List.mem_map.mpr ⟨x, hx, rfl⟩
  rw [reportText, if_pos rfl,
    jsonText_of_no_text (records_of_sized h) (recordsText?_of_unwritable hrecord hlong)]
  rfl

/-- **One chunk without a size is enough for there to be no report.** -/
theorem reportText_of_unsized {files : List FileChunks} (json : Bool)
    {before after : List (Path × Chunk)} {x : Path × Chunk} {f : Failure}
    (hplaced : placed files = before ++ x :: after) (hbefore : ∀ y ∈ before, Sized count y)
    (hx : count x.2.content = .error f) : reportText count json files = .error f := by
  cases json with
  | true =>
    rw [reportText, if_pos rfl, jsonText, records_eq_mapM, hplaced,
      mapM_said_of_unsized hbefore hx]
    rfl
  | false =>
    rw [reportText, if_neg Bool.false_ne_true, listing, blocks_eq_mapM, hplaced,
      mapM_said_of_unsized hbefore hx]
    rfl

/-- Either all chunks can be reported, or there is no report and one of them is the reason. -/
theorem printable_or_broken (count : Tokenizer) (json : Bool) (files : List FileChunks) :
    ((∀ x ∈ placed files, Sized count x) ∧ ∀ x ∈ placed files, Writable count json x.2)
    ∨ ∃ f, reportText count json files = .error f
      ∧ ∃ x ∈ placed files, (∃ g, count x.2.content = .error g) ∨ ¬ Writable count json x.2 := by
  rcases sized_or_unsized count (placed files) with
    hsized | ⟨before, x, after, f, hplaced, hbefore, hx⟩
  · by_cases hwritable : ∀ x ∈ placed files, Writable count json x.2
    · exact .inl ⟨hsized, hwritable⟩
    · obtain ⟨x, hx, hlong⟩ : ∃ x ∈ placed files, ¬ Writable count json x.2 := by
        simpa only [not_forall, exists_prop] using hwritable
      exact .inr ⟨_, reportText_of_unwritable hsized hx hlong, x, hx, .inr hlong⟩
  · have hmem : x ∈ placed files := by
      rw [hplaced]
      exact List.mem_append_right _ List.mem_cons_self
    exact .inr ⟨f, reportText_of_unsized json hplaced hbefore hx, x, hmem, .inl ⟨f, hx⟩⟩

end Breadcrumb.Report
