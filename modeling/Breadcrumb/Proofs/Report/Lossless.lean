/-
  Breadcrumb.Proofs.Report.Lossless
  ─────────────────────────────────
  **A JSON REPORT LOSES NOTHING.**

  The report has a record for every chunk, in the order of the files and of the
  chunks in them (`forall₂_records`).  Its text is JSON and is read back as these
  records, so that no other records have this text, and it is ASCII whatever the
  chunks are made of.  There is such a text just where no number in the records has
  too many digits (`jsonText_lossless`); neither that nor the escape for the last
  character of ASCII can be left out (`exists_report_otherwise`).
-/
import Mathlib
import Breadcrumb.Proofs.Json.Written
import Breadcrumb.Proofs.Report.Sizes

namespace Breadcrumb.Report

open Breadcrumb.Packing Breadcrumb.Text Breadcrumb.Tokens

variable {count : Tokenizer}

/-! ## §1. Records. -/

/-- What a record says of a chunk is true. -/
structure Describes (count : Tokenizer) (x : Path × Chunk) (r : Record) : Prop where
  path : r.path = x.1.text
  startLine : r.startLine = x.2.startLine
  endLine : r.endLine = x.2.endLine
  tokens : count x.2.content = .ok r.tokens
  content : r.content = x.2.content

theorem describes_recordOf {x : Path × Chunk} (h : Sized count x) :
    Describes count x (recordOf x.1 x.2 (size count x.2.content)) where
  path := rfl
  startLine := rfl
  endLine := rfl
  tokens := by
    obtain ⟨n, hn⟩ := h
    rw [recordOf, size_of_ok hn]
    exact hn
  content := rfl

/-- **Where all chunks have sizes, there is one record for each**, in their order. -/
theorem forall₂_records {files : List FileChunks} (h : ∀ x ∈ placed files, Sized count x) :
    ∃ rs, records count files = .ok rs ∧ List.Forall₂ (Describes count) (placed files) rs := by
  refine ⟨_, records_of_sized h, ?_⟩
  rw [List.forall₂_map_right_iff, List.forall₂_same]
  exact fun x hx => describes_recordOf (h x hx)

/-- Every field of a record is in its JSON. -/
theorem json_injective : Function.Injective Record.json := by
  intro r r' h
  obtain ⟨path, startLine, endLine, tokens, content⟩ := r
  obtain ⟨path', startLine', endLine', tokens', content'⟩ := r'
  simp only [Record.json, Json.object.injEq, List.cons.injEq, Prod.mk.injEq, Json.text.injEq,
    Json.number.injEq, true_and, and_true] at h
  obtain ⟨rfl, rfl, rfl, rfl, rfl⟩ := h
  rfl

/-! ## §2. The text. -/

section Text

variable {rs : List Record} {text : String} (htext : recordsText? rs = some text)

include htext

theorem parse_of_recordsText? : Json.parse text = some (.list (rs.map Record.json)) := by
  rw [Json.eq_pretty_of_pretty? htext]
  exact Json.parse_pretty _

theorem eq_of_recordsText? {rs' : List Record} (htext' : recordsText? rs' = some text) :
    rs' = rs := by
  have hlist := Json.list.inj (Json.eq_of_pretty? htext' htext)
  exact List.map_injective_iff.mpr json_injective hlist

theorem ascii_of_recordsText? : Json.Ascii text.toList := by
  rw [Json.eq_pretty_of_pretty? htext, Json.pretty, String.toList_ofList]
  exact Json.ascii_print 0 _

end Text

theorem exists_recordsText? {rs : List Record} (h : ∀ r ∈ rs, r.Writable) :
    ∃ text, recordsText? rs = some text :=
  ⟨_, recordsText?_of_writable h⟩

/-- **THE REPORT THEOREM.**  With a tokenizer that never fails, every list of files has records,
which describe the chunks of the files one by one, in the order of the files and of the chunks in
them.  If none of their numbers has too many digits, there is a report: its text is read as exactly
these records, no other records have this text, and the text is ASCII without the last character of
it, whatever the chunks hold.  If one has, there is no report. -/
theorem jsonText_lossless (hcount : ∀ s, ∃ n, count s = .ok n) (files : List FileChunks) :
    ∃ rs, records count files = .ok rs
      ∧ List.Forall₂ (Describes count) (placed files) rs
      ∧ ((∀ r ∈ rs, r.Writable) → ∃ text, jsonText count files = .ok text
          ∧ Json.parse text = some (.list (rs.map Record.json))
          ∧ (∀ rs', recordsText? rs' = some text → rs' = rs)
          ∧ ∀ c ∈ text.toList, c.toNat < 0x7F)
      ∧ ((∃ r ∈ rs, ¬ r.Writable) →
          jsonText count files = .error (.badValue Decimal.tooLong)) := by
  have hsized : ∀ x ∈ placed files, Sized count x := fun x _ => hcount x.2.content
  obtain ⟨rs, hrecords, hdescribes⟩ := forall₂_records hsized
  refine ⟨rs, hrecords, hdescribes, ?_, ?_⟩
  · intro hwritable
    obtain ⟨text, htext⟩ := exists_recordsText? hwritable
    exact ⟨text, jsonText_of_records hrecords htext, parse_of_recordsText? htext,
      fun rs' => eq_of_recordsText? htext, ascii_of_recordsText? htext⟩
  · rintro ⟨r, hr, hlong⟩
    exact jsonText_of_no_text hrecords (recordsText?_of_unwritable hr hlong)

namespace Sample

/-- A tokenizer that counts characters. -/
def characters : Tokenizer := ({ measure := .chars 1 } : Meter).count

/-- A file whose chunks hold a mark, a tab, control characters and a character beyond the basic
plane, and a file without chunks. -/
def files : List FileChunks :=
  [⟨⟨0, ["src", "ä.py"]⟩, [⟨"s = \"\\\"\n\t\x1f\x7f", 1, 2⟩, ⟨"😀\n", 3, 3⟩]⟩, ⟨⟨0, ["b.py"]⟩, []⟩]

/-- What is reported of them. -/
def reported : List Record :=
  [⟨"src/ä.py", 1, 2, 11, "s = \"\\\"\n\t\x1f\x7f"⟩, ⟨"src/ä.py", 3, 3, 2, "😀\n"⟩]

theorem characters_total : ∀ s, ∃ n, characters s = .ok n := fun _ => ⟨_, rfl⟩

theorem records_eq : records characters files = .ok reported := by decide

/-- Numbers of two digits can be written. -/
theorem writable_of_lt {r : Record} (hstart : r.startLine.natAbs < 10 ^ 2)
    (hend : r.endLine.natAbs < 10 ^ 2) (htokens : r.tokens.natAbs < 10 ^ 2) : r.Writable := by
  have hlimit : 2 ≤ Decimal.digitLimit := by decide
  exact ⟨Decimal.short_of_lt hlimit hstart, Decimal.short_of_lt hlimit hend,
    Decimal.short_of_lt hlimit htokens⟩

theorem reported_writable : ∀ r ∈ reported, r.Writable := by
  intro r hr
  simp only [reported, List.mem_cons, List.not_mem_nil, or_false] at hr
  rcases hr with rfl | rfl
  · exact writable_of_lt (by decide) (by decide) (by decide)
  · exact writable_of_lt (by decide) (by decide) (by decide)

end Sample

/-- The report of the sample. -/
theorem sample_lossless :
    (∀ s, ∃ n, Sample.characters s = .ok n)
      ∧ ∃ text, jsonText Sample.characters Sample.files = .ok text
        ∧ Json.parse text = some (.list (Sample.reported.map Record.json))
        ∧ (∀ rs, recordsText? rs = some text → rs = Sample.reported)
        ∧ ∀ c ∈ text.toList, c.toNat < 0x7F := by
  obtain ⟨rs, hrecords, -, hreport, -⟩ := jsonText_lossless Sample.characters_total Sample.files
  have hsame : Sample.reported = rs := Except.ok.inj (Sample.records_eq.symm.trans hrecords)
  subst hsame
  exact ⟨Sample.characters_total, hreport Sample.reported_writable⟩

namespace Sample

/-- A file with a chunk on a line whose number has a digit too many. -/
def remote : List FileChunks :=
  [⟨⟨0, ["a.py"]⟩, [⟨"x\n", ((10 ^ Decimal.digitLimit : Nat) : Int), 1⟩]⟩]

/-- A file with a chunk that is the last character of ASCII. -/
def rubout : List FileChunks := [⟨⟨0, ["a.py"]⟩, [⟨"\x7f", 1, 1⟩]⟩]

theorem remote_refused : jsonText characters remote = .error (.badValue Decimal.tooLong) := by
  have hlong : ¬ Decimal.Short ((10 ^ Decimal.digitLimit : Nat) : Int) := by
    rw [Decimal.short_iff, Int.natAbs_natCast]
    exact Nat.lt_irrefl _
  refine jsonText_of_no_text (records_of_sized fun x _ => characters_total x.2.content) ?_
  exact recordsText?_of_unwritable List.mem_cons_self fun h => hlong h.1

theorem exists_rubout_text :
    ∃ text, jsonText characters rubout = .ok text ∧ '\x7f' ∉ text.toList := by
  have hrecords : records characters rubout = .ok [⟨"a.py", 1, 1, 1, "\x7f"⟩] := by decide
  have hwritable : ∀ r ∈ [(⟨"a.py", 1, 1, 1, "\x7f"⟩ : Record)], r.Writable :=
    List.forall_mem_singleton.mpr (writable_of_lt (by decide) (by decide) (by decide))
  obtain ⟨text, htext⟩ := exists_recordsText? hwritable
  refine ⟨text, jsonText_of_records hrecords htext, ?_⟩
  intro hmem
  exact absurd (ascii_of_recordsText? htext _ hmem) (by decide)

end Sample

/-- **Not every report is made, and not every character of ASCII stands for itself in one.**  The
number of a line may have too many digits to be written, and the last character of ASCII is escaped
like the other control characters. -/
theorem exists_report_otherwise :
    (¬ ∀ (count : Tokenizer) (files : List FileChunks), (∀ s, ∃ n, count s = .ok n) →
        ∃ text, jsonText count files = .ok text)
      ∧ ¬ ∀ (count : Tokenizer) (files : List FileChunks) (text : String),
        (∀ s, ∃ n, count s = .ok n) → jsonText count files = .ok text →
        ∀ x ∈ placed files, '\x7f' ∈ x.2.content.toList → '\x7f' ∈ text.toList := by
  constructor
  · intro hclaim
    obtain ⟨text, htext⟩ := hclaim Sample.characters Sample.remote Sample.characters_total
    rw [Sample.remote_refused] at htext
    cases htext
  · intro hclaim
    obtain ⟨text, htext, hrubout⟩ := Sample.exists_rubout_text
    have hplaced : (⟨⟨0, ["a.py"]⟩, ⟨"\x7f", 1, 1⟩⟩ : Path × Chunk) ∈ placed Sample.rubout :=
      List.mem_cons_self
    have hkept :=
      hclaim Sample.characters Sample.rubout text Sample.characters_total htext _ hplaced
    exact hrubout (hkept (by decide))

end Breadcrumb.Report
