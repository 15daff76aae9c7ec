/-
  Breadcrumb.Proofs.Settings.Written
  ──────────────────────────────────
  **SETTINGS THAT ARE WRITTEN COME INTO FORCE AGAIN.**

  Written settings are a document of two sections which holds every setting, so
  what it is laid over shows nowhere (`overlay_data`).  The numbers must be positive
  integers that are not too long to be written.  The encoding may be any text that
  is not blank, as everything that could end or change a string is escaped.

  From the text to the settings it goes by the laws of each layer: octets to
  characters (`decodeStrict?_encode`), lines to data (`parse_written`), data to
  settings (`overlay_eq_ok_iff_held`), and then one file of the cascade.
-/
import Mathlib
import Breadcrumb.Proofs.Settings.Precedence
import Breadcrumb.Proofs.Text.Utf8
import Breadcrumb.Proofs.Toml.Written

namespace Breadcrumb.Settings

open Breadcrumb.Number Breadcrumb.Text Breadcrumb.Toml

/-! ## §1. Settings as data. -/

/-- A positive integer with no more digits than can be written.  True is a way to say one. -/
def PositiveInteger : Quantity → Prop
  | .whole n => 0 < n ∧ (Decimal.digits n.natAbs).length ≤ Decimal.digitLimit
  | .flag b => b = true
  | .real _ => False

/-- The data that settings are written as. -/
def Config.data (c : Config) : Table :=
  [(chunkingSection,
      .table [(Field.maxChunkSize.key, .amount c.chunking.maxChunkSize),
        (Field.tokenWorkers.key, .amount c.chunking.tokenWorkers)]),
    (tokenizerSection, .table [(encodingKey, .text c.encoding)])]

/-- The lines that settings are written in, with the texts of the two numbers. -/
def Config.lines (c : Config) (size workers : String) : List Line :=
  [.header chunkingSection,
    .entry Field.maxChunkSize.key size (.amount c.chunking.maxChunkSize),
    .entry Field.tokenWorkers.key workers (.amount c.chunking.tokenWorkers),
    .blank,
    .header tokenizerSection,
    .entry encodingKey (writeString c.encoding) (.text c.encoding)]

theorem held?_data (c : Config) (s : Setting) : s.held? c.data = some (c.value s) := by
  match s with
  | .number .maxChunkSize => rfl
  | .number .tokenWorkers => rfl
  | .encoding => rfl

theorem passes_amount {field : Field} {q : Quantity} (h : PositiveInteger q) :
    (Setting.number field).passes (.amount q) = true := by
  rw [passes_number_iff]
  refine ⟨q, rfl, ?_⟩
  cases q with
  | whole n =>
    rw [Quantity.notPositive_whole, decide_eq_false_iff_not]
    exact Int.not_le.mpr h.1
  | flag b =>
    cases h
    rfl
  | real x => cases h

section

variable {c : Config} (hamounts : ∀ field, PositiveInteger (c.amount field))
  (hencoding : allBlank c.encoding = false)

include hamounts hencoding

theorem acceptable_data : Acceptable c.data := by
  intro s v hheld
  rw [held?_data] at hheld
  cases hheld
  cases s with
  | number field => exact passes_amount (hamounts field)
  | encoding => exact passes_encoding_iff.mpr ⟨c.encoding, rfl, hencoding⟩

/-- **The data of settings, laid over any settings, give them back.** -/
theorem overlay_data (base : Config) : base.overlay c.data = .ok c := by
  rw [overlay_eq_ok_iff_held]
  refine ⟨acceptable_data hamounts hencoding, ?_⟩
  intro s
  rw [held?_data]
  rfl

end

/-! ## §2. Settings as a document. -/

theorem exists_spelling {q : Quantity} (h : PositiveInteger q) :
    ∃ text, writeQuantity q = some text ∧ Spells text (.amount q) := by
  cases q with
  | whole n =>
    obtain ⟨hpos, hshort⟩ := h
    obtain ⟨m, rfl⟩ := Int.eq_ofNat_of_zero_le (Int.le_of_lt hpos)
    have hm : 0 < m := Int.natCast_pos.mp hpos
    exact ⟨Decimal.text m, if_pos hshort, spells_digits hm hshort⟩
  | flag b =>
    cases h
    exact ⟨"true", rfl, spells_true⟩
  | real x => cases h

theorem wellFormed_lines {c : Config} {size workers : String}
    (hsize : Spells size (.amount c.chunking.maxChunkSize))
    (hworkers : Spells workers (.amount c.chunking.tokenWorkers)) :
    ∀ l ∈ c.lines size workers, l.WellFormed := by
  have hencoding := spells_writeString c.encoding
  simp only [Config.lines, List.forall_mem_cons, Line.WellFormed, true_and, List.not_mem_nil,
    false_implies, implies_true, and_true]
  exact ⟨by decide, ⟨by decide, hsize⟩, ⟨by decide, hworkers⟩, by decide, by decide, hencoding⟩

/-- The two headers and three assignments make the data, whatever their values are. -/
theorem apply_lines (c : Config) (size workers : String) :
    ∃ d, (c.lines size workers).foldlM Line.apply {} = .ok d ∧ d.root = c.data :=
  ⟨_, rfl, rfl⟩

/-- **Settings can be written, and the text holds their data.** -/
theorem parse_write {c : Config} (hamounts : ∀ field, PositiveInteger (c.amount field)) :
    ∃ text, c.write = some text ∧ parse text.toList = .ok c.data := by
  obtain ⟨size, hsize, hsizeSpells⟩ := exists_spelling (hamounts .maxChunkSize)
  obtain ⟨workers, hworkers, hworkersSpells⟩ := exists_spelling (hamounts .tokenWorkers)
  have hsize' : writeQuantity c.chunking.maxChunkSize = some size := hsize
  have hworkers' : writeQuantity c.chunking.tokenWorkers = some workers := hworkers
  obtain ⟨d, happly, hroot⟩ := apply_lines c size workers
  have hparse := parse_written (wellFormed_lines hsizeSpells hworkersSpells) happly
  refine ⟨String.ofList (written (c.lines size workers)), ?_, ?_⟩
  · unfold Config.write
    rw [hsize', hworkers']
    simp [written, Config.lines, Line.text, String.ofList_append, String.append_assoc]
  · rw [String.toList_ofList, hparse, hroot]

/-! ## §3. Settings as a file. -/

/-- What is written as a text is loaded from its octets. -/
theorem load_encodeString {text : String} {data : Table} (h : parse text.toList = .ok data) :
    load (Utf8.encodeString text) = .ok data := by
  unfold load Utf8.encodeString
  simp only [Utf8.decodeStrict?_encode, h]

/-- A project's file that holds the data of settings decides all of them. -/
theorem cascade_of_data {c : Config} (hacceptable : Acceptable c.data)
    {surroundings : Surroundings} {files : FileTree} {cwd : Location} {directory path : Path}
    {person : Option Octets} {octets : Octets} (hload : load octets = .ok c.data)
    (hpath : globalFile surroundings = .ok path) (hperson : Lies files cwd path person)
    (hdepth : ∀ octets ∈ person, nestsTooDeep octets = false)
    (hproject : Lies files cwd (directory.child fileName) (some octets)) :
    (cascade surroundings files cwd directory).result = .ok c := by
  obtain ⟨base, hfirst, -⟩ := step_contributes .global hperson hdepth {}
  obtain ⟨d, happly, hvalue⟩ :=
    apply_of_acceptable .project (directory.child fileName) hload hacceptable base
  have hsame : d = c := by
    apply Config.eq_of_value
    intro s
    rw [hvalue s, held?_data]
    rfl
  rw [cascade_of_ok hpath hfirst, step_of_file hproject, happly, hsame]

/-- **Settings that are written come into force again**: their text is a document, its data laid
over any settings give them back, and as the project's file it does so whatever the person's file
holds.  (A person's file that nests too deep is no matter of settings: it ends the cascade before
the project's file is looked at.) -/
theorem written_in_force {c : Config} (hamounts : ∀ field, PositiveInteger (c.amount field))
    (hencoding : allBlank c.encoding = false) :
    ∃ text, c.write = some text
      ∧ (∃ data, parse text.toList = .ok data ∧ ∀ base : Config, base.overlay data = .ok c)
      ∧ ∀ (surroundings : Surroundings) (files : FileTree) (cwd : Location) (directory path : Path)
          (person : Option Octets),
          globalFile surroundings = .ok path → Lies files cwd path person →
          (∀ octets ∈ person, nestsTooDeep octets = false) →
          Lies files cwd (directory.child fileName) (some (Utf8.encodeString text)) →
          (cascade surroundings files cwd directory).result = .ok c := by
  obtain ⟨text, hwrite, hparse⟩ := parse_write hamounts
  refine ⟨text, hwrite, ⟨c.data, hparse, overlay_data hamounts hencoding⟩, ?_⟩
  intro surroundings files cwd directory path person hpath hperson hdepth hproject
  exact cascade_of_data (acceptable_data hamounts hencoding) (load_encodeString hparse) hpath
    hperson hdepth hproject

namespace Sample

/-- Settings with an encoding that could end its string, its line and the document. -/
def config : Config where
  chunking := { maxChunkSize := .whole 64, tokenWorkers := .flag true }
  encoding := "a\"b\\c\r\n[tokenizer]\t\x01\x7f # é"

/-- The document of these settings. -/
def text : String :=
  "[chunking]\nmax_chunk_size = 64\ntoken_workers = true\n\n[tokenizer]\n" ++
    "encoding = \"a\\\"b\\\\c\\r\\n[tokenizer]\t\\u0001\\u007f # é\"\n"

theorem digits_size : Decimal.digits 64 = ['6', '4'] := by
  rw [Decimal.digits, if_neg (by decide), Decimal.digits, if_pos (by decide)]
  rfl

theorem size_short : (Decimal.digits 64).length ≤ Decimal.digitLimit := by
  rw [digits_size]
  decide

theorem write_config : config.write = some text := by
  have hsize : writeQuantity (.whole 64) = some "64" := by
    have htext : Decimal.intText 64 = "64" := congrArg String.ofList digits_size
    rw [← htext]
    exact if_pos size_short
  unfold Config.write
  simp only [config, hsize]
  rfl

end Sample

/-- The settings of the sample come into force again, over those of the person. -/
theorem sample_written :
    (∀ field, PositiveInteger (Sample.config.amount field))
      ∧ allBlank Sample.config.encoding = false
      ∧ Sample.config.write = some Sample.text
      ∧ (∃ data, parse Sample.text.toList = .ok data
          ∧ ∀ base : Config, base.overlay data = .ok Sample.config)
      ∧ (cascade Sample.surroundings (Sample.files (Utf8.encodeString Sample.text)) ["p"]
          Sample.directory).result = .ok Sample.config := by
  have hamounts : ∀ field, PositiveInteger (Sample.config.amount field)
    | .maxChunkSize => ⟨by decide, Sample.size_short⟩
    | .tokenWorkers => rfl
  have hencoding : allBlank Sample.config.encoding = false := by decide
  obtain ⟨text, hwrite, hoverlay, hcascade⟩ := written_in_force hamounts hencoding
  have hsame : text = Sample.text := Option.some.inj (hwrite.symm.trans Sample.write_config)
  subst hsame
  refine ⟨hamounts, hencoding, Sample.write_config, hoverlay, ?_⟩
  exact hcascade _ _ _ _ _ _ Sample.globalFile_eq (Sample.person_lies _) Sample.person_shallow
    (Sample.project_lies _)

end Breadcrumb.Settings
