/-
  Breadcrumb.Proofs.Settings.Setting
  ──────────────────────────────────
  **SETTINGS ONE BY ONE.**

  An overlay works on whole sections, and tells of a section only what became of
  it or why it was refused.  Seen from one setting it is simple: data hold a value
  for it or hold none (`Setting.held?`), the value passes the setting's own check
  or not (`Setting.passes`), and these two decide everything
  (`overlay_eq_ok_iff_held`):

      an overlay succeeds exactly if every value that the data hold passes
      each setting is then the value held, or else what it was

  So whether data are acceptable has nothing to do with what they are laid over
  (`Acceptable.exists_overlay`, `exists_refusal`).
-/
import Mathlib
import Breadcrumb.Proofs.Settings.Accepted

namespace Breadcrumb.Settings

open Breadcrumb.Number Breadcrumb.Text

/-! ## §1. What can be set. -/

/-- One of the settings. -/
inductive Setting where
  | number (field : Field)
  | encoding
  deriving DecidableEq, Repr

namespace Setting

/-- The section that a setting stands in. -/
def sectionName : Setting → String
  | number _ => chunkingSection
  | encoding => tokenizerSection

/-- The key that a setting stands under. -/
def key : Setting → String
  | number field => field.key
  | encoding => encodingKey

/-- The value that data hold for a setting, in a section that is a table. -/
def held? (s : Setting) (data : Table) : Option Value :=
  match data.get? s.sectionName with
  | some (.table entries) => Table.get? s.key entries
  | _ => none

/-- The setting's own check: a number that is not zero or less, a text that is not blank. -/
def passes : Setting → Value → Bool
  | number _, .amount q => !q.notPositive
  | encoding, .text t => !allBlank t
  | _, _ => false

/-- A section that is no table holds nothing, like an empty one. -/
theorem held?_eq (s : Setting) (data : Table) :
    s.held? data = Table.get? s.key (section? data s.sectionName) := by
  unfold held? section?
  cases data.get? s.sectionName with
  | none => rfl
  | some v => cases v <;> rfl

end Setting

/-- A number in force. -/
def Config.amount (c : Config) : Field → Quantity
  | .maxChunkSize => c.chunking.maxChunkSize
  | .tokenWorkers => c.chunking.tokenWorkers

/-- The value of a setting in force. -/
def Config.value (c : Config) : Setting → Value
  | .number field => .amount (c.amount field)
  | .encoding => .text c.encoding

/-- What holds of every setting, written out. -/
theorem forall_setting {P : Setting → Prop} :
    (∀ s, P s) ↔ (P (.number .maxChunkSize) ∧ P (.number .tokenWorkers)) ∧ P .encoding := by
  constructor
  · exact fun h => ⟨⟨h _, h _⟩, h _⟩
  · rintro ⟨⟨hsize, hworkers⟩, hencoding⟩ s
    match s with
    | .number .maxChunkSize => exact hsize
    | .number .tokenWorkers => exact hworkers
    | .encoding => exact hencoding

/-- Data of which every value passes the check of its setting. -/
def Acceptable (data : Table) : Prop :=
  ∀ s : Setting, ∀ v ∈ s.held? data, s.passes v = true

instance (data : Table) : Decidable (Acceptable data) := decidable_of_iff _ forall_setting.symm

/-! ## §2. One setting. -/

theorem passes_number_iff {field : Field} {v : Value} :
    (Setting.number field).passes v = true ↔ ∃ q, v = .amount q ∧ q.notPositive = false := by
  cases v <;> simp [Setting.passes]

theorem passes_encoding_iff {v : Value} :
    Setting.encoding.passes v = true ↔ ∃ t, v = .text t ∧ allBlank t = false := by
  cases v <;> simp [Setting.passes]

/-- A value that is checked takes the place of an old one, and where there is none the old one
stays. -/
theorem replaced_eq_ok_iff {α : Type} {setting : Setting} {check : Value → Except Invalid α}
    {wrap : α → Value} (hwrap : Function.Injective wrap)
    (hcheck : ∀ v a, check v = .ok a ↔ setting.passes v = true ∧ wrap a = v)
    (found : Option Value) (old a : α) :
    (match found with
      | some v => check v
      | none => .ok old) = .ok a
      ↔ (∀ v ∈ found, setting.passes v = true) ∧ wrap a = found.getD (wrap old) := by
  cases found with
  | none =>
    simp only [Except.ok.injEq, Option.mem_def, reduceCtorEq, false_implies, implies_true, true_and,
      Option.getD_none, hwrap.eq_iff]
    exact eq_comm
  | some v => simp only [hcheck, Option.mem_def, Option.some.injEq, forall_eq', Option.getD_some]

theorem checkAmount_eq_ok_iff_passes {field : Field} (v : Value) (q : Quantity) :
    checkAmount field v = .ok q ↔ (Setting.number field).passes v = true ∧ Value.amount q = v := by
  rw [checkAmount_eq_ok_iff]
  constructor
  · rintro ⟨rfl, hq⟩
    exact ⟨passes_number_iff.mpr ⟨q, rfl, hq⟩, rfl⟩
  · rintro ⟨hpasses, rfl⟩
    exact ⟨rfl, by simpa [Setting.passes] using hpasses⟩

theorem checkEncoding_eq_ok_iff_passes (v : Value) (t : String) :
    checkEncoding v = .ok t ↔ Setting.encoding.passes v = true ∧ Value.text t = v := by
  rw [checkEncoding_eq_ok_iff]
  constructor
  · rintro ⟨rfl, ht⟩
    exact ⟨passes_encoding_iff.mpr ⟨t, rfl, ht⟩, rfl⟩
  · rintro ⟨hpasses, rfl⟩
    exact ⟨rfl, by simpa [Setting.passes] using hpasses⟩

theorem amountOr_eq_ok_iff {field : Field} {old q : Quantity} {entries : Table} :
    amountOr field old entries = .ok q
      ↔ (∀ v ∈ Table.get? field.key entries, (Setting.number field).passes v = true)
        ∧ Value.amount q = (Table.get? field.key entries).getD (.amount old) :=
  replaced_eq_ok_iff (fun _ _ => Value.amount.inj) checkAmount_eq_ok_iff_passes _ old q

theorem overlayEncoding_eq_ok_iff {base t : String} {entries : Table} :
    overlayEncoding base entries = .ok t
      ↔ (∀ v ∈ Table.get? encodingKey entries, Setting.encoding.passes v = true)
        ∧ Value.text t = (Table.get? encodingKey entries).getD (.text base) :=
  replaced_eq_ok_iff (fun _ _ => Value.text.inj) checkEncoding_eq_ok_iff_passes _ base t

/-! ## §3. All settings. -/

/-- Settings are the same if each of them is. -/
theorem Config.eq_of_value {c d : Config} (h : ∀ s, c.value s = d.value s) : c = d := by
  obtain ⟨⟨size, workers⟩, encoding⟩ := c
  obtain ⟨⟨size', workers'⟩, encoding'⟩ := d
  obtain ⟨⟨hsize, hworkers⟩, hencoding⟩ := forall_setting.mp h
  cases hsize
  cases hworkers
  cases hencoding
  rfl

/-- **An overlay succeeds exactly if every value held passes, and then replaces what is held.** -/
theorem overlay_eq_ok_iff_held {base c : Config} {data : Table} :
    base.overlay data = .ok c
      ↔ Acceptable data ∧ ∀ s : Setting, c.value s = (s.held? data).getD (base.value s) := by
  unfold Acceptable
  rw [Config.overlay_eq_ok_iff, Chunking.overlay_eq_ok_iff, amountOr_eq_ok_iff, amountOr_eq_ok_iff,
    overlayEncoding_eq_ok_iff, forall_setting, forall_setting]
  simp only [Setting.held?_eq]
  tauto

/-- What an acceptable overlay gives for a number is a number. -/
theorem exists_amount (base : Config) {data : Table} (h : Acceptable data) (field : Field) :
    ∃ q, ((Setting.number field).held? data).getD (base.value (.number field)) = .amount q := by
  cases hheld : (Setting.number field).held? data with
  | none => exact ⟨base.amount field, rfl⟩
  | some v =>
    obtain ⟨q, rfl, -⟩ := passes_number_iff.mp (h _ v hheld)
    exact ⟨q, rfl⟩

/-- What it gives for the encoding is a text. -/
theorem exists_text (base : Config) {data : Table} (h : Acceptable data) :
    ∃ t, (Setting.encoding.held? data).getD (base.value .encoding) = .text t := by
  cases hheld : Setting.encoding.held? data with
  | none => exact ⟨base.encoding, rfl⟩
  | some v =>
    obtain ⟨t, rfl, -⟩ := passes_encoding_iff.mp (h _ v hheld)
    exact ⟨t, rfl⟩

/-- **Acceptable data can be laid over any settings.** -/
theorem Acceptable.exists_overlay {data : Table} (h : Acceptable data) (base : Config) :
    ∃ c, base.overlay data = .ok c := by
  obtain ⟨size, hsize⟩ := exists_amount base h .maxChunkSize
  obtain ⟨workers, hworkers⟩ := exists_amount base h .tokenWorkers
  obtain ⟨encoding, hencoding⟩ := exists_text base h
  refine ⟨⟨⟨size, workers⟩, encoding⟩, overlay_eq_ok_iff_held.mpr ⟨h, ?_⟩⟩
  exact forall_setting.mpr ⟨⟨hsize.symm, hworkers.symm⟩, hencoding.symm⟩

/-- **Other data can be laid over none.** -/
theorem exists_refusal {data : Table} (h : ¬ Acceptable data) (base : Config) :
    ∃ i, base.overlay data = .error i := by
  cases hoverlay : base.overlay data with
  | ok c => exact absurd (overlay_eq_ok_iff_held.mp hoverlay).1 h
  | error i => exact ⟨i, rfl⟩

end Breadcrumb.Settings
