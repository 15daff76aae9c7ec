/-
  Breadcrumb.Proofs.Settings.Accepted
  ───────────────────────────────────
  **NO SETTING IN FORCE IS ONE THAT ITS CHECK REFUSES.**

  The defaults pass the checks, and an overlay replaces a setting only by a value
  that passes (`Accepted.overlay`).  What files and arguments lead to is reached by
  overlays alone, so it passes as well (`accepted_cascade`).
-/
import Mathlib
import Breadcrumb.Settings.Cascade

namespace Breadcrumb.Settings

open Breadcrumb.Number Breadcrumb.Text

/-! ## §1. The invariant. -/

/-- Settings that pass their own checks. -/
structure Accepted (c : Config) : Prop where
  maxChunkSize : c.chunking.maxChunkSize.notPositive = false
  tokenWorkers : c.chunking.tokenWorkers.notPositive = false
  encoding : allBlank c.encoding = false

/-- The defaults pass. -/
theorem accepted_default : Accepted {} where
  maxChunkSize := by rw [Quantity.notPositive_whole]; decide
  tokenWorkers := by rw [Quantity.notPositive_whole]; decide
  encoding := by decide

/-! ## §2. One value. -/

/-- What a check lets through is the value itself. -/
theorem unrefused_eq_ok_iff {α : Type} {refused : Bool} {i : Invalid} {given x : α} :
    (if refused then .error i else .ok given : Except Invalid α) = .ok x
      ↔ given = x ∧ refused = false := by
  cases refused with
  | true => simp
  | false => simp

theorem checkAmount_eq_ok_iff {field : Field} {v : Value} {q : Quantity} :
    checkAmount field v = .ok q ↔ v = .amount q ∧ q.notPositive = false := by
  cases v with
  | amount given =>
    simp only [checkAmount, unrefused_eq_ok_iff, Value.amount.injEq]
    exact and_congr_right fun h => by rw [h]
  | null | text _ | moment _ | list _ | table _ => simp [checkAmount]

theorem checkEncoding_eq_ok_iff {v : Value} {s : String} :
    checkEncoding v = .ok s ↔ v = .text s ∧ allBlank s = false := by
  cases v with
  | text given =>
    simp only [checkEncoding, unrefused_eq_ok_iff, Value.text.injEq]
    exact and_congr_right fun h => by rw [h]
  | null | amount _ | moment _ | list _ | table _ => simp [checkEncoding]

/-- A number that replaces another, or stays. -/
theorem amountOr_notPositive {field : Field} {old q : Quantity} {entries : Table}
    (hold : old.notPositive = false) (h : amountOr field old entries = .ok q) :
    q.notPositive = false := by
  unfold amountOr at h
  split at h
  · exact (checkAmount_eq_ok_iff.mp h).2
  · cases h
    exact hold

/-- An encoding that replaces another, or stays. -/
theorem overlayEncoding_filled {base s : String} {entries : Table} (hbase : allBlank base = false)
    (h : overlayEncoding base entries = .ok s) : allBlank s = false := by
  unfold overlayEncoding at h
  split at h
  · exact (checkEncoding_eq_ok_iff.mp h).2
  · cases h
    exact hbase

/-! ## §3. One overlay. -/

/-- An overlay of numbers that is not refused replaces each by itself. -/
theorem Chunking.overlay_eq_ok_iff {base c : Chunking} {entries : Table} :
    base.overlay entries = .ok c
      ↔ amountOr .maxChunkSize base.maxChunkSize entries = .ok c.maxChunkSize
        ∧ amountOr .tokenWorkers base.tokenWorkers entries = .ok c.tokenWorkers := by
  obtain ⟨size, workers⟩ := c
  unfold Chunking.overlay
  cases amountOr .maxChunkSize base.maxChunkSize entries with
  | error i => simp [bind, Except.bind]
  | ok newSize =>
    cases amountOr .tokenWorkers base.tokenWorkers entries with
    | error i => simp [bind, Except.bind]
    | ok newWorkers => simp [bind, Except.bind, pure, Except.pure]

/-- An overlay that is not refused replaces both sections. -/
theorem Config.overlay_eq_ok_iff {base c : Config} {data : Table} :
    base.overlay data = .ok c
      ↔ base.chunking.overlay (section? data chunkingSection) = .ok c.chunking
        ∧ overlayEncoding base.encoding (section? data tokenizerSection) = .ok c.encoding := by
  obtain ⟨chunking, encoding⟩ := c
  unfold Config.overlay
  cases base.chunking.overlay (section? data chunkingSection) with
  | error i => simp [bind, Except.bind]
  | ok newChunking =>
    cases overlayEncoding base.encoding (section? data tokenizerSection) with
    | error i => simp [bind, Except.bind]
    | ok newEncoding => simp [bind, Except.bind, pure, Except.pure]

/-- **Settings that pass their checks still do so under an overlay**, whatever its data. -/
theorem Accepted.overlay {base c : Config} {data : Table} (hbase : Accepted base)
    (h : base.overlay data = .ok c) : Accepted c := by
  obtain ⟨hchunking, hencoding⟩ := Config.overlay_eq_ok_iff.mp h
  obtain ⟨hsize, hworkers⟩ := Chunking.overlay_eq_ok_iff.mp hchunking
  exact ⟨amountOr_notPositive hbase.maxChunkSize hsize,
    amountOr_notPositive hbase.tokenWorkers hworkers,
    overlayEncoding_filled hbase.encoding hencoding⟩

/-! ## §4. The cascade. -/

variable {surroundings : Surroundings} {files : FileTree} {cwd : Location}

/-- A layer is an overlay, or leaves the settings as they were. -/
theorem Accepted.apply {base c : Config} {layer : Layer} {path : Path} {octets : Octets}
    (hbase : Accepted base) (h : (layer.apply path base octets).result = .ok c) : Accepted c := by
  unfold Layer.apply at h
  split at h
  · rename_i laid haccept
    cases h
    unfold accept at haccept
    split at haccept
    · cases haccept
    · split at haccept
      · cases haccept
      · rename_i hoverlay
        cases haccept
        exact hbase.overlay hoverlay
  · cases h
  · cases h
    exact hbase

/-- So is the layer of a path, which may name nothing. -/
theorem Accepted.step {base c : Config} {layer : Layer} {path : Path} (hbase : Accepted base)
    (h : (step files cwd layer path base).result = .ok c) : Accepted c := by
  unfold Settings.step at h
  split at h
  · cases h
  · cases h
    exact hbase
  · split at h
    · cases h
    · exact hbase.apply h

/-- **Settings from files pass their checks.** -/
theorem accepted_cascade {directory : Path} {c : Config}
    (h : (cascade surroundings files cwd directory).result = .ok c) : Accepted c := by
  unfold cascade at h
  split at h
  · cases h
  · rename_i path _
    simp only at h
    split at h
    · rename_i f hfault
      rw [hfault] at h
      cases h
    · rename_i first hfirst
      exact (accepted_default.step hfirst).step h

end Breadcrumb.Settings
