/-
  Breadcrumb.Proofs.Settings.Precedence
  ─────────────────────────────────────
  **WHICH FILE DECIDES A SETTING.**

  A file is acceptable if it is a document and all values that it holds for
  settings pass their checks (`AcceptableFile`); what the settings were before has
  no say in it.  An acceptable file contributes its data, any other file nothing
  at all, and leaves one warning (`step_contributes`, `Leaves`).

  So each setting is decided by itself (`cascade_decides`): by the project's file
  if that contributes a value for it, or else by the person's file, or else by the
  default.
-/
import Mathlib
import Breadcrumb.Proofs.Settings.Setting

namespace Breadcrumb.Settings

open Breadcrumb.Text Breadcrumb.Toml

/-! ## §1. What files contribute. -/

/-- What lies under a path: nothing, or a file of octets. -/
def Lies (files : FileTree) (cwd : Location) (path : Path) : Option Octets → Prop
  | none => files.isPresent cwd path = .ok false
  | some octets => files.stat cwd path.text = .ok (.file octets)

/-- The values of a file lie in each other deeper than a reader goes. -/
def nestsTooDeep (octets : Octets) : Bool :=
  match load octets with
  | .error (.document .tooDeep) => true
  | _ => false

/-- A file that can be read, with acceptable data. -/
def AcceptableFile (octets : Octets) : Prop :=
  ∃ data, load octets = .ok data ∧ Acceptable data

/-- The data that a file contributes: those of an acceptable file. -/
def contribution : Option Octets → Table
  | none => []
  | some octets =>
    match load octets with
    | .ok data => if Acceptable data then data else []
    | .error _ => []

/-- The records that a file leaves. -/
inductive Leaves (layer : Layer) (path : Path) : Option Octets → List Log.Record → Prop where
  | absent : Leaves layer path none []
  | loaded {octets : Octets} (h : AcceptableFile octets) :
      Leaves layer path (some octets) [layer.loaded path]
  /-- One warning, which gives the reason. -/
  | rejected {octets : Octets} (h : ¬ AcceptableFile octets) (reason : String) :
      Leaves layer path (some octets) [layer.rejected path reason]

theorem contribution_of_load {octets : Octets} {data : Table} (hload : load octets = .ok data)
    (hacceptable : Acceptable data) : contribution (some octets) = data := by
  unfold contribution
  simp only [hload, if_pos hacceptable]

theorem contribution_of_not_acceptable {octets : Octets} (h : ¬ AcceptableFile octets) :
    contribution (some octets) = [] := by
  unfold contribution
  cases hload : load octets with
  | error f => simp only [hload]
  | ok data =>
    have hdata : ¬ Acceptable data := fun hacceptable => h ⟨data, hload, hacceptable⟩
    simp only [hload, if_neg hdata]

/-! ## §2. One file. -/

section

variable {files : FileTree} {cwd : Location} {layer : Layer} {path : Path} {octets : Octets}

theorem step_of_absent (hlies : Lies files cwd path none) (base : Config) :
    step files cwd layer path base = ⟨[], .ok base⟩ := by
  have hpresent : files.isPresent cwd path = .ok false := hlies
  unfold step
  rw [hpresent]

theorem step_of_file (hlies : Lies files cwd path (some octets)) (base : Config) :
    step files cwd layer path base = layer.apply path base octets := by
  have hstat : files.stat cwd path.text = .ok (.file octets) := hlies
  have hpresent : files.isPresent cwd path = .ok true := by
    unfold FileTree.isPresent
    rw [hstat]
  have hoctets : files.octetsOf cwd path = .ok octets := by
    unfold FileTree.octetsOf
    rw [hstat]
  unfold step
  rw [hpresent, hoctets]

/-- An acceptable file is laid over any settings. -/
theorem apply_of_acceptable (layer : Layer) (path : Path) {data : Table}
    (hload : load octets = .ok data) (hacceptable : Acceptable data) (base : Config) :
    ∃ c, layer.apply path base octets = ⟨[layer.loaded path], .ok c⟩
      ∧ ∀ s : Setting, c.value s = (s.held? data).getD (base.value s) := by
  obtain ⟨c, hoverlay⟩ := hacceptable.exists_overlay base
  refine ⟨c, ?_, (overlay_eq_ok_iff_held.mp hoverlay).2⟩
  simp only [Layer.apply, accept, hload, hoverlay]

/-- Any other file is laid over none. -/
theorem apply_of_not_acceptable (layer : Layer) (path : Path) (h : ¬ AcceptableFile octets)
    (hdepth : nestsTooDeep octets = false) (base : Config) :
    ∃ reason, layer.apply path base octets = ⟨[layer.rejected path reason], .ok base⟩ := by
  cases hload : load octets with
  | error f =>
    refine ⟨(Rejection.unreadable f).message, ?_⟩
    have hf : f ≠ .document .tooDeep := by
      rintro rfl
      simp [nestsTooDeep, hload] at hdepth
    simp only [Layer.apply, accept, hload]
    split
    · rename_i heq
      cases heq
    · rename_i heq
      cases heq
      exact absurd rfl hf
    · rename_i heq
      cases heq
      rfl
  | ok data =>
    obtain ⟨i, hoverlay⟩ :=
      exists_refusal (fun hacceptable => h ⟨data, hload, hacceptable⟩) base
    exact ⟨(Rejection.invalid i).message, by simp only [Layer.apply, accept, hload, hoverlay]⟩

/-- **A file contributes to each setting by itself, and leaves its record**, whatever the settings
were before. -/
theorem step_contributes (layer : Layer) {file : Option Octets} (hlies : Lies files cwd path file)
    (hdepth : ∀ octets ∈ file, nestsTooDeep octets = false) (base : Config) :
    ∃ c, (step files cwd layer path base).result = .ok c
      ∧ (∀ s : Setting, c.value s = (s.held? (contribution file)).getD (base.value s))
      ∧ Leaves layer path file (step files cwd layer path base).logs := by
  cases file with
  | none =>
    rw [step_of_absent hlies]
    exact ⟨base, rfl, fun _ => rfl, .absent⟩
  | some octets =>
    rw [step_of_file hlies]
    by_cases h : AcceptableFile octets
    · obtain ⟨data, hload, hacceptable⟩ := h
      obtain ⟨c, happly, hvalue⟩ := apply_of_acceptable layer path hload hacceptable base
      rw [happly, contribution_of_load hload hacceptable]
      exact ⟨c, rfl, hvalue, .loaded ⟨data, hload, hacceptable⟩⟩
    · obtain ⟨reason, happly⟩ := apply_of_not_acceptable layer path h (hdepth octets rfl) base
      rw [happly, contribution_of_not_acceptable h]
      exact ⟨base, rfl, fun _ => rfl, .rejected h reason⟩

/-! ## §3. Both files. -/

/-- A cascade whose first file leads to settings goes on from them. -/
theorem cascade_of_ok {surroundings : Surroundings} {directory : Path} {c : Config}
    (hpath : globalFile surroundings = .ok path)
    (hfirst : (step files cwd .global path {}).result = .ok c) :
    cascade surroundings files cwd directory
      = ⟨(step files cwd .global path {}).logs
          ++ (step files cwd .project (directory.child fileName) c).logs,
        (step files cwd .project (directory.child fileName) c).result⟩ := by
  unfold cascade
  simp only [hpath, hfirst]

/-- **Each setting is decided by the project's file, or else by the person's, or else by default**,
and settings are found whatever the two files hold. -/
theorem cascade_decides {surroundings : Surroundings} {directory : Path}
    {person project : Option Octets} (hpath : globalFile surroundings = .ok path)
    (hperson : Lies files cwd path person)
    (hproject : Lies files cwd (directory.child fileName) project)
    (hpersonDepth : ∀ octets ∈ person, nestsTooDeep octets = false)
    (hprojectDepth : ∀ octets ∈ project, nestsTooDeep octets = false) :
    ∃ c, (cascade surroundings files cwd directory).result = .ok c
      ∧ (∀ s : Setting, c.value s
          = ((s.held? (contribution project)).or (s.held? (contribution person))).getD
              (({} : Config).value s))
      ∧ ∃ first second, (cascade surroundings files cwd directory).logs = first ++ second
          ∧ Leaves .global path person first
          ∧ Leaves .project (directory.child fileName) project second := by
  obtain ⟨c, hfirst, hvalue, hleaves⟩ :=
    step_contributes .global hperson hpersonDepth {}
  obtain ⟨d, hsecond, hvalue', hleaves'⟩ :=
    step_contributes .project hproject hprojectDepth c
  rw [cascade_of_ok hpath hfirst]
  refine ⟨d, hsecond, ?_, _, _, rfl, hleaves, hleaves'⟩
  intro s
  rw [hvalue' s, hvalue s]
  cases s.held? (contribution project) with
  | none => rfl
  | some v => rfl

end

/-! ## §4. A sample. -/

namespace Sample

def surroundings : Surroundings := { assigned := [("XDG_CONFIG_HOME", "/c")] }

/-- The file of the person. -/
def path : Path := ⟨1, ["c", "scopechunk", "config.toml"]⟩

/-- The directory of the project's settings. -/
def directory : Path := ⟨0, ["s"]⟩

/-- The settings of a person. -/
def person : Octets :=
  Utf8.encodeString "[chunking]\nmax_chunk_size = 100\ntoken_workers = 4\n"

/-- The settings of a project: the encoding is no text, so the number counts for nothing either. -/
def project : Octets :=
  Utf8.encodeString "[chunking]\nmax_chunk_size = 20\n[tokenizer]\nencoding = 7\n"

/-- The two files, for any octets of the project's one. -/
def files (octets : Octets) : FileTree where
  entries :=
    [(["c"], .directory), (["c", "scopechunk"], .directory),
      (["c", "scopechunk", "config.toml"], .file person), (["p"], .directory),
      (["p", "s"], .directory), (["p", "s", "config.toml"], .file octets)]

theorem globalFile_eq : globalFile surroundings = .ok path := by decide

theorem person_lies (octets : Octets) : Lies (files octets) ["p"] path (some person) := by
  show (files octets).stat ["p"] path.text = .ok (.file person)
  rfl

theorem project_lies (octets : Octets) :
    Lies (files octets) ["p"] (directory.child fileName) (some octets) := by
  show (files octets).stat ["p"] (directory.child fileName).text = .ok (.file octets)
  rfl

theorem person_shallow : ∀ octets ∈ some person, nestsTooDeep octets = false := by
  rintro octets ⟨⟩
  decide +kernel

theorem project_shallow : ∀ octets ∈ some project, nestsTooDeep octets = false := by
  rintro octets ⟨⟩
  decide +kernel

end Sample

/-- Of the two files of the sample only the person's one contributes. -/
theorem sample_decided :
    contribution (some Sample.project) = []
      ∧ ∃ c, (cascade Sample.surroundings (Sample.files Sample.project) ["p"]
            Sample.directory).result = .ok c
          ∧ (∀ s : Setting, c.value s
              = ((s.held? (contribution (some Sample.project))).or
                  (s.held? (contribution (some Sample.person)))).getD (({} : Config).value s))
          ∧ ∃ first second,
            (cascade Sample.surroundings (Sample.files Sample.project) ["p"] Sample.directory).logs
                = first ++ second
              ∧ Leaves .global Sample.path (some Sample.person) first
              ∧ Leaves .project (Sample.directory.child fileName) (some Sample.project) second := by
  have hnothing : contribution (some Sample.project) = [] :=
    List.isEmpty_iff.mp (by decide +kernel)
  exact ⟨hnothing, cascade_decides Sample.globalFile_eq (Sample.person_lies Sample.project)
    (Sample.project_lies Sample.project) Sample.person_shallow Sample.project_shallow⟩

end Breadcrumb.Settings
