/-
  Breadcrumb.Proofs.CommandLine.ManyFiles
  ───────────────────────────────────────
  **MANY FILES IN ONE RUN.**

  Every file is settled by itself: what becomes of it is what would become of it
  alone, and a file that cannot be packed is reported under its own name
  (`work_settled`).  Only then is the report made, out of the chunks of all files
  together, and there a failure is no longer that of a file.

  `perform_tells` says what a run then prints and answers.  The exit code is one just
  if some file failed.  But the chunks are printed only if every chunk of every file
  has a size, and in JSON one that can be written: one text that cannot be counted
  takes the chunks of all other files with it (`exists_file_spoiled`).
-/
import Mathlib
import Breadcrumb.Proofs.Outcome.Agreement
import Breadcrumb.Proofs.Report.Sizes
import Breadcrumb.Proofs.Settings.Accepted

namespace Breadcrumb.CommandLine

open Breadcrumb.Number Breadcrumb.Packing Breadcrumb.Report Breadcrumb.Settings Breadcrumb.Text
open Breadcrumb.Tokens

/-! ## §1. One file. -/

/-- The path names a file that can be read. -/
def Readable (p : Place) (path : Path) : Prop := ∃ octets, p.files.octetsOf p.cwd path = .ok octets

/-- What becomes of a file, whatever other files there are. -/
def Settles (p : Place) (c : Chunker) (budget : Quantity) (path : Path) (s : Settled) : Prop :=
  ∃ octets, p.files.octetsOf p.cwd path = .ok octets
    ∧ c.attempt ⟨path, contents octets, budget⟩ = .ok s

/-- Something goes wrong with the file: with its packing, with the size of one of its chunks, or
with a number that the report would give of one. -/
def Fails (count : Tokenizer) (json : Bool) (s : Settled) : Prop :=
  s.outcome.isSuccess = false ∨ ∃ ch ∈ s.outcome.chunks,
    (∃ f, count ch.content = .error f) ∨ ¬ Writable count json ch

variable {p : Place} {c : Chunker} {budget : Quantity} {path : Path} {s : Settled}

/-- With a budget that is accepted, something becomes of every file that can be read. -/
theorem exists_settles (hbudget : checkBudget budget = .ok ()) (h : Readable p path) :
    ∃ s, Settles p c budget path s := by
  obtain ⟨octets, hoctets⟩ := h
  rcases attempt_cases c ⟨path, contents octets, budget⟩ hbudget with
    ⟨-, hattempt⟩ | ⟨-, -, hattempt⟩ | ⟨-, -, hattempt⟩
  · exact ⟨_, octets, hoctets, hattempt⟩
  · exact ⟨_, octets, hoctets, hattempt⟩
  · exact ⟨_, octets, hoctets, hattempt⟩

/-- A file has failed just if it has a language and its own run failed; the message has its name. -/
theorem failed_iff_of_attempt {j : Job} (hbudget : checkBudget j.budget = .ok ())
    (h : c.attempt j = .ok s) (message : String) :
    s.outcome = .failed message ↔ Language.isSupported j.path = true
      ∧ ∃ f, (c.run j).failure = some f
        ∧ message = "Failed to chunk " ++ j.path.text ++ ": " ++ f.message := by
  rcases attempt_cases c j hbudget with
    ⟨hblank, hattempt⟩ | ⟨-, hlanguage, hattempt⟩ | ⟨-, hlanguage, hattempt⟩
  · rw [hattempt] at h
    cases h
    simp [run_of_blank hblank]
  · rw [hattempt] at h
    cases h
    simp [hlanguage]
  · -- Only a file that is packed can fail, and it fails as its stream does.
    rw [hattempt] at h
    cases h
    cases hfailure : (c.run j).stream.failure with
    | none =>
      have hrun : (c.run j).failure = none := hfailure
      simp [Stream.settle, hfailure, hrun]
    | some f =>
      have hrun : (c.run j).failure = some f := hfailure
      simp [Stream.settle, hfailure, hrun, hlanguage, eq_comm]

/-- So it is for a file that was settled. -/
theorem Settles.failed_iff (hbudget : checkBudget budget = .ok ()) (h : Settles p c budget path s)
    (message : String) :
    s.outcome = .failed message ↔ Language.isSupported path = true
      ∧ ∃ octets f, p.files.octetsOf p.cwd path = .ok octets
        ∧ (c.run ⟨path, contents octets, budget⟩).failure = some f
        ∧ message = "Failed to chunk " ++ path.text ++ ": " ++ f.message := by
  obtain ⟨octets, hoctets, hattempt⟩ := h
  rw [failed_iff_of_attempt hbudget hattempt message]
  refine and_congr_right fun _ => ⟨fun ⟨f, hf⟩ => ⟨octets, f, hoctets, hf⟩, ?_⟩
  rintro ⟨octets', f, hoctets', hf⟩
  rw [hoctets] at hoctets'
  cases hoctets'
  exact ⟨f, hf⟩

/-! ## §2. One file after the other. -/

/-- What becomes of files, each by itself and in their order. -/
structure Settlement (p : Place) (c : Chunker) (budget : Quantity) (files : List Path)
    (settled : List (Path × Settled)) : Prop where
  /-- Every file is settled, and none twice. -/
  files_eq : settled.map Prod.fst = files
  /-- Each as it would be alone. -/
  alone : ∀ x ∈ settled, Settles p c budget x.1 x.2
  /-- A file has failed just if it has a language and its own run failed; its message names it. -/
  named : ∀ x ∈ settled, ∀ message, x.2.outcome = .failed message ↔
    Language.isSupported x.1 = true ∧ ∃ octets f, p.files.octetsOf p.cwd x.1 = .ok octets
      ∧ (c.run ⟨x.1, contents octets, budget⟩).failure = some f
      ∧ message = "Failed to chunk " ++ x.1.text ++ ": " ++ f.message

/-- One more file in front changes nothing for the others. -/
theorem work_cons {paths : List Path} (h : Settles p c budget path s) :
    work p c budget (path :: paths)
      = { work p c budget paths with settled := (path, s) :: (work p c budget paths).settled } := by
  obtain ⟨octets, hoctets, hattempt⟩ := h
  simp only [work, hoctets, hattempt]

/-- **Files that can be read are all settled, each by itself**, and the work on them is never
broken off. -/
theorem work_settled (hbudget : checkBudget budget = .ok ()) {files : List Path}
    (hreadable : ∀ path ∈ files, Readable p path) :
    (work p c budget files).trouble = none
      ∧ Settlement p c budget files (work p c budget files).settled := by
  induction files with
  | nil =>
    refine ⟨rfl, rfl, ?_, ?_⟩
    · exact fun x hx => absurd hx List.not_mem_nil
    · exact fun x hx => absurd hx List.not_mem_nil
  | cons path paths ih =>
    obtain ⟨s, hs⟩ := exists_settles (c := c) hbudget (hreadable path List.mem_cons_self)
    obtain ⟨htrouble, hsettled⟩ := ih fun q hq => hreadable q (List.mem_cons_of_mem _ hq)
    rw [work_cons hs]
    refine ⟨htrouble, ?_, ?_, ?_⟩
    · exact congrArg (path :: ·) hsettled.files_eq
    · intro x hx
      rcases List.mem_cons.mp hx with rfl | hx
      · exact hs
      · exact hsettled.alone x hx
    · intro x hx
      rcases List.mem_cons.mp hx with rfl | hx
      · exact hs.failed_iff hbudget
      · exact hsettled.named x hx

/-! ## §3. Which files failed. -/

/-- The chunks to be reported are those of the files that were chunked. -/
theorem mem_placed_chunks {os : Outcomes} {y : Path × Chunk} :
    y ∈ placed os.chunks ↔ ∃ x ∈ os.settled, y.1 = x.1 ∧ y.2 ∈ x.2.outcome.chunks := by
  rw [mem_placed]
  constructor
  · rintro ⟨f, hf, hpath, hy⟩
    obtain ⟨⟨path, s⟩, hx, hchunked⟩ := List.mem_filterMap.mp hf
    cases houtcome : s.outcome with
    | chunked cs =>
      simp only [houtcome, Option.some.injEq] at hchunked
      subst hchunked
      exact ⟨(path, s), hx, hpath, by rw [houtcome]; exact hy⟩
    | skipped message => simp [houtcome] at hchunked
    | failed message => simp [houtcome] at hchunked
  · rintro ⟨⟨path, s⟩, hx, hpath, hy⟩
    cases houtcome : s.outcome with
    | chunked cs =>
      rw [houtcome] at hy
      exact ⟨⟨path, cs⟩, List.mem_filterMap.mpr ⟨(path, s), hx, by simp only [houtcome]⟩, hpath, hy⟩
    | skipped message =>
      rw [houtcome] at hy
      exact absurd hy List.not_mem_nil
    | failed message =>
      rw [houtcome] at hy
      exact absurd hy List.not_mem_nil

/-- No file is counted as failed just if all were packed. -/
theorem failures_eq_zero_iff {os : Outcomes} :
    os.failures = 0 ↔ ∀ x ∈ os.settled, x.2.outcome.isSuccess = true := by
  simp only [Outcomes.failures, List.countP_eq_zero, Bool.not_eq_true', Bool.not_eq_false]

/-! ## §4. The run. -/

/-- The arguments ask for files to be chunked, the settings that hold for it are acceptable, and all
files can be read. -/
structure Ordered (p : Place) (args : List String) (v : Verbosity) (o : ChunkOrder)
    (config : Config) (files : List Path) : Prop where
  request_eq : request p.presence args = ⟨some v, .ok (.chunk o)⟩
  config_eq : ∃ base, p.settings.result = .ok base ∧ base.overlay o.data = .ok config
  files_eq : o.paths.flatMap p.filesOf = files
  readable : ∀ path ∈ files, Readable p path

/-- What a run tells of files once they are settled. -/
structure Tells (count : Tokenizer) (v : Verbosity) (json : Bool) (os : Outcomes) (r : Run) :
    Prop where
  /-- Where every chunk has a size and all numbers can be written, the chunks of all files that were
  chunked are printed, in the order of the files, and the other files are complained of. -/
  printed : (∀ x ∈ placed os.chunks, Sized count x) →
    (∀ x ∈ placed os.chunks, Writable count json x.2) →
    r.out = Report.printed count json (placed os.chunks) ∧ r.err = os.complaints v.quiet
  /-- The first chunk without a size ends the run: nothing is printed, and the trouble is told
  without the name of a file. -/
  brokenOff : ∀ before x after f, placed os.chunks = before ++ x :: after →
    (∀ y ∈ before, Sized count y) → count x.2.content = .error f →
    r.out = "" ∧ r.err = os.complaints v.quiet ++ (Trouble.ofFailure f).text .chunk v.verbose
  /-- So does a number of too many digits once all chunks are counted. -/
  unwritable : (∀ x ∈ placed os.chunks, Sized count x) →
    ∀ x ∈ placed os.chunks, ¬ Writable count json x.2 →
    r.out = "" ∧ r.err = os.complaints v.quiet
      ++ (Trouble.ofFailure (.badValue Decimal.tooLong)).text .chunk v.verbose
  /-- The exit code is one if some file failed, -/
  failing : (∃ x ∈ os.settled, Fails count json x.2) → r.exitCode = 1
  /-- and zero otherwise. -/
  passing : (∀ x ∈ os.settled, ¬ Fails count json x.2) → r.exitCode = 0

variable {t : Tools} {args : List String} {v : Verbosity} {o : ChunkOrder} {config : Config}
  {files : List Path}

/-- Settings that hold leave room for something in a chunk. -/
theorem Ordered.checkBudget (h : Ordered p args v o config files) :
    Packing.checkBudget config.chunking.maxChunkSize = .ok () := by
  obtain ⟨base, hbase, hoverlay⟩ := h.config_eq
  exact checkBudget_of_notPositive ((accepted_cascade hbase).overlay hoverlay).maxChunkSize

/-- The tokenizer of the run. -/
def counter (t : Tools) (config : Config) : Tokenizer :=
  steady config.encoding (t.encoding config.encoding)

/-- The chunker of the run. -/
def packer (t : Tools) (config : Config) : Chunker := ⟨t.parse, counter t config⟩

/-- The outcomes of the run. -/
def outcomes (t : Tools) (p : Place) (config : Config) (files : List Path) : Outcomes :=
  work p (packer t config) config.chunking.maxChunkSize files

/-- Without a file the command is refused. -/
theorem Ordered.chunkCommand_of_nil (h : Ordered p args v o config []) (quiet : Bool) :
    (chunkCommand t p quiet o).out = "" ∧ (chunkCommand t p quiet o).err = ""
      ∧ (chunkCommand t p quiet o).ending = .error noFiles := by
  obtain ⟨base, hbase, hoverlay⟩ := h.config_eq
  unfold chunkCommand
  simp only [hbase, hoverlay, h.files_eq, and_self]

/-- The command complains of files either way; it prints the report if there is one, and ends in
trouble if there is none. -/
theorem Ordered.chunkCommand_tells (h : Ordered p args v o config files) (hfile : files ≠ [])
    (quiet : Bool) :
    (chunkCommand t p quiet o).err = (outcomes t p config files).complaints quiet
      ∧ (∀ text,
          reportText (counter t config) o.json (outcomes t p config files).chunks = .ok text →
          (chunkCommand t p quiet o).out = text
          ∧ (chunkCommand t p quiet o).ending = .ok (outcomes t p config files).failures)
      ∧ (∀ f, reportText (counter t config) o.json (outcomes t p config files).chunks = .error f →
          (chunkCommand t p quiet o).out = ""
          ∧ (chunkCommand t p quiet o).ending = .error (Trouble.ofFailure f)) := by
  obtain ⟨base, hbase, hoverlay⟩ := h.config_eq
  have hwork := (work_settled (c := packer t config) h.checkBudget h.readable).1
  have hfiles := h.files_eq
  obtain ⟨path, paths, hcons⟩ := List.exists_cons_of_ne_nil hfile
  subst hcons
  unfold outcomes packer counter
  unfold packer counter at hwork
  unfold chunkCommand
  simp only [hbase, hoverlay, hfiles, hwork]
  cases reportText (steady config.encoding (t.encoding config.encoding)) o.json
      (work p ⟨t.parse, steady config.encoding (t.encoding config.encoding)⟩
        config.chunking.maxChunkSize (path :: paths)).chunks with
  | ok text =>
    refine ⟨rfl, ?_, ?_⟩
    · intro _ htext
      cases htext
      exact ⟨rfl, rfl⟩
    · intro _ hf
      cases hf
  | error f =>
    refine ⟨rfl, ?_, ?_⟩
    · intro _ htext
      cases htext
    · intro _ hf
      cases hf
      exact ⟨rfl, rfl⟩

variable {width : Nat} {programName : String} {action : Action}

/-- A run whose command comes to its end. -/
theorem perform_of_ok {failures : Nat} (hrequest : request p.presence args = ⟨some v, .ok action⟩)
    (hending : (action.perform t p v.quiet).ending = .ok failures) :
    (perform t p width programName args).out = (action.perform t p v.quiet).out
      ∧ (perform t p width programName args).err = (action.perform t p v.quiet).err
      ∧ (perform t p width programName args).exitCode = if failures = 0 then 0 else 1 := by
  unfold perform
  simp only [hrequest, Option.getD_some, hending, and_self]

/-- A run whose command ends in trouble. -/
theorem perform_of_error {trouble : Trouble}
    (hrequest : request p.presence args = ⟨some v, .ok action⟩)
    (hending : (action.perform t p v.quiet).ending = .error trouble) :
    (perform t p width programName args).out = (action.perform t p v.quiet).out
      ∧ (perform t p width programName args).err
          = (action.perform t p v.quiet).err ++ trouble.text action.page v.verbose
      ∧ (perform t p width programName args).exitCode = 1 := by
  unfold perform
  simp only [hrequest, Option.getD_some, hending, and_self]

/-- A run without a file. -/
theorem Ordered.perform_of_nil (h : Ordered p args v o config []) :
    (perform t p width programName args).out = ""
      ∧ (perform t p width programName args).err = noFiles.text .chunk v.verbose
      ∧ (perform t p width programName args).exitCode = 1 := by
  obtain ⟨hout, herr, hending⟩ := h.chunkCommand_of_nil (t := t) v.quiet
  obtain ⟨hout', herr', hcode⟩ := perform_of_error h.request_eq hending
  refine ⟨hout'.trans hout, herr'.trans ?_, hcode⟩
  exact (congrArg (· ++ _) herr).trans String.empty_append

/-- A run with a report. -/
theorem Ordered.perform_of_report (h : Ordered p args v o config files) (hfile : files ≠ [])
    {text : String}
    (hreport : reportText (counter t config) o.json (outcomes t p config files).chunks = .ok text) :
    (perform t p width programName args).out = text
      ∧ (perform t p width programName args).err = (outcomes t p config files).complaints v.quiet
      ∧ (perform t p width programName args).exitCode
          = if (outcomes t p config files).failures = 0 then 0 else 1 := by
  obtain ⟨herr, hok, -⟩ := h.chunkCommand_tells (t := t) hfile v.quiet
  obtain ⟨hout, hending⟩ := hok text hreport
  obtain ⟨hout', herr', hcode⟩ := perform_of_ok h.request_eq hending
  exact ⟨hout'.trans hout, herr'.trans herr, hcode⟩

/-- A run without one. -/
theorem Ordered.perform_of_no_report (h : Ordered p args v o config files) (hfile : files ≠ [])
    {f : Failure}
    (hreport : reportText (counter t config) o.json (outcomes t p config files).chunks = .error f) :
    (perform t p width programName args).out = ""
      ∧ (perform t p width programName args).err
          = (outcomes t p config files).complaints v.quiet
            ++ (Trouble.ofFailure f).text .chunk v.verbose
      ∧ (perform t p width programName args).exitCode = 1 := by
  obtain ⟨herr, -, herror⟩ := h.chunkCommand_tells (t := t) hfile v.quiet
  obtain ⟨hout, hending⟩ := herror f hreport
  obtain ⟨hout', herr', hcode⟩ := perform_of_error h.request_eq hending
  refine ⟨hout'.trans hout, herr'.trans ?_, hcode⟩
  exact congrArg (· ++ _) herr

/-- **THE MANY FILES THEOREM.**  For every list of files that can be read, all settings that are
accepted and all tools: every file is settled by itself, and a file that cannot be packed is
reported under its own name; the exit code is one just if some file failed, in its packing, in the
size of a chunk or in a number that JSON cannot hold.  The chunks of all files that were chunked are
printed in the order of the files just where all of them have sizes that can be written; otherwise
nothing is printed.  A run over no files is refused. -/
theorem perform_tells (h : Ordered p args v o config files) :
    Settlement p (packer t config) config.chunking.maxChunkSize files
        (outcomes t p config files).settled
      ∧ (files ≠ [] → Tells (counter t config) v o.json (outcomes t p config files)
          (perform t p width programName args))
      ∧ (files = [] → (perform t p width programName args).out = ""
          ∧ (perform t p width programName args).err = noFiles.text .chunk v.verbose
          ∧ (perform t p width programName args).exitCode = 1) := by
  refine ⟨(work_settled h.checkBudget h.readable).2, fun hfile => ⟨?_, ?_, ?_, ?_, ?_⟩, ?_⟩
  · intro hsized hwritable
    obtain ⟨hout, herr, -⟩ :=
      h.perform_of_report hfile (reportText_of_sized o.json hsized hwritable)
    exact ⟨hout, herr⟩
  · intro before x after f hplaced hbefore hx
    obtain ⟨hout, herr, -⟩ :=
      h.perform_of_no_report hfile (reportText_of_unsized o.json hplaced hbefore hx)
    exact ⟨hout, herr⟩
  · intro hsized x hx hlong
    obtain ⟨hout, herr, -⟩ :=
      h.perform_of_no_report hfile (reportText_of_unwritable hsized hx hlong)
    exact ⟨hout, herr⟩
  · -- A file that failed is counted, or one of its chunks cannot be reported.
    rintro ⟨x, hx, hfails⟩
    rcases printable_or_broken (counter t config) o.json (outcomes t p config files).chunks with
      ⟨hsized, hwritable⟩ | ⟨f, hreport, -⟩
    · obtain ⟨-, -, hcode⟩ :=
        h.perform_of_report hfile (reportText_of_sized o.json hsized hwritable)
      rw [hcode, if_neg]
      rw [failures_eq_zero_iff]
      intro hall
      rcases hfails with hfailed | ⟨ch, hch, hreason⟩
      · rw [hall x hx] at hfailed
        cases hfailed
      · have hplaced : (x.1, ch) ∈ placed (outcomes t p config files).chunks :=
          mem_placed_chunks.mpr ⟨x, hx, rfl, hch⟩
        rcases hreason with ⟨f, hf⟩ | hlong
        · obtain ⟨n, hn⟩ := hsized _ hplaced
          rw [hf] at hn
          cases hn
        · exact hlong (hwritable _ hplaced)
    · exact (h.perform_of_no_report hfile hreport).2.2
  · -- Where no file failed, all chunks can be reported and nothing is counted.
    intro hpass
    rcases printable_or_broken (counter t config) o.json (outcomes t p config files).chunks with
      ⟨hsized, hwritable⟩ | ⟨f, -, y, hy, hreason⟩
    · obtain ⟨-, -, hcode⟩ :=
        h.perform_of_report hfile (reportText_of_sized o.json hsized hwritable)
      rw [hcode, if_pos]
      rw [failures_eq_zero_iff]
      intro x hx
      exact Bool.eq_true_of_not_eq_false fun hfailed => hpass x hx (.inl hfailed)
    · obtain ⟨x, hx, -, hch⟩ := mem_placed_chunks.mp hy
      exact absurd (.inr ⟨y.2, hch, hreason⟩) (hpass x hx)
  · rintro rfl
    exact h.perform_of_nil

/-! ## §5. A file that spoils another. -/

namespace Sample

/-- A project with a file of one line and a file of two. -/
def place : Place where
  surroundings := { assigned := [("HOME", "/home")] }
  files := ⟨[(["proj"], .directory), (["proj", "good.py"], .file (Utf8.encodeString "x = 1")),
    (["proj", "bad.py"], .file (Utf8.encodeString "a\nb"))]⟩
  cwd := ["proj"]

/-- Tools that find no declarations, and whose encoding counts words but fails on the two lines of
the second file as soon as they are one text. -/
def tools : Tools where
  parse := fun _ _ => .ok (some (.node "module" ⟨0, 5, 0, 0⟩ []))
  encoding :=
    Encodings.find [(defaultEncoding, { failOn := some ("a\nb", .breakdown "tokenizer down") })]

/-- The arguments. -/
def typed : List String := ["chunk", "good.py", "bad.py"]

/-- What they order. -/
def order : ChunkOrder := { paths := ["good.py", "bad.py"] }

/-- The two files. -/
def paths : List Path := [⟨0, ["good.py"]⟩, ⟨0, ["bad.py"]⟩]

theorem ordered : Ordered place typed {} order {} paths where
  request_eq := rfl
  config_eq := ⟨{}, by decide, rfl⟩
  files_eq := by decide
  readable := by
    intro path hpath
    simp only [paths, List.mem_cons, List.not_mem_nil, or_false] at hpath
    rcases hpath with rfl | rfl
    · exact ⟨Utf8.encodeString "x = 1", by decide⟩
    · exact ⟨Utf8.encodeString "a\nb", by decide⟩

/-- Both files are chunked, -/
theorem outcomes_eq : (outcomes tools place {} paths).settled.map (fun x => (x.1, x.2.outcome))
    = [(⟨0, ["good.py"]⟩, .chunked [⟨"x = 1\n", 1, 1⟩]),
      (⟨0, ["bad.py"]⟩, .chunked [⟨"a\nb\n", 1, 2⟩])] := by
  decide

/-- the chunk of the first has a size, -/
theorem counter_eq : counter tools {} "x = 1\n" = .ok 3 := by decide

/-- and nothing is printed. -/
theorem out_eq : (perform tools place 80 "cli" typed).out = "" := by decide

end Sample

/-- The run over the two files. -/
theorem sample_tells : Ordered Sample.place Sample.typed {} Sample.order {} Sample.paths
    ∧ Settlement Sample.place (packer Sample.tools {}) (.whole 512) Sample.paths
        (outcomes Sample.tools Sample.place {} Sample.paths).settled
    ∧ Tells (counter Sample.tools {}) {} false (outcomes Sample.tools Sample.place {} Sample.paths)
        (perform Sample.tools Sample.place 80 "cli" Sample.typed) := by
  obtain ⟨hsettlement, htells, -⟩ := perform_tells (t := Sample.tools) Sample.ordered
  exact ⟨Sample.ordered, hsettlement, htells (List.cons_ne_nil _ _)⟩

/-- **One file can spoil a run for another**: nothing goes wrong with the first file, but its chunk
is not in the listing, since the chunk of the second has no size. -/
theorem exists_file_spoiled :
    ¬ ∀ (t : Tools) (p : Place) (width : Nat) (programName : String) (args : List String)
      (v : Verbosity) (o : ChunkOrder) (config : Config) (files : List Path)
      (settled : List (Path × Settled)),
      Ordered p args v o config files → o.json = false →
      Settlement p (packer t config) config.chunking.maxChunkSize files settled →
      ∀ x ∈ settled, ¬ Fails (counter t config) o.json x.2 → ∀ ch ∈ x.2.outcome.chunks,
        occursIn ch.content.toList (perform t p width programName args).out.toList = true := by
  intro hclaim
  have hsettled := (work_settled (c := packer Sample.tools {}) Sample.ordered.checkBudget
    Sample.ordered.readable).2
  obtain ⟨x, hx, houtcome⟩ := List.mem_map.mp
    (Sample.outcomes_eq.symm ▸ List.mem_cons_self :
      ((⟨0, ["good.py"]⟩, .chunked [⟨"x = 1\n", 1, 1⟩]) : Path × Outcome)
        ∈ (outcomes Sample.tools Sample.place {} Sample.paths).settled.map
          fun x => (x.1, x.2.outcome))
  have hchunks : x.2.outcome = .chunked [⟨"x = 1\n", 1, 1⟩] := congrArg Prod.snd houtcome
  have hfine : ¬ Fails (counter Sample.tools {}) false x.2 := by
    unfold Fails
    rw [hchunks]
    rintro (hfailed | ⟨ch, hch, ⟨f, hf⟩ | hlong⟩)
    · cases hfailed
    · rw [List.mem_singleton.mp hch, Sample.counter_eq] at hf
      cases hf
    · exact hlong nofun
  have hprinted := hclaim Sample.tools Sample.place 80 "cli" Sample.typed {} Sample.order {}
    Sample.paths _ Sample.ordered rfl hsettled x hx hfine ⟨"x = 1\n", 1, 1⟩ (by
      rw [hchunks]
      exact List.mem_singleton.mpr rfl)
  rw [Sample.out_eq] at hprinted
  revert hprinted
  decide

end Breadcrumb.CommandLine
