/-
  Breadcrumb.Proofs.Packing.Verbatim
  ──────────────────────────────────
  **THE BODY OF A CHUNK IS A STRETCH OF THE FILE AS IT STANDS.**

  Lines that fill the budget alone are dropped, and still no chunk has a hole: a
  line that fills the budget is always over the limit, so what was kept before it
  is closed, and it is dropped at the head of the next piece.  After every line
  the piece at hand is therefore

      dropped lines, from its first line on
      kept lines, up to the line just read

  (`Aligned`), and a piece that is closed is cut out of the file that way
  (`CutFrom`).  This asks of the tokenizer that it never gives a negative number.
-/
import Breadcrumb.Proofs.Packing.Coverage

namespace Breadcrumb.Packing

open Breadcrumb.Text

variable {p : Plan} {t : String → Int} {B : Int}

/-! ## §1. Stretches of a file. -/

/-- The lines with the numbers `first` to `last`. -/
def between (file : List Line) (first last : Nat) : List Line := (file.take last).drop (first - 1)

/-- More lines at the end change no stretch before them. -/
theorem between_append {file : List Line} {first last : Nat} (more : List Line)
    (h : last ≤ file.length) : between (file ++ more) first last = between file first last := by
  unfold between
  rw [List.take_append_of_le_length h]

/-- A stretch up to the last line is all that is left behind the lines before it. -/
theorem between_length (file : List Line) (first : Nat) :
    between file first file.length = file.drop (first - 1) := by
  unfold between
  rw [List.take_length]

/-- One more line at the end goes on with the stretch up to it. -/
theorem between_concat {file : List Line} {l : Line} {first : Nat} (h : first ≤ file.length + 1) :
    between (file ++ [l]) first (file.length + 1) = between file first file.length ++ [l] := by
  rw [between_length]
  unfold between
  rw [List.take_of_length_le (by simp), List.drop_append_of_le_length (by omega)]

/-- No line lies between a number and the one before it. -/
theorem between_pred (file : List Line) {first last : Nat} (h : last < first) :
    between file first last = [] := by
  unfold between
  apply List.drop_eq_nil_of_le
  rw [List.length_take]
  omega

/-- A stretch from a line of the file up to the same or a later one holds a line. -/
theorem between_ne_nil {file : List Line} {first last : Nat} (hpos : 0 < first)
    (hle : first ≤ last) (hlast : last ≤ file.length) : between file first last ≠ [] := by
  apply List.length_pos_iff.mp
  unfold between
  rw [List.length_drop, List.length_take]
  omega

theorem mem_of_mem_between {file : List Line} {first last : Nat} {l : Line}
    (h : l ∈ between file first last) : l ∈ file := by
  unfold between at h
  exact List.mem_of_mem_take (List.mem_of_mem_drop h)

/-- Where a breadcrumb comes from: there is none, or it shows what is collected at one of the
lines from `first` to `last`. -/
def CollectedAt (p : Plan) (first last : Nat) (crumbs : List Capture) : Prop :=
  crumbs = [] ∨ ∃ row cursor, first ≤ row + 1 ∧ row + 1 ≤ last
    ∧ crumbs = (p.scope.collect p.root row cursor).1

/-- A piece cut out of a file: the lines before `first` fill the budget alone, those from there
on do not, and these make its body. -/
structure CutFrom (p : Plan) (B : Int) (file : List Line) (first : Nat) (q : Piece) : Prop where
  start_pos : 0 < q.startLine
  start_le : q.startLine ≤ first
  le_end : first ≤ q.endLine
  end_le : q.endLine ≤ file.length
  /-- The lines before the body were dropped. -/
  dropped : ∀ l ∈ between file q.startLine (first - 1), B ≤ l.tokens
  /-- The lines of the body were kept. -/
  kept : ∀ l ∈ between file first q.endLine, l.tokens < B
  /-- The body has all of them, in order. -/
  lines_eq : q.lines = between file first q.endLine
  /-- The breadcrumb was collected no later than at the first line of the body. -/
  crumbs : CollectedAt p q.startLine first q.crumbs

theorem CutFrom.lines_ne_nil {file : List Line} {first : Nat} {q : Piece}
    (h : CutFrom p B file first q) : q.lines ≠ [] := by
  rw [h.lines_eq]
  exact between_ne_nil (Nat.lt_of_lt_of_le h.start_pos h.start_le) h.le_end h.end_le

/-- A piece is cut out of a file however the file goes on. -/
theorem CutFrom.append {file : List Line} {first : Nat} {q : Piece} (h : CutFrom p B file first q)
    (more : List Line) : CutFrom p B (file ++ more) first q where
  start_pos := h.start_pos
  start_le := h.start_le
  le_end := h.le_end
  end_le := by
    rw [List.length_append]
    exact Nat.le_add_right_of_le h.end_le
  dropped := by
    have hle := h.le_end
    rw [between_append more (by have := h.end_le; omega)]
    exact h.dropped
  kept := by
    rw [between_append more h.end_le]
    exact h.kept
  lines_eq := by
    rw [between_append more h.end_le]
    exact h.lines_eq
  crumbs := h.crumbs

/-! ## §2. What holds after every line. -/

/-- After the lines `done`: the piece at hand dropped the lines before `first` and kept the
others. -/
structure Aligned (p : Plan) (B : Int) (done : List Line) (s : State) (first : Nat) : Prop where
  start_pos : 0 < s.start
  start_le : s.start ≤ first
  first_le : first ≤ done.length + 1
  dropped : ∀ l ∈ between done s.start (first - 1), B ≤ l.tokens
  kept : ∀ l ∈ s.kept, l.tokens < B
  kept_eq : s.kept = done.drop (first - 1)
  crumbs : CollectedAt p s.start first s.crumbs

/-- A piece that is closed with something in it is cut out of the lines read. -/
theorem Aligned.close {done : List Line} {s : State} {first : Nat} (h : Aligned p B done s first)
    (filled : s.kept ≠ []) :
    CutFrom p B done first (s.close done.length) where
  start_pos := h.start_pos
  start_le := h.start_le
  le_end := by
    show first ≤ done.length
    by_contra hlt
    apply filled
    rw [h.kept_eq]
    exact List.drop_eq_nil_of_le (by omega)
  end_le := Nat.le_refl _
  dropped := h.dropped
  kept := by
    show ∀ l ∈ between done first done.length, l.tokens < B
    rw [between_length, ← h.kept_eq]
    exact h.kept
  lines_eq := by
    show s.kept = between done first done.length
    rw [between_length]
    exact h.kept_eq
  crumbs := h.crumbs

/-- A line within the limit goes on with the body. -/
theorem Aligned.stay (hp : p.Regular t B) {done : List Line} {s : State} {first : Nat} {l : Line}
    (h : Aligned p B done s first) (hfits : l.tokens < B) :
    Aligned p B (done ++ [l]) (s.take p l) first where
  start_pos := by
    rw [State.take_start]
    exact h.start_pos
  start_le := by
    rw [State.take_start]
    exact h.start_le
  first_le := by
    rw [List.length_append]
    exact Nat.le_add_right_of_le h.first_le
  dropped := by
    have hle := h.first_le
    rw [State.take_start, between_append [l] (by omega)]
    exact h.dropped
  kept := by
    rw [State.take_kept hp, fitting_of_lt hfits]
    intro k hk
    rcases List.mem_append.mp hk with hk | hk
    · exact h.kept k hk
    · rw [List.mem_singleton.mp hk]
      exact hfits
  kept_eq := by
    have hle := h.first_le
    rw [State.take_kept hp, fitting_of_lt hfits, h.kept_eq,
      List.drop_append_of_le_length (by omega)]
  crumbs := by
    rw [State.take_start, State.take_crumbs]
    exact h.crumbs

/-- Where nothing is kept and all lines since the first one were dropped, the next line begins
the body or is dropped itself. -/
theorem exists_aligned_take (hp : p.Regular t B) {done : List Line} {s : State} {l : Line}
    (hpos : 0 < s.start) (hstart : s.start ≤ done.length + 1) (hempty : s.kept = [])
    (hdropped : ∀ k ∈ between done s.start done.length, B ≤ k.tokens)
    (hcrumbs : CollectedAt p s.start (done.length + 1) s.crumbs) :
    ∃ first, Aligned p B (done ++ [l]) (s.take p l) first := by
  by_cases hfits : l.tokens < B
  · -- The line is the first of the body.
    refine ⟨done.length + 1, ?_, ?_, ?_, ?_, ?_, ?_, ?_⟩
    · rw [State.take_start]
      exact hpos
    · rw [State.take_start]
      exact hstart
    · simp
    · rw [State.take_start, Nat.add_sub_cancel, between_append [l] (Nat.le_refl _)]
      exact hdropped
    · rw [State.take_kept hp, fitting_of_lt hfits, hempty]
      intro k hk
      rw [List.mem_singleton.mp hk]
      exact hfits
    · rw [State.take_kept hp, fitting_of_lt hfits, hempty, Nat.add_sub_cancel, List.drop_left,
        List.nil_append]
    · rw [State.take_start, State.take_crumbs]
      exact hcrumbs
  · -- The line is one more that was dropped.
    have hover : B ≤ l.tokens := by omega
    refine ⟨done.length + 2, ?_, ?_, ?_, ?_, ?_, ?_, ?_⟩
    · rw [State.take_start]
      exact hpos
    · rw [State.take_start]
      exact Nat.le_succ_of_le hstart
    · simp
    · rw [State.take_start]
      show ∀ k ∈ between (done ++ [l]) s.start (done.length + 1), B ≤ k.tokens
      rw [between_concat hstart]
      intro k hk
      rcases List.mem_append.mp hk with hk | hk
      · exact hdropped k hk
      · rw [List.mem_singleton.mp hk]
        exact hover
    · rw [State.take_kept hp, fitting_of_le hover, hempty]
      intro k hk
      exact absurd hk List.not_mem_nil
    · rw [State.take_kept hp, fitting_of_le hover, hempty]
      symm
      apply List.drop_eq_nil_of_le
      simp
    · rw [State.take_start, State.take_crumbs]
      rcases hcrumbs with hnone | ⟨row, cursor, hfirst, hlast, heq⟩
      · exact .inl hnone
      · exact .inr ⟨row, cursor, hfirst, by omega, heq⟩

/-- What is collected at the line that was read is collected in the piece it begins. -/
theorem collectedAt_collect {s : State} {row first : Nat} (h : first ≤ row + 1) :
    CollectedAt p first (row + 1) (s.collect p row).crumbs :=
  .inr ⟨row, s.cursor, h, Nat.le_refl _, rfl⟩

/-- **One line keeps the piece at hand aligned.** -/
theorem Aligned.read (hp : p.Regular t B) (hnonneg : ∀ s, 0 ≤ t s) {done : List Line} {s s' : State}
    {first : Nat} {l : Line} {out : Option Piece} (h : Aligned p B done s first)
    (hused : 0 ≤ s.used) (hrow : l.row = done.length) (hsteps : Steps p t B s l s' out) :
    ∃ first', Aligned p B (done ++ [l]) s' first' := by
  cases hsteps with
  | stay within =>
    -- A line within the limit does not fill the budget.
    have hcrumbs := hnonneg (Scope.breadcrumb s.crumbs)
    unfold State.load margin at within
    exact ⟨first, h.stay hp (by omega)⟩
  | turn beyond empty =>
    -- Nothing is kept, so the dropped lines run up to the line before this one.
    have hfirst : first = done.length + 1 := by
      have hnil := h.kept_eq
      rw [empty] at hnil
      have hlength := List.drop_eq_nil_iff.mp hnil.symm
      have hpos := h.start_pos
      have hstart := h.start_le
      have hle := h.first_le
      omega
    have hstart : s.start ≤ done.length + 1 := by
      have hle := h.start_le
      omega
    have hdropped := h.dropped
    rw [hfirst, Nat.add_sub_cancel] at hdropped
    refine exists_aligned_take hp h.start_pos hstart empty hdropped ?_
    rw [hrow]
    exact collectedAt_collect hstart
  | cut beyond filled =>
    -- The new piece begins at this line.
    have hstart : ((s.reopen l.row).collect p l.row).start = done.length + 1 := by
      rw [State.collect_start, State.reopen_start, hrow]
    refine exists_aligned_take hp ?_ (Nat.le_of_eq hstart) rfl ?_ ?_
    · rw [hstart]
      exact Nat.succ_pos _
    · rw [hstart, between_pred done (Nat.lt_succ_self _)]
      intro k hk
      exact absurd hk List.not_mem_nil
    · rw [hstart, hrow]
      exact collectedAt_collect (Nat.le_refl _)

/-- The piece at hand is aligned all the way through a file. -/
theorem Reach.aligned (hp : p.Regular t B) (hnonneg : ∀ s, 0 ≤ t s) {done : List Line} {s : State}
    {pieces : List Piece} (h : Reach p t B done s pieces) (hrows : InRows done)
    (htokens : ∀ l ∈ done, 0 ≤ l.tokens) :
    ∃ first, Aligned p B done s first := by
  induction h with
  | start =>
    refine ⟨1, Nat.one_pos, Nat.le_refl 1, Nat.le_refl 1, ?_, ?_, rfl, .inl rfl⟩
    · intro l hl
      exact absurd hl List.not_mem_nil
    · intro l hl
      exact absurd hl List.not_mem_nil
  | @read done s s' pieces l out before steps ih =>
    have hdone : ∀ k ∈ done, 0 ≤ k.tokens := fun k hk => htokens k (List.mem_append_left _ hk)
    obtain ⟨first, haligned⟩ := ih hrows.of_append hdone
    exact haligned.read hp hnonneg (before.used_nonneg hp hdone) hrows.row_eq steps

/-! ## §3. A file. -/

/-- **A piece that was closed is cut out of the file.** -/
theorem Closed.cutFrom (hp : p.Regular t B) (hnonneg : ∀ s, 0 ≤ t s) {file : List Line} {q : Piece}
    (h : Closed p t B file q) (hrows : InRows file) (htokens : ∀ l ∈ file, 0 ≤ l.tokens) :
    ∃ first, CutFrom p B file first q := by
  obtain ⟨done, rest, s, pieces, rfl, hreach, filled, rfl, -⟩ := h
  obtain ⟨first, haligned⟩ := hreach.aligned hp hnonneg hrows.of_append
    fun l hl => htokens l (List.mem_append_left rest hl)
  exact ⟨first, (haligned.close filled).append rest⟩

theorem tokens_nonneg_of_mem_measuredLines {t : String → Int} (hnonneg : ∀ s, 0 ≤ t s)
    {contents : String} : ∀ l ∈ measuredLines t contents, 0 ≤ l.tokens := by
  intro l hl
  rw [tokens_of_mem_measuredLines hl]
  exact hnonneg l.text

/-- **The bodies of a complete run are the lines that fit**, each once and in order, but for
blank ones at the end. -/
theorem Completed.flatMap_lines (hp : p.Regular t B) {contents : String} {pieces : List Piece}
    (h : Completed p t B contents pieces) :
    ∃ tail, pieces.flatMap Piece.lines ++ tail = fitting B (measuredLines t contents)
      ∧ ∀ l ∈ tail, allBlank l.text = true := by
  rcases h with ⟨hblank, rfl⟩ | ⟨s, before, hreach, rfl⟩
  · refine ⟨fitting B (measuredLines t contents), rfl, ?_⟩
    intro l hl
    have hmem := List.mem_of_mem_filter hl
    exact allBlank_of_mem_lines hblank (text_mem_of_mem_measuredLines hmem)
  · have hlines := hreach.flatMap_lines hp
    rcases finish_cases s (measuredLines t contents).length with
      ⟨hall, hfinish⟩ | ⟨-, hfinish⟩
    · -- What is kept at the end is the blank tail.
      rw [hfinish, Option.toList_none, List.append_nil]
      exact ⟨s.kept, hlines, hall⟩
    · -- What is kept at the end is the body of the last piece.
      refine ⟨[], ?_, fun l hl => absurd hl List.not_mem_nil⟩
      rw [hfinish, Option.toList_some, List.flatMap_append, List.flatMap_singleton,
        List.append_nil]
      exact hlines

/-- **THE VERBATIM THEOREM.**  For every text, tree, positive budget and tokenizer that neither
fails nor gives a negative number, a run over the text succeeds; every chunk is a breadcrumb and
then a stretch of lines that fit, each as it stands and ended, behind lines that were dropped;
and the bodies together are all lines that fit but for a blank tail. -/
theorem chunkFile_verbatim {c : Chunker} {path : Path} {contents : String} {root : Node}
    {t : String → Int} {B : Int} (hB : 0 < B) (hparse : c.parse path contents = .ok (some root))
    (hcount : ∀ s, c.count s = .ok (t s)) (hnonneg : ∀ s, 0 ≤ t s) :
    ∃ r, c.chunkFile ⟨path, contents, .whole B⟩ = .ok r ∧ r.failure = none
      ∧ (∀ q ∈ r.pieces, ∃ first,
          CutFrom (c.plan ⟨path, contents, .whole B⟩ root) B (measuredLines t contents) first q
            ∧ q.chunk = ⟨Scope.breadcrumb q.crumbs
                ++ bodyText (between (measuredLines t contents) first q.endLine),
                q.startLine, q.endLine⟩)
      ∧ ∃ tail, r.pieces.flatMap Piece.lines ++ tail = fitting B (measuredLines t contents)
        ∧ ∀ l ∈ tail, allBlank l.text = true := by
  obtain ⟨r, hrun, hok, hdone⟩ := chunkFile_completed hB hparse hcount
  have hregular : (c.plan ⟨path, contents, .whole B⟩ root).Regular t B := ⟨hcount, rfl⟩
  refine ⟨r, hrun, hok, ?_, hdone.flatMap_lines hregular⟩
  intro q hq
  obtain ⟨first, hcut⟩ := (hdone.closed q hq).cutFrom hregular hnonneg
    (inRows_measuredLines t contents) (tokens_nonneg_of_mem_measuredLines hnonneg)
  refine ⟨first, hcut, ?_⟩
  rw [← hcut.lines_eq]
  rfl

/-- The sample under a budget of fourteen words: words are never negative. -/
theorem sample_verbatim :
    (0 : Int) < 14 ∧ Sample.chunker.parse Sample.path Sample.contents = .ok (some Sample.tree)
      ∧ (∀ s, (0 : Int) ≤ (words s : Nat))
      ∧ ∃ r, Sample.chunker.chunkFile ⟨Sample.path, Sample.contents, .whole 14⟩ = .ok r
        ∧ r.failure = none
        ∧ (∀ q ∈ r.pieces, ∃ first,
            CutFrom (Sample.chunker.plan ⟨Sample.path, Sample.contents, .whole 14⟩ Sample.tree) 14
              (measuredLines (fun s => (words s : Nat)) Sample.contents) first q
            ∧ q.chunk = ⟨Scope.breadcrumb q.crumbs
                ++ bodyText (between (measuredLines (fun s => (words s : Nat)) Sample.contents)
                  first q.endLine), q.startLine, q.endLine⟩)
        ∧ ∃ tail, r.pieces.flatMap Piece.lines ++ tail
            = fitting 14 (measuredLines (fun s => (words s : Nat)) Sample.contents)
          ∧ ∀ l ∈ tail, allBlank l.text = true :=
  ⟨by decide, rfl, fun _ => Int.natCast_nonneg _,
    chunkFile_verbatim (by decide) rfl (fun _ => rfl) fun _ => Int.natCast_nonneg _⟩

end Breadcrumb.Packing
