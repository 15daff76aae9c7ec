/-
  Breadcrumb.Proofs.Packing.Greedy
  ────────────────────────────────
  **A CHUNK IS CLOSED EXACTLY WHERE THE NEXT LINE DOES NOT FIT.**

  The limit is the budget less the margin.  With the breadcrumb that a chunk shows
  in the end, every line of its body but the first was within the limit when it
  was taken in (`Snug`), and the line after the body is over it.  The breadcrumb
  is the right one because it never changes while something is kept: it is
  collected where the body begins or before.

  So a body of two lines or more leaves four tokens of the budget free, and only
  a body of one line can take a chunk over the limit.
-/
import Breadcrumb.Proofs.Packing.Verbatim

namespace Breadcrumb.Packing

open Breadcrumb.Text

variable {p : Plan} {t : String → Int} {B : Int}

/-! ## §1. Bodies within the limit. -/

/-- Under a breadcrumb of `c` tokens, every line of a body but the first is within the limit
together with those before it. -/
def Snug (B c : Int) (ls : List Line) : Prop :=
  ∀ before l after, ls = before ++ l :: after → before ≠ [] →
    c + cost before + l.tokens ≤ B - margin

/-- At most one line is snug whatever its tokens. -/
theorem snug_of_length_le_one {B c : Int} {ls : List Line} (h : ls.length ≤ 1) : Snug B c ls := by
  intro before l after heq hne
  have hpos := List.length_pos_iff.mpr hne
  rw [heq, List.length_append, List.length_cons] at h
  omega

/-- A line that is within the limit goes on with a snug body. -/
theorem snug_concat {B c : Int} {ls : List Line} {k : Line} (h : Snug B c ls)
    (hk : c + cost ls + k.tokens ≤ B - margin) : Snug B c (ls ++ [k]) := by
  intro before l after heq hne
  rcases List.eq_nil_or_concat after with rfl | ⟨more, m, rfl⟩
  · -- The line is the last one.
    obtain ⟨rfl, hlast⟩ := List.append_inj' heq rfl
    rw [← (List.cons.inj hlast).1]
    exact hk
  · -- The line was there before.
    rw [List.concat_eq_append, ← List.cons_append, ← List.append_assoc] at heq
    exact h before l more (List.append_inj' heq rfl).1 hne

/-- A snug body of two lines or more is at most one over the limit. -/
theorem cost_le_of_snug {B c : Int} {ls : List Line} (h : Snug B c ls) (htwo : 2 ≤ ls.length) :
    c + cost ls ≤ B - 4 := by
  rcases List.eq_nil_or_concat ls with rfl | ⟨before, l, rfl⟩
  · simp at htwo
  · rw [List.concat_eq_append, List.length_append, List.length_singleton] at htwo
    have hne : before ≠ [] := List.length_pos_iff.mp (by omega)
    have hlast := h before l [] (List.concat_eq_append ..) hne
    unfold margin at hlast
    rw [List.concat_eq_append, cost_append, cost_singleton]
    omega

/-- A stretch splits at each of its lines. -/
theorem between_split {file : List Line} (h : InRows file) {l : Line} (hl : l ∈ file)
    {first last : Nat} (hfirst : first ≤ l.number) (hlast : l.number ≤ last) :
    between file first last
      = between file first (l.number - 1) ++ l :: between file (l.number + 1) last := by
  obtain ⟨i, hi, rfl⟩ := List.mem_iff_getElem.mp hl
  have hnumber : file[i].number = i + 1 := by
    unfold Line.number
    rw [h i file[i] (List.getElem?_eq_getElem hi)]
  rw [hnumber] at hfirst hlast ⊢
  unfold between
  have hget : i < (file.take last).length := by
    rw [List.length_take]
    omega
  have hsplit : file.take last
      = (file.take last).take i ++ (file.take last)[i] :: (file.take last).drop (i + 1) := by
    rw [List.cons_getElem_drop_succ, List.take_append_drop]
  have htake : (file.take last).take i = file.take i := by
    rw [List.take_take, Nat.min_eq_left (by omega)]
  rw [htake, List.getElem_take] at hsplit
  show (file.take last).drop (first - 1)
    = (file.take i).drop (first - 1) ++ file[i] :: (file.take last).drop (i + 1)
  conv => lhs; rw [hsplit]
  rw [List.drop_append_of_le_length]
  rw [List.length_take]
  omega

/-! ## §2. What holds after every line. -/

/-- The tokens of a breadcrumb. -/
def crumbTokens (t : String → Int) (crumbs : List Capture) : Int := t (Scope.breadcrumb crumbs)

/-- **The piece at hand is snug under its breadcrumb.** -/
theorem Reach.snug (hp : p.Regular t B) {done : List Line} {s : State} {pieces : List Piece}
    (h : Reach p t B done s pieces) :
    Snug B (crumbTokens t s.crumbs) s.kept := by
  induction h with
  | start => exact snug_of_length_le_one (Nat.zero_le 1)
  | @read done s s' pieces l out before steps ih =>
    have hone : (fitting B [l]).length ≤ 1 := List.length_filter_le _ _
    cases steps with
    | stay within =>
      rw [State.take_kept hp, State.take_crumbs]
      by_cases hfits : l.tokens < B
      · rw [fitting_of_lt hfits]
        refine snug_concat ih ?_
        rw [← before.used_eq hp]
        exact within
      · rw [fitting_of_le (by omega), List.append_nil]
        exact ih
    | turn beyond empty =>
      -- Nothing was kept under the breadcrumb before.
      rw [State.take_kept hp, State.collect_kept, empty]
      exact snug_of_length_le_one hone
    | cut beyond filled =>
      rw [State.take_kept hp, State.collect_kept, State.reopen_kept]
      exact snug_of_length_le_one hone

/-- The line after a piece does not fit. -/
def Full (t : String → Int) (B : Int) (file : List Line) (q : Piece) : Prop :=
  ∀ l ∈ file, l.number = q.endLine + 1 →
    B - margin < crumbTokens t q.crumbs + cost q.lines + l.tokens

/-- **A piece that was closed is snug.** -/
theorem Closed.snug (hp : p.Regular t B) {file : List Line} {q : Piece} (h : Closed p t B file q) :
    Snug B (crumbTokens t q.crumbs) q.lines := by
  obtain ⟨done, rest, s, pieces, -, hreach, -, rfl, -⟩ := h
  exact hreach.snug hp

/-- **A piece that was closed is full.** -/
theorem Closed.full (hp : p.Regular t B) {file : List Line} {q : Piece} (h : Closed p t B file q)
    (hrows : InRows file) :
    Full t B file q := by
  obtain ⟨done, rest, s, pieces, rfl, hreach, -, rfl, hover⟩ := h
  intro l hl hnext
  -- The line after the piece is the first that was not yet read.
  obtain ⟨more, hrest⟩ := hrows.eq_cons_of_number hl hnext
  have hload := hover l more hrest
  unfold State.load at hload
  rw [hreach.used_eq hp] at hload
  exact hload

/-! ## §3. A file. -/

/-- How the body from the line `first` on fills a chunk, five tokens being held back. -/
structure Packed (t : String → Int) (B : Int) (file : List Line) (first : Nat) (q : Piece) :
    Prop where
  /-- Every line but the first was within the limit when it was taken in. -/
  within : ∀ l ∈ file, first < l.number → l.number ≤ q.endLine →
    t (Scope.breadcrumb q.crumbs) + cost (between file first (l.number - 1)) + l.tokens ≤ B - 5
  /-- A body of two lines or more leaves four tokens free. -/
  free : 2 ≤ (between file first q.endLine).length →
    t (Scope.breadcrumb q.crumbs) + cost (between file first q.endLine) ≤ B - 4
  /-- The line after the body is over the limit. -/
  full : ∀ l ∈ file, l.number = q.endLine + 1 →
    B - 5 < t (Scope.breadcrumb q.crumbs) + cost (between file first q.endLine) + l.tokens

/-- A piece that is cut out of a file, snug and full is packed. -/
theorem CutFrom.packed {file : List Line} {first : Nat} {q : Piece} (h : CutFrom p B file first q)
    (hrows : InRows file) (hsnug : Snug B (crumbTokens t q.crumbs) q.lines)
    (hfull : Full t B file q) :
    Packed t B file first q where
  within := by
    intro l hl hfirst hlast
    have hsplit := between_split hrows hl (Nat.le_of_lt hfirst) hlast
    have hpos := h.start_pos
    have hstart := h.start_le
    have hle := hrows.number_le hl
    -- The line `first` stands before it.
    exact hsnug _ l _ (h.lines_eq.trans hsplit)
      (between_ne_nil (by omega) (by omega) (by omega))
  free := by
    rw [← h.lines_eq]
    exact cost_le_of_snug hsnug
  full := by
    rw [← h.lines_eq]
    exact hfull

/-- **THE GREEDY THEOREM.**  For every text, tree, positive budget and tokenizer that neither
fails nor gives a negative number, a run over the text succeeds, and every chunk is packed:
under the breadcrumb it shows, each line of the body after the first was within the limit, and
the line after the body is not. -/
theorem chunkFile_greedy {c : Chunker} {path : Path} {contents : String} {root : Node}
    {t : String → Int} {B : Int} (hB : 0 < B) (hparse : c.parse path contents = .ok (some root))
    (hcount : ∀ s, c.count s = .ok (t s)) (hnonneg : ∀ s, 0 ≤ t s) :
    ∃ r, c.chunkFile ⟨path, contents, .whole B⟩ = .ok r ∧ r.failure = none
      ∧ ∀ q ∈ r.pieces, ∃ first,
          CutFrom (c.plan ⟨path, contents, .whole B⟩ root) B (measuredLines t contents) first q
            ∧ Packed t B (measuredLines t contents) first q := by
  obtain ⟨r, hrun, hok, hdone⟩ := chunkFile_completed hB hparse hcount
  have hregular : (c.plan ⟨path, contents, .whole B⟩ root).Regular t B := ⟨hcount, rfl⟩
  refine ⟨r, hrun, hok, ?_⟩
  intro q hq
  have hclosed := hdone.closed q hq
  have hrows := inRows_measuredLines t contents
  obtain ⟨first, hcut⟩ :=
    hclosed.cutFrom hregular hnonneg hrows (tokens_nonneg_of_mem_measuredLines hnonneg)
  exact ⟨first, hcut, hcut.packed hrows (hclosed.snug hregular) (hclosed.full hregular hrows)⟩

/-- The sample under a budget of fourteen words is packed. -/
theorem sample_packed :
    (0 : Int) < 14 ∧ Sample.chunker.parse Sample.path Sample.contents = .ok (some Sample.tree)
      ∧ (∀ s, (0 : Int) ≤ (words s : Nat))
      ∧ ∃ r, Sample.chunker.chunkFile ⟨Sample.path, Sample.contents, .whole 14⟩ = .ok r
        ∧ r.failure = none
        ∧ ∀ q ∈ r.pieces, ∃ first,
            CutFrom (Sample.chunker.plan ⟨Sample.path, Sample.contents, .whole 14⟩ Sample.tree) 14
              (measuredLines (fun s => (words s : Nat)) Sample.contents) first q
            ∧ Packed (fun s => (words s : Nat)) 14
              (measuredLines (fun s => (words s : Nat)) Sample.contents) first q :=
  ⟨by decide, rfl, fun _ => Int.natCast_nonneg _,
    chunkFile_greedy (by decide) rfl (fun _ => rfl) fun _ => Int.natCast_nonneg _⟩

end Breadcrumb.Packing
