/-
  Breadcrumb.Proofs.Packing.Coverage
  ──────────────────────────────────
  **THE RANGES OF CHUNKS COVER A FILE FROM ITS FIRST LINE, WITHOUT GAP OR OVERLAP.**

  The end of a chunk is numbered in two ways: by the row of the line that closed
  it, and by the number of lines at the end of the file.  Both leave the chunks
  lying side by side (`Tiles`), because of what holds after every line:

      the chunks closed so far run up to the first line of the piece at hand,
      and the piece at hand keeps all of the lines since that do not fill the
      budget alone

  (`Covered`).  So what no chunk covers at the end are lines that were dropped
  and lines that are blank.  Nothing is asked of the numbers that the tokenizer
  gives; they may even be negative.
-/
import Breadcrumb.Proofs.Packing.Run

namespace Breadcrumb.Packing

open Breadcrumb.Text

variable {p : Plan} {t : String → Int} {B : Int}

/-! ## §1. Chunks side by side. -/

/-- Chunks lie side by side from the line `first` up to before the line `next`. -/
def Tiles : Int → List Chunk → Int → Prop
  | first, [], next => first = next
  | first, c :: cs, next =>
    c.startLine = first ∧ first ≤ c.endLine ∧ Tiles (c.endLine + 1) cs next

/-- The last line that chunks cover, zero if they cover none. -/
def lastLine (cs : List Chunk) : Int := (cs.getLast?.map Chunk.endLine).getD 0

theorem tiles_concat {c : Chunk} (hle : c.startLine ≤ c.endLine) :
    ∀ {cs : List Chunk} {first : Int}, Tiles first cs c.startLine →
      Tiles first (cs ++ [c]) (c.endLine + 1)
  | [], first, h => by
      unfold Tiles at h
      rw [h]
      exact ⟨rfl, hle, rfl⟩
  | d :: cs, first, h => ⟨h.1, h.2.1, tiles_concat hle h.2.2⟩

/-- Every chunk holds at least one line, and lies within the whole. -/
theorem tiles_bounds {c : Chunk} :
    ∀ {cs : List Chunk} {first next : Int}, Tiles first cs next → c ∈ cs →
      first ≤ c.startLine ∧ c.startLine ≤ c.endLine ∧ c.endLine < next
  | d :: cs, first, next, ⟨hstart, hend, htail⟩, hc => by
      have hlast : d.endLine + 1 ≤ next := by
        -- What comes after the first chunk either ends at once or holds a chunk.
        cases cs with
        | nil => exact Int.le_of_eq htail
        | cons e es =>
          have he := tiles_bounds htail List.mem_cons_self
          omega
      rcases List.mem_cons.mp hc with rfl | hc
      · -- The chunk is the first.
        omega
      · have htailc := tiles_bounds htail hc
        omega

theorem tiles_isChain :
    ∀ {cs : List Chunk} {first next : Int}, Tiles first cs next →
      cs.IsChain fun a b => b.startLine = a.endLine + 1
  | [], _, _, _ => .nil
  | [c], _, _, _ => .singleton c
  | _ :: _ :: _, _, _, ⟨_, _, htail⟩ => .cons_cons htail.1 (tiles_isChain htail)

theorem tiles_pairwise :
    ∀ {cs : List Chunk} {first next : Int}, Tiles first cs next →
      cs.Pairwise fun a b => a.endLine < b.startLine
  | [], _, _, _ => .nil
  | c :: cs, _, _, ⟨_, _, htail⟩ => by
      refine .cons ?_ (tiles_pairwise htail)
      intro d hd
      have hbounds := tiles_bounds htail hd
      omega

/-- Every line in between lies in a chunk. -/
theorem exists_mem_of_tiles {k : Int} :
    ∀ {cs : List Chunk} {first next : Int}, Tiles first cs next → first ≤ k → k < next →
      ∃ c ∈ cs, c.startLine ≤ k ∧ k ≤ c.endLine
  | [], first, next, h, hfirst, hnext => by
      unfold Tiles at h
      omega
  | c :: cs, first, next, ⟨hstart, hend, htail⟩, hfirst, hnext => by
      by_cases hk : k ≤ c.endLine
      · -- The line is not behind the first chunk, so it lies in it.
        exact ⟨c, List.mem_cons_self, by omega, hk⟩
      · obtain ⟨d, hd, hin⟩ := exists_mem_of_tiles htail (by omega) hnext
        exact ⟨d, List.mem_cons_of_mem c hd, hin⟩

theorem sum_lineCount_of_tiles :
    ∀ {cs : List Chunk} {first next : Int}, Tiles first cs next →
      (cs.map Chunk.lineCount).sum = next - first
  | [], first, next, h => by
      unfold Tiles at h
      rw [h, Int.sub_self]
      rfl
  | c :: cs, first, next, ⟨hstart, _, htail⟩ => by
      rw [List.map_cons, List.sum_cons, sum_lineCount_of_tiles htail]
      unfold Chunk.lineCount
      omega

theorem next_eq_of_tiles_concat {c : Chunk} :
    ∀ {cs : List Chunk} {first next : Int}, Tiles first (cs ++ [c]) next → next = c.endLine + 1
  | [], _, _, ⟨_, _, htail⟩ => htail.symm
  | _ :: _, _, _, ⟨_, _, htail⟩ => next_eq_of_tiles_concat htail

theorem lastLine_of_tiles {cs : List Chunk} {next : Int} (h : Tiles 1 cs next) :
    lastLine cs = next - 1 := by
  rcases List.eq_nil_or_concat cs with rfl | ⟨before, c, rfl⟩
  · unfold Tiles at h
    rw [← h]
    rfl
  · rw [List.concat_eq_append] at h ⊢
    rw [next_eq_of_tiles_concat h, Int.add_sub_cancel]
    simp [lastLine]

/-! ## §2. What holds after every line. -/

/-- After the lines `done`: what the pieces closed cover, and what the piece at hand keeps. -/
structure Covered (B : Int) (done : List Line) (s : State) (pieces : List Piece) : Prop where
  /-- The pieces closed run up to the first line of the piece at hand. -/
  tiles : Tiles 1 (pieces.map Piece.chunk) s.start
  /-- The piece at hand begins at most one line after those read. -/
  start_le : s.start ≤ done.length + 1
  start_pos : 0 < s.start
  /-- It keeps all that fits of the lines since its first one. -/
  kept_eq : s.kept = fitting B (done.drop (s.start - 1))

/-- What is kept was read after the piece at hand was begun. -/
theorem Covered.start_le_of_kept {B : Int} {done : List Line} {s : State} {pieces : List Piece}
    (h : Covered B done s pieces) (hkept : s.kept ≠ []) : s.start ≤ done.length := by
  -- Else there is no line that could have been kept.
  by_contra hlt
  apply hkept
  have hpos := h.start_pos
  rw [h.kept_eq, List.drop_eq_nil_of_le (by omega)]
  rfl

/-- A piece closed at the last line read covers all lines since its first one. -/
theorem Covered.tiles_close {B : Int} {done : List Line} {s : State} {pieces : List Piece}
    (h : Covered B done s pieces) (hkept : s.kept ≠ []) :
    Tiles 1 ((pieces ++ [s.close done.length]).map Piece.chunk) (done.length + 1 : Nat) := by
  have hle := h.start_le_of_kept hkept
  have hchunk : (s.close done.length).chunk.startLine ≤ (s.close done.length).chunk.endLine :=
    Int.ofNat_le.mpr hle
  rw [List.map_append]
  exact tiles_concat hchunk h.tiles

/-- **One line keeps what holds.** -/
theorem Covered.read (hp : p.Regular t B) {done : List Line} {s s' : State} {pieces : List Piece}
    {l : Line} {out : Option Piece} (h : Covered B done s pieces) (hrow : l.row = done.length)
    (hsteps : Steps p t B s l s' out) :
    Covered B (done ++ [l]) s' (pieces ++ out.toList) := by
  have hpos := h.start_pos
  have hle := h.start_le
  -- The piece at hand goes on: a line more to choose from, and the same first line.
  have hgrown : s.kept ++ fitting B [l] = fitting B ((done ++ [l]).drop (s.start - 1)) := by
    rw [List.drop_append_of_le_length (by omega), fitting_append, ← h.kept_eq]
  cases hsteps with
  | stay within =>
    -- Nothing is closed and the first line stays.
    refine ⟨?_, ?_, ?_, ?_⟩
    · rw [State.take_start, Option.toList_none, List.append_nil]
      exact h.tiles
    · rw [State.take_start, List.length_append]
      exact Nat.le_add_right_of_le hle
    · rw [State.take_start]
      exact hpos
    · rw [State.take_kept hp, State.take_start]
      exact hgrown
  | turn beyond empty =>
    -- Only the breadcrumb is new: the dropped lines stay in the piece at hand.
    refine ⟨?_, ?_, ?_, ?_⟩
    · rw [State.take_start, State.collect_start, Option.toList_none, List.append_nil]
      exact h.tiles
    · rw [State.take_start, State.collect_start, List.length_append]
      exact Nat.le_add_right_of_le hle
    · rw [State.take_start, State.collect_start]
      exact hpos
    · rw [State.take_kept hp, State.collect_kept, State.take_start, State.collect_start]
      exact hgrown
  | cut beyond filled =>
    -- The piece at hand is closed before the line.
    refine ⟨?_, ?_, ?_, ?_⟩
    · rw [State.take_start, State.collect_start, State.reopen_start, Option.toList_some, hrow]
      exact h.tiles_close filled
    · rw [State.take_start, State.collect_start, State.reopen_start, hrow, List.length_append]
      exact Nat.succ_le_succ (Nat.le_add_right _ _)
    · rw [State.take_start, State.collect_start, State.reopen_start]
      exact Nat.succ_pos _
    · -- All that the new piece can keep so far is the line itself.
      rw [State.take_kept hp, State.collect_kept, State.reopen_kept, State.take_start,
        State.collect_start, State.reopen_start, hrow, Nat.add_sub_cancel, List.drop_left,
        List.nil_append]

theorem Reach.covered (hp : p.Regular t B) {done : List Line} {s : State} {pieces : List Piece}
    (h : Reach p t B done s pieces) (hrows : InRows done) :
    Covered B done s pieces := by
  induction h with
  | start => exact ⟨rfl, Nat.le_refl 1, Nat.one_pos, rfl⟩
  | read before steps ih => exact (ih hrows.of_append).read hp hrows.row_eq steps

/-! ## §3. A file. -/

/-- The lines from a number on are what is left behind the lines before it. -/
theorem mem_drop_of_number {ls : List Line} (h : InRows ls) {l : Line} (hl : l ∈ ls) {k : Nat}
    (hk : k < l.number) : l ∈ ls.drop k := by
  obtain ⟨i, hi, rfl⟩ := List.mem_iff_getElem.mp hl
  have hrow := h i ls[i] (List.getElem?_eq_getElem hi)
  unfold Line.number at hk
  rw [List.mem_drop_iff_getElem]
  exact ⟨i - k, by omega, by congr 1; omega⟩

/-- **What a complete run covers.**  Its chunks lie side by side, and the lines after them are
dropped or blank. -/
theorem Completed.tiles (hp : p.Regular t B) {contents : String} {pieces : List Piece}
    (h : Completed p t B contents pieces) :
    ∃ next : Nat, Tiles 1 (pieces.map Piece.chunk) next ∧ next ≤ (lines contents).length + 1
      ∧ ∀ l ∈ measuredLines t contents, next ≤ l.number →
          B ≤ l.tokens ∨ allBlank l.text = true := by
  rcases h with ⟨hblank, rfl⟩ | ⟨s, before, hreach, rfl⟩
  · refine ⟨1, rfl, by omega, ?_⟩
    intro l hl _
    exact .inr (allBlank_of_mem_lines hblank (text_mem_of_mem_measuredLines hl))
  · have hrows := inRows_measuredLines t contents
    have hcovered := hreach.covered hp hrows
    have hpos := hcovered.start_pos
    have hle := hcovered.start_le
    rcases finish_cases s (measuredLines t contents).length with
      ⟨hall, hfinish⟩ | ⟨⟨k, hk, -⟩, hfinish⟩
    · -- Nothing is closed at the end: what is kept is blank.
      rw [hfinish, Option.toList_none, List.append_nil]
      rw [length_measuredLines] at hle
      refine ⟨s.start, hcovered.tiles, hle, ?_⟩
      intro l hl hnext
      by_cases hfits : l.tokens < B
      · refine .inr (hall l ?_)
        rw [hcovered.kept_eq, fitting, List.mem_filter]
        exact ⟨mem_drop_of_number hrows hl (by omega), decide_eq_true hfits⟩
      · exact .inl (by omega)
    · -- The last piece runs up to the last line.
      have hclosed := hcovered.tiles_close (List.ne_nil_of_mem hk)
      rw [hfinish, Option.toList_some]
      refine ⟨_, hclosed, by rw [length_measuredLines], ?_⟩
      intro l hl hnext
      have hnumber := hrows.number_le hl
      omega

/-- How the ranges of chunks lie in a file. -/
structure Covers (file : List Line) (B : Int) (cs : List Chunk) : Prop where
  /-- The first chunk begins at the first line. -/
  first : ∀ c, cs.head? = some c → c.startLine = 1
  /-- Every other chunk begins at the line after the one before it. -/
  follows : cs.IsChain fun a b => b.startLine = a.endLine + 1
  /-- A chunk covers at least one line, and no line that the file does not have. -/
  bounds : ∀ c ∈ cs, c.startLine ≤ c.endLine ∧ c.endLine ≤ file.length
  /-- The line counts add up to the last line covered. -/
  total : (cs.map Chunk.lineCount).sum = lastLine cs
  /-- Lines after that fill the budget alone, or are blank. -/
  after : ∀ l ∈ file, lastLine cs < l.number → B ≤ l.tokens ∨ allBlank l.text = true
  /-- A line that fits and is not blank lies in a chunk. -/
  every : ∀ l ∈ file, l.tokens < B → allBlank l.text = false →
    ∃ c ∈ cs, c.startLine ≤ l.number ∧ l.number ≤ c.endLine
  /-- No line lies in two chunks. -/
  once : cs.Pairwise fun a b => a.endLine < b.startLine

/-- Chunks side by side cover a file if what is after them was dropped or is blank. -/
theorem covers_of_tiles {file : List Line} {B : Int} {cs : List Chunk} {next : Nat}
    (h : Tiles 1 cs next) (hnext : next ≤ file.length + 1)
    (hafter : ∀ l ∈ file, next ≤ l.number → B ≤ l.tokens ∨ allBlank l.text = true) :
    Covers file B cs where
  first := by
    intro c hc
    cases cs with
    | nil => simp at hc
    | cons d ds =>
      rw [List.head?_cons, Option.some.injEq] at hc
      rw [← hc]
      exact h.1
  follows := tiles_isChain h
  bounds := by
    intro c hc
    have hbounds := tiles_bounds h hc
    omega
  total := by rw [sum_lineCount_of_tiles h, lastLine_of_tiles h]
  after := by
    intro l hl hlast
    rw [lastLine_of_tiles h] at hlast
    exact hafter l hl (by omega)
  every := by
    intro l hl hfits hblank
    have hlt : l.number < next := by
      by_contra hge
      rcases hafter l hl (by omega) with hover | hall
      · omega
      · rw [hblank] at hall
        exact Bool.false_ne_true hall
    refine exists_mem_of_tiles h ?_ (Int.ofNat_lt.mpr hlt)
    unfold Line.number
    omega
  once := tiles_pairwise h

/-- **THE COVERAGE THEOREM.**  For every text, tree, positive budget and tokenizer that never
fails, a run over the text succeeds, and the ranges of its chunks follow one another from the
first line on without gap or overlap; the lines after the last one fill the budget alone or are
blank. -/
theorem chunkFile_covers {c : Chunker} {path : Path} {contents : String} {root : Node}
    {t : String → Int} {B : Int} (hB : 0 < B) (hparse : c.parse path contents = .ok (some root))
    (hcount : ∀ s, c.count s = .ok (t s)) :
    ∃ r, c.chunkFile ⟨path, contents, .whole B⟩ = .ok r ∧ r.failure = none
      ∧ Covers (measuredLines t contents) B r.chunks := by
  obtain ⟨r, hrun, hok, hdone⟩ := chunkFile_completed hB hparse hcount
  obtain ⟨next, htiles, hnext, hafter⟩ := hdone.tiles ⟨hcount, rfl⟩
  refine ⟨r, hrun, hok, covers_of_tiles htiles ?_ hafter⟩
  rw [length_measuredLines]
  exact hnext

/-! ## §4. A sample. -/

namespace Sample

/-- A function whose signature takes eight words, and whose one statement takes six. -/
def contents : String := "def compute(a, b, c, d, e, f, g):\n    return a + b + c"

/-- Its tree: the body begins in the second row, after the indentation. -/
def tree : Node :=
  .node "module" ⟨0, 54, 0, 1⟩
    [.node "function_definition" ⟨0, 54, 0, 1⟩ [.node "block" ⟨38, 54, 1, 1⟩ []]]

/-- The file that holds it. -/
def path : Path := ⟨0, ["compute.py"]⟩

/-- A chunker for it that counts words. -/
def chunker : Chunker := ⟨fun _ _ => .ok (some tree), fun s => .ok (words s : Nat)⟩

end Sample

/-- The sample under a budget of fourteen words is covered. -/
theorem sample_covered :
    (0 : Int) < 14 ∧ Sample.chunker.parse Sample.path Sample.contents = .ok (some Sample.tree)
      ∧ ∃ r, Sample.chunker.chunkFile ⟨Sample.path, Sample.contents, .whole 14⟩ = .ok r
        ∧ r.failure = none
        ∧ Covers (measuredLines (fun s => (words s : Nat)) Sample.contents) 14 r.chunks :=
  ⟨by decide, rfl, chunkFile_covers (by decide) rfl fun _ => rfl⟩

end Breadcrumb.Packing
