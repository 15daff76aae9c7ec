/-
  Breadcrumb.Proofs.Packing.Budget
  ────────────────────────────────
  **WHICH CHUNKS GO OVER THE BUDGET.**

  A line is weighed under the breadcrumb of the piece at hand.  Where it is over
  the limit, a breadcrumb is collected for it, of any length, and the line is
  taken in under that one without being weighed again.  A chunk of this one line
  can have more tokens than the budget (`Overrun`), and no other chunk can:

      a body of two lines or more was weighed under its breadcrumb at the last
      a line without a breadcrumb is below the budget, or it was dropped
      a line under a breadcrumb collected before was weighed under it

  Counting the text of a chunk is compared with adding up its parts, so this asks
  of the tokenizer that a whole has no more tokens than its parts (`WellBehaved`).
-/
import Breadcrumb.Proofs.Packing.Greedy
import Breadcrumb.Proofs.Scope.Walk

namespace Breadcrumb.Packing

open Breadcrumb.Number Breadcrumb.Text

variable {p : Plan} {t : String → Int} {B : Int}

/-! ## §1. Texts and the tokens of their lines. -/

/-- A whole has no more tokens than its parts, and a newline adds one at most. -/
structure WellBehaved (t : String → Int) : Prop where
  nonneg : ∀ s, 0 ≤ t s
  append : ∀ a b, t (a ++ b) ≤ t a + t b
  newline : ∀ line : String, '\n' ∉ line.toList → t (line ++ "\n") ≤ t line + 1

/-- A line of a file that has been counted. -/
def Counted (t : String → Int) (l : Line) : Prop := l.tokens = t l.text ∧ '\n' ∉ l.text.toList

theorem counted_of_mem_measuredLines {t : String → Int} {contents : String} :
    ∀ l ∈ measuredLines t contents, Counted t l := by
  intro l hl
  exact ⟨tokens_of_mem_measuredLines hl,
    newline_not_mem_of_mem_lines (text_mem_of_mem_measuredLines hl)⟩

/-- **The text of a body has at most the tokens that were added up for it.** -/
theorem WellBehaved.bodyText_le {t : String → Int} (h : WellBehaved t) :
    ∀ {ls : List Line}, ls ≠ [] → (∀ l ∈ ls, Counted t l) → t (bodyText ls) ≤ cost ls
  | [], hne, _ => absurd rfl hne
  | [l], _, hcounted => by
      obtain ⟨htokens, hnewline⟩ := hcounted l List.mem_cons_self
      have hline := h.newline l.text hnewline
      rw [cost_singleton, htokens]
      show t (l.text ++ "\n" ++ "") ≤ t l.text + 1
      rw [String.append_empty]
      exact hline
  | l :: m :: ls, _, hcounted => by
      obtain ⟨htokens, hnewline⟩ := hcounted l List.mem_cons_self
      have hline := h.newline l.text hnewline
      have hrest := h.bodyText_le (List.cons_ne_nil m ls)
        fun k hk => hcounted k (List.mem_cons_of_mem l hk)
      have happend := h.append (l.text ++ "\n") (bodyText (m :: ls))
      have hcost : cost (l :: m :: ls) = l.tokens + 1 + cost (m :: ls) := by
        rw [← List.singleton_append, cost_append, cost_singleton]
      rw [hcost, htokens]
      show t (l.text ++ "\n" ++ bodyText (m :: ls)) ≤ t l.text + 1 + cost (m :: ls)
      omega

/-! ## §2. Where the first line of a body was weighed. -/

/-- The first line of a body was within the limit under the breadcrumb, or it is the line that
the breadcrumb was collected for. -/
def Begun (p : Plan) (t : String → Int) (B : Int) (crumbs : List Capture) (ls : List Line) :
    Prop :=
  ∀ l rest, ls = l :: rest → crumbTokens t crumbs + l.tokens ≤ B - margin
    ∨ ∃ cursor, crumbs = (p.scope.collect p.root l.row cursor).1

theorem begun_nil {crumbs : List Capture} :
    Begun p t B crumbs [] := by
  intro l rest heq
  exact absurd heq.symm (List.cons_ne_nil l rest)

/-- What is collected for a line begins with it, whether it is kept or dropped. -/
theorem begun_collect {s : State} {l : Line} :
    Begun p t B (s.collect p l.row).crumbs (fitting B [l]) := by
  by_cases hfits : l.tokens < B
  · rw [fitting_of_lt hfits]
    intro k rest heq
    rw [← (List.cons.inj heq).1]
    exact .inr ⟨s.cursor, rfl⟩
  · rw [fitting_of_le (by omega)]
    exact begun_nil

/-- **The piece at hand is begun as it should be.** -/
theorem Reach.begun (hp : p.Regular t B) {done : List Line} {s : State} {pieces : List Piece}
    (h : Reach p t B done s pieces) :
    Begun p t B s.crumbs s.kept := by
  induction h with
  | start => exact begun_nil
  | @read done s s' pieces l out before steps ih =>
    cases steps with
    | stay within =>
      rw [State.take_kept hp, State.take_crumbs]
      intro k rest heq
      cases hkept : s.kept with
      | cons first more =>
        -- The first line was there before.
        rw [hkept, List.cons_append] at heq
        rw [← (List.cons.inj heq).1]
        exact ih first more hkept
      | nil =>
        -- The line itself is the first, and it has just been weighed.
        have hk : k ∈ fitting B [l] := by
          rw [hkept, List.nil_append] at heq
          rw [heq]
          exact List.mem_cons_self
        rw [List.mem_singleton.mp (List.mem_of_mem_filter hk)]
        have hused := before.used_eq hp
        rw [hkept, cost_nil] at hused
        unfold State.load at within
        left
        show t (Scope.breadcrumb s.crumbs) + l.tokens ≤ B - margin
        omega
    | turn beyond empty =>
      rw [State.take_kept hp, State.take_crumbs, State.collect_kept, empty]
      exact begun_collect
    | cut beyond filled =>
      rw [State.take_kept hp, State.take_crumbs, State.collect_kept, State.reopen_kept]
      exact begun_collect

theorem Closed.begun (hp : p.Regular t B) {file : List Line} {q : Piece} (h : Closed p t B file q) :
    Begun p t B q.crumbs q.lines := by
  obtain ⟨done, rest, s, pieces, -, hreach, -, rfl, -⟩ := h
  exact hreach.begun hp

/-! ## §3. One piece. -/

/-- A piece of one line that has, with the breadcrumb collected for the line, more tokens than
the budget. -/
def Overrun (p : Plan) (t : String → Int) (B : Int) (file : List Line) (q : Piece) : Prop :=
  ∃ l ∈ file, q.lines = [l] ∧ l.tokens < B
    ∧ (∃ cursor, q.crumbs = (p.scope.collect p.root l.row cursor).1) ∧ q.crumbs ≠ []
    ∧ B < t (Scope.breadcrumb q.crumbs ++ (l.text ++ "\n"))

theorem content_of_lines_singleton {q : Piece} {l : Line} (h : q.lines = [l]) :
    q.chunk.content = Scope.breadcrumb q.crumbs ++ (l.text ++ "\n") := by
  unfold Piece.chunk
  rw [h]
  show Scope.breadcrumb q.crumbs ++ (l.text ++ "\n" ++ "") = _
  rw [String.append_empty]

section OnePiece

variable {file : List Line} {first : Nat} {q : Piece}

theorem CutFrom.mem_lines (h : CutFrom p B file first q) {l : Line} (hl : l ∈ q.lines) :
    l ∈ file ∧ l.tokens < B := by
  rw [h.lines_eq] at hl
  exact ⟨mem_of_mem_between hl, h.kept l hl⟩

/-- The text of a piece has at most the tokens of its breadcrumb and those added up for its
body. -/
theorem CutFrom.content_le (h : CutFrom p B file first q) (ht : WellBehaved t)
    (hcounted : ∀ l ∈ file, Counted t l) :
    t q.chunk.content ≤ crumbTokens t q.crumbs + cost q.lines := by
  have happend : t q.chunk.content ≤ crumbTokens t q.crumbs + t (bodyText q.lines) :=
    ht.append _ _
  have hbody := ht.bodyText_le h.lines_ne_nil fun l hl => hcounted l (h.mem_lines hl).1
  omega

/-- A body that does not have two lines has one. -/
theorem CutFrom.exists_lines_eq (h : CutFrom p B file first q) (hone : ¬ 2 ≤ q.lines.length) :
    ∃ l, q.lines = [l] := by
  have hpos := List.length_pos_iff.mpr h.lines_ne_nil
  exact List.length_eq_one_iff.mp (by omega)

/-- No piece has more tokens than the budget and its breadcrumb together. -/
theorem CutFrom.content_le_add (h : CutFrom p B file first q) (ht : WellBehaved t)
    (hcounted : ∀ l ∈ file, Counted t l) (hsnug : Snug B (crumbTokens t q.crumbs) q.lines) :
    t q.chunk.content ≤ crumbTokens t q.crumbs + B := by
  have hcontent := h.content_le ht hcounted
  have hcrumbs : 0 ≤ crumbTokens t q.crumbs := ht.nonneg _
  by_cases htwo : 2 ≤ q.lines.length
  · have hcost := cost_le_of_snug hsnug htwo
    omega
  · -- One line is below the budget, and its newline adds one.
    obtain ⟨l, hlines⟩ := h.exists_lines_eq htwo
    have hfits := (h.mem_lines (l := l) (by rw [hlines]; exact List.mem_cons_self)).2
    rw [hlines, cost_singleton] at hcontent
    omega

/-- **What is over the budget is an overrun.** -/
theorem CutFrom.overrun_of_lt (h : CutFrom p B file first q) (ht : WellBehaved t)
    (hcounted : ∀ l ∈ file, Counted t l) (hsnug : Snug B (crumbTokens t q.crumbs) q.lines)
    (hbegun : Begun p t B q.crumbs q.lines) (hlt : B < t q.chunk.content) :
    Overrun p t B file q := by
  have hcontent := h.content_le ht hcounted
  have hone : ¬ 2 ≤ q.lines.length := by
    intro htwo
    -- The whole body was weighed when its last line was taken in.
    have hcost := cost_le_of_snug hsnug htwo
    omega
  obtain ⟨l, hlines⟩ := h.exists_lines_eq hone
  obtain ⟨hfile, hfits⟩ := h.mem_lines (l := l) (by rw [hlines]; exact List.mem_cons_self)
  rw [hlines, cost_singleton] at hcontent
  rw [content_of_lines_singleton hlines] at hlt hcontent
  refine ⟨l, hfile, hlines, hfits, ?_, ?_, hlt⟩
  · -- Had the line been weighed under the breadcrumb, both would be within the limit.
    rcases hbegun l [] hlines with hwithin | hcollected
    · unfold margin at hwithin
      omega
    · exact hcollected
  · intro hnone
    -- Without a breadcrumb there is only the line.
    obtain ⟨htokens, hnewline⟩ := hcounted l hfile
    have hline := ht.newline l.text hnewline
    rw [hnone] at hlt
    have hcontent : B < t ("" ++ (l.text ++ "\n")) := hlt
    rw [String.empty_append] at hcontent
    omega

/-- An overrun is over the budget by what it says. -/
theorem Overrun.lt_content (h : Overrun p t B file q) : B < t q.chunk.content := by
  obtain ⟨l, -, hlines, -, -, -, hlt⟩ := h
  rw [content_of_lines_singleton hlines]
  exact hlt

end OnePiece

/-! ## §4. A file. -/

/-- **THE BUDGET THEOREM.**  For every text, tree, positive budget and well-behaved tokenizer, a
run over the text succeeds; a chunk has more tokens than the budget exactly if it is an overrun,
and never more than the budget and its breadcrumb together; so all chunks are within the budget
exactly if none is an overrun. -/
theorem chunkFile_overrun_iff {c : Chunker} {path : Path} {contents : String} {root : Node}
    {t : String → Int} {B : Int} (hB : 0 < B) (hparse : c.parse path contents = .ok (some root))
    (hcount : ∀ s, c.count s = .ok (t s)) (ht : WellBehaved t) :
    ∃ r, c.chunkFile ⟨path, contents, .whole B⟩ = .ok r ∧ r.failure = none
      ∧ (∀ q ∈ r.pieces,
          (B < t q.chunk.content ↔
            Overrun (c.plan ⟨path, contents, .whole B⟩ root) t B (measuredLines t contents) q)
          ∧ t q.chunk.content ≤ t (Scope.breadcrumb q.crumbs) + B)
      ∧ ((∀ ch ∈ r.chunks, t ch.content ≤ B) ↔ ∀ q ∈ r.pieces,
          ¬ Overrun (c.plan ⟨path, contents, .whole B⟩ root) t B (measuredLines t contents) q) := by
  obtain ⟨r, hrun, hok, hdone⟩ := chunkFile_completed hB hparse hcount
  have hregular : (c.plan ⟨path, contents, .whole B⟩ root).Regular t B := ⟨hcount, rfl⟩
  have hpiece : ∀ q ∈ r.pieces,
      (B < t q.chunk.content ↔
        Overrun (c.plan ⟨path, contents, .whole B⟩ root) t B (measuredLines t contents) q)
      ∧ t q.chunk.content ≤ t (Scope.breadcrumb q.crumbs) + B := by
    intro q hq
    have hclosed := hdone.closed q hq
    have hsnug := hclosed.snug hregular
    obtain ⟨first, hcut⟩ := hclosed.cutFrom hregular ht.nonneg
      (inRows_measuredLines t contents) (tokens_nonneg_of_mem_measuredLines ht.nonneg)
    refine ⟨⟨?_, Overrun.lt_content⟩, ?_⟩
    · exact hcut.overrun_of_lt ht counted_of_mem_measuredLines hsnug (hclosed.begun hregular)
    · exact hcut.content_le_add ht counted_of_mem_measuredLines hsnug
  refine ⟨r, hrun, hok, hpiece, ?_, ?_⟩
  · intro hwithin q hq hover
    have hbelow := hwithin q.chunk (List.mem_map_of_mem hq)
    have habove := (hpiece q hq).1.mpr hover
    omega
  · intro hnone ch hch
    obtain ⟨q, hq, rfl⟩ := List.mem_map.mp hch
    by_contra habove
    exact hnone q hq ((hpiece q hq).1.mp (by omega))

/-! ## §5. Words. -/

/-- **Counting words is well-behaved.** -/
theorem wellBehaved_words : WellBehaved fun s => (words s : Nat) where
  nonneg s := Int.natCast_nonneg (words s)
  append a b := by
    have happend := words_append_le a b
    omega
  newline line _ := by
    have happend := words_append_le line "\n"
    have hnewline : words "\n" = 0 := by decide
    omega

/-- The sample under a budget of fourteen words. -/
theorem sample_overrun_iff :
    (0 : Int) < 14 ∧ Sample.chunker.parse Sample.path Sample.contents = .ok (some Sample.tree)
      ∧ WellBehaved (fun s => (words s : Nat))
      ∧ ∃ r, Sample.chunker.chunkFile ⟨Sample.path, Sample.contents, .whole 14⟩ = .ok r
        ∧ r.failure = none
        ∧ (∀ q ∈ r.pieces,
            ((14 : Int) < (words q.chunk.content : Nat) ↔
              Overrun (Sample.chunker.plan ⟨Sample.path, Sample.contents, .whole 14⟩ Sample.tree)
                (fun s => (words s : Nat)) 14
                (measuredLines (fun s => (words s : Nat)) Sample.contents) q)
            ∧ ((words q.chunk.content : Nat) : Int)
                ≤ (words (Scope.breadcrumb q.crumbs) : Nat) + 14)
        ∧ ((∀ ch ∈ r.chunks, ((words ch.content : Nat) : Int) ≤ 14) ↔ ∀ q ∈ r.pieces,
            ¬ Overrun (Sample.chunker.plan ⟨Sample.path, Sample.contents, .whole 14⟩ Sample.tree)
              (fun s => (words s : Nat)) 14
              (measuredLines (fun s => (words s : Nat)) Sample.contents) q) :=
  ⟨by decide, rfl, wellBehaved_words,
    chunkFile_overrun_iff (by decide) rfl (fun _ => rfl) wellBehaved_words⟩

/-! ## §6. A chunk over the budget. -/

namespace Sample

/-- How the sample is packed under a budget of fourteen words. -/
def plan : Plan := chunker.plan ⟨path, contents, .whole 14⟩ tree

/-- The line of the signature. -/
def signature : Line := ⟨0, "def compute(a, b, c, d, e, f, g):", 8⟩

/-- The line of the body. -/
def body : Line := ⟨1, "    return a + b + c", 6⟩

/-- The state with the signature kept. -/
def opened : State := ({} : State).take plan signature

/-- The state with the body kept, under the breadcrumb collected for it. -/
def reopened : State := ((opened.reopen 1).collect plan 1).take plan body

theorem regular : plan.Regular (fun s => (words s : Nat)) 14 := ⟨fun _ => rfl, rfl⟩

theorem measuredLines_eq :
    measuredLines (fun s => (words s : Nat)) contents = [signature, body] := by decide

/-- The signature is within the limit of nine. -/
theorem step_signature : step plan {} signature = .ok (opened, none) :=
  (step_eq_ok_iff regular).mpr (.stay (by decide))

/-- The body is not, and the signature is closed before it. -/
theorem step_body : step plan opened body = .ok (reopened, some (opened.close 1)) :=
  (step_eq_ok_iff regular).mpr (.cut (by decide) (by decide))

theorem pack_eq :
    pack plan [signature, body] = ⟨[opened.close 1, reopened.close 2], none⟩ := by
  have hfinish : finish reopened 2 = some (reopened.close 2) := by
    rcases finish_cases reopened 2 with ⟨hblank, -⟩ | ⟨-, hlast⟩
    · exact absurd (hblank body (by decide)) (by decide)
    · exact hlast
  have hlast : packFrom plan 2 reopened [] = ⟨[reopened.close 2], none⟩ := by
    unfold packFrom
    rw [hfinish]
    rfl
  have hbody : packFrom plan 2 opened [body] = ⟨[opened.close 1, reopened.close 2], none⟩ := by
    unfold packFrom
    rw [step_body]
    show (packFrom plan 2 reopened []).push (opened.close 1) = _
    rw [hlast]
    rfl
  unfold pack packFrom
  rw [step_signature]
  exact hbody

theorem chunkFile_eq :
    chunker.chunkFile ⟨path, contents, .whole 14⟩
      = .ok { pieces := [opened.close 1, reopened.close 2], parsed := true, counted := true } := by
  have hblank : allBlank contents = false := by decide
  have hparse : chunker.parse path contents = .ok (some tree) := rfl
  have hcount : ∀ s, chunker.count s = .ok (words s : Nat) := fun _ => rfl
  have hlines := countLines_eq hcount contents
  rw [measuredLines_eq] at hlines
  have hpack := pack_eq
  unfold plan at hpack
  unfold Chunker.chunkFile
  rw [checkBudget_whole (by decide)]
  show Except.ok (chunker.run _) = _
  simp only [Chunker.run, hblank, hparse, hlines, hpack, Bool.false_eq_true, if_false]

/-- The breadcrumb has ten words, so that the second chunk has sixteen. -/
theorem words_content : words (reopened.close 2).chunk.content = 16 := by
  have hcrumbs : reopened.crumbs = (plan.scope.visit 1 tree (-1)).1 := by
    unfold reopened
    rw [State.take_crumbs, ← Scope.collect_eq_visit]
    rfl
  show words (Scope.breadcrumb reopened.crumbs ++ bodyText reopened.kept) = 16
  rw [hcrumbs]
  decide

end Sample

/-- **A chunk can have more tokens than the budget**, of a well-behaved tokenizer too. -/
theorem exists_chunk_over_budget :
    ¬ ∀ (c : Chunker) (path : Path) (contents : String) (root : Node) (t : String → Int) (B : Int),
      0 < B → c.parse path contents = .ok (some root) → (∀ s, c.count s = .ok (t s)) →
      WellBehaved t → ∀ r, c.chunkFile ⟨path, contents, .whole B⟩ = .ok r →
      ∀ ch ∈ r.chunks, t ch.content ≤ B := by
  intro hclaim
  have hwithin := hclaim Sample.chunker Sample.path Sample.contents Sample.tree
    (fun s => (words s : Nat)) 14 (by decide) rfl (fun _ => rfl) wellBehaved_words _
    Sample.chunkFile_eq (Sample.reopened.close 2).chunk (List.mem_cons_of_mem _ List.mem_cons_self)
  have hcontent : ((words (Sample.reopened.close 2).chunk.content : Nat) : Int) ≤ 14 := hwithin
  rw [Sample.words_content] at hcontent
  omega

end Breadcrumb.Packing
