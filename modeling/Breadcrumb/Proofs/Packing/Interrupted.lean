/-
  Breadcrumb.Proofs.Packing.Interrupted
  ─────────────────────────────────────
  **A RUN THAT FAILS HAS GIVEN NOTHING WRONG.**

  A run counts texts at two places: all lines before the first chunk, and then, line
  by line, the breadcrumb of the piece at hand.  Two tokenizers that agree wherever
  the first one does not fail pack a file in step with one another (`Passes`) up to
  the first text on which it does.

  So the chunks of the run that fails are the first chunks of the other
  (`packFrom_of_extends`); a line on which the tokenizer fails leaves no chunk at all,
  and any other failure is that of a breadcrumb (`chunkFile_interrupted`).
-/
import Breadcrumb.Proofs.Packing.Piecemeal

namespace Breadcrumb.Packing

open Breadcrumb.Number Breadcrumb.Text Breadcrumb.Tokens

/-! ## §1. Lines. -/

/-- The second tokenizer gives every number that the first one gives. -/
def Extends (count count' : Tokenizer) : Prop := ∀ s n, count s = .ok n → count' s = .ok n

variable {count count' : Tokenizer}

theorem countFrom_cons_of_ok {text : String} {n : Int} (h : count text = .ok n) (row : Nat)
    (texts : List String) :
    countFrom count row (text :: texts)
      = (countFrom count (row + 1) texts).map (⟨row, text, n⟩ :: ·) := by
  rw [countFrom, h]
  cases countFrom count (row + 1) texts <;> rfl

/-- **Counting lines fails on the first line that cannot be counted.** -/
theorem countFrom_of_error {before : List String} {text : String} {f : Failure}
    (hbefore : ∀ s ∈ before, ∃ n, count s = .ok n) (htext : count text = .error f)
    (after : List String) :
    ∀ row, countFrom count row (before ++ text :: after) = .error f := by
  induction before with
  | nil =>
    intro row
    rw [List.nil_append, countFrom, htext]
  | cons s before ih =>
    intro row
    obtain ⟨n, hn⟩ := hbefore s List.mem_cons_self
    rw [List.cons_append, countFrom_cons_of_ok hn,
      ih (fun x hx => hbefore x (List.mem_cons_of_mem s hx))]
    rfl

/-- Lines that can be counted one by one are counted. -/
theorem exists_countFrom {texts : List String} (h : ∀ s ∈ texts, ∃ n, count s = .ok n) :
    ∀ row, ∃ ls, countFrom count row texts = .ok ls := by
  induction texts with
  | nil => exact fun _ => ⟨[], rfl⟩
  | cons s texts ih =>
    intro row
    obtain ⟨n, hn⟩ := h s List.mem_cons_self
    obtain ⟨ls, hls⟩ := ih (fun x hx => h x (List.mem_cons_of_mem s hx)) (row + 1)
    rw [countFrom_cons_of_ok hn, hls]
    exact ⟨_, rfl⟩

/-- A tokenizer that extends another counts the same lines alike. -/
theorem countFrom_of_extends (hext : Extends count count') {texts : List String} :
    ∀ {row ls}, countFrom count row texts = .ok ls → countFrom count' row texts = .ok ls := by
  induction texts with
  | nil => exact fun h => h
  | cons s texts ih =>
    intro row ls h
    cases hs : count s with
    | error f =>
      rw [countFrom, hs] at h
      cases h
    | ok n =>
      rw [countFrom_cons_of_ok hs] at h
      cases hrest : countFrom count (row + 1) texts with
      | error f =>
        rw [hrest] at h
        cases h
      | ok rest =>
        rw [hrest] at h
        rw [countFrom_cons_of_ok (hext s n hs), ih hrest]
        exact h

/-! ## §2. In step. -/

variable {p : Plan}

/-- A line fails just if the breadcrumb of the piece at hand cannot be counted. -/
theorem step_eq_error_iff {s : State} {l : Line} {f : Failure} :
    step p s l = .error f ↔ p.count (Scope.breadcrumb s.crumbs) = .error f := by
  unfold step
  cases p.count (Scope.breadcrumb s.crumbs) with
  | error g => simp
  | ok n =>
    -- Nothing else that a line does can fail.
    refine iff_of_false ?_ (fun h => nomatch h)
    intro h
    simp only at h
    split at h
    · split at h <;> cases h
    · cases h

/-- A line that does not fail is packed alike by a tokenizer that gives the same numbers. -/
theorem step_of_extends (hext : Extends p.count count') {s : State} {l : Line}
    {out : State × Option Piece} (h : step p s l = .ok out) :
    step { p with count := count' } s l = .ok out := by
  cases hcrumbs : p.count (Scope.breadcrumb s.crumbs) with
  | error f =>
    rw [step_eq_error_iff.mpr hcrumbs] at h
    cases h
  | ok n =>
    have hcrumbs' : ({ p with count := count' } : Plan).count (Scope.breadcrumb s.crumbs) = .ok n :=
      hext _ n hcrumbs
    unfold step at h ⊢
    rw [hcrumbs] at h
    rw [hcrumbs']
    exact h

/-- From one state, lines are packed without a failure: the pieces closed, and the state after. -/
inductive Passes (p : Plan) : State → List Line → List Piece → State → Prop
  /-- No line is left. -/
  | nil (s : State) : Passes p s [] [] s
  /-- One line is packed, and then the others. -/
  | cons {s s' last : State} {l : Line} {ls : List Line} {out : Option Piece}
      {pieces : List Piece} (first : step p s l = .ok (s', out))
      (rest : Passes p s' ls pieces last) :
      Passes p s (l :: ls) (out.toList ++ pieces) last

/-- **Two tokenizers pass lines in step**, as long as the first one does not fail. -/
theorem Passes.of_extends (hext : Extends p.count count') {s last : State} {ls : List Line}
    {pieces : List Piece} (h : Passes p s ls pieces last) :
    Passes { p with count := count' } s ls pieces last := by
  induction h with
  | nil s => exact .nil s
  | cons first rest ih => exact .cons (step_of_extends hext first) ih

theorem packFrom_cons_of_ok {s s' : State} {l : Line} {out : Option Piece}
    (h : step p s l = .ok (s', out)) (n : Nat) (ls : List Line) :
    packFrom p n s (l :: ls)
      = ⟨out.toList ++ (packFrom p n s' ls).pieces, (packFrom p n s' ls).failure⟩ := by
  rw [packFrom, h]
  cases out with
  | none => rfl
  | some piece => rfl

/-- A run passes the lines that can be packed and goes on from there. -/
theorem Passes.packFrom_append {s last : State} {done : List Line} {pieces : List Piece}
    (h : Passes p s done pieces last) (n : Nat) (rest : List Line) :
    packFrom p n s (done ++ rest)
      = ⟨pieces ++ (packFrom p n last rest).pieces, (packFrom p n last rest).failure⟩ := by
  induction h with
  | nil s => rfl
  | cons first more ih =>
    rw [List.cons_append, packFrom_cons_of_ok first, ih, List.append_assoc]

/-- Where a run breaks off: lines have been passed, and the breadcrumb that is at hand cannot be
counted for the next one. -/
def BreaksOff (p : Plan) (s : State) (ls : List Line) (pieces : List Piece) (f : Failure) : Prop :=
  ∃ done l rest last, ls = done ++ l :: rest ∧ Passes p s done pieces last
    ∧ p.count (Scope.breadcrumb last.crumbs) = .error f

/-- **A run passes all its lines, or it breaks off** with the pieces closed until then. -/
theorem packFrom_cases (p : Plan) (n : Nat) (ls : List Line) :
    ∀ s, (∃ pieces last, Passes p s ls pieces last
          ∧ packFrom p n s ls = ⟨pieces ++ (finish last n).toList, none⟩)
        ∨ ∃ pieces f, BreaksOff p s ls pieces f ∧ packFrom p n s ls = ⟨pieces, some f⟩ := by
  induction ls with
  | nil => exact fun s => .inl ⟨[], s, .nil s, rfl⟩
  | cons l ls ih =>
    intro s
    cases hstep : step p s l with
    | error f =>
      refine .inr ⟨[], f, ⟨[], l, ls, s, rfl, .nil s, step_eq_error_iff.mp hstep⟩, ?_⟩
      rw [packFrom, hstep]
    | ok out =>
      obtain ⟨s', closed⟩ := out
      rw [packFrom_cons_of_ok hstep]
      rcases ih s' with ⟨pieces, last, hpass, hrun⟩ | ⟨pieces, f, hbreak, hrun⟩
      · refine .inl ⟨_, last, .cons hstep hpass, ?_⟩
        rw [hrun, List.append_assoc]
      · obtain ⟨done, k, rest, last, hls, hpass, hcount⟩ := hbreak
        refine .inr ⟨_, f, ⟨l :: done, k, rest, last, ?_, .cons hstep hpass, hcount⟩, ?_⟩
        · rw [hls, List.cons_append]
        · rw [hrun]

/-- **The pieces of a run that breaks off are the first ones of a run that does not**, and a run
that does not break off is the same for both tokenizers. -/
theorem packFrom_of_extends (hext : Extends p.count count') (n : Nat) (s : State) (ls : List Line) :
    ((packFrom p n s ls).failure = none
        ∧ packFrom { p with count := count' } n s ls = packFrom p n s ls)
      ∨ ∃ pieces f, packFrom p n s ls = ⟨pieces, some f⟩ ∧ BreaksOff p s ls pieces f
        ∧ pieces <+: (packFrom { p with count := count' } n s ls).pieces := by
  rcases packFrom_cases p n ls s with ⟨pieces, last, hpass, hrun⟩ | ⟨pieces, f, hbreak, hrun⟩
  · left
    have hsame := (hpass.of_extends hext).packFrom_append n []
    rw [List.append_nil] at hsame
    rw [hsame, hrun]
    exact ⟨rfl, rfl⟩
  · right
    refine ⟨pieces, f, hrun, hbreak, ?_⟩
    obtain ⟨done, l, rest, last, rfl, hpass, -⟩ := hbreak
    rw [(hpass.of_extends hext).packFrom_append n]
    exact List.prefix_append pieces _

/-! ## §3. A file. -/

/-- How the report `r` of a run that may fail lies to the report `r'` of a run that gives the same
numbers and fails on less. -/
structure Precedes (c c' : Chunker) (j : Job) (root : Node) (r r' : Report) : Prop where
  /-- The chunks are the first ones of the other run. -/
  chunks : r.chunks <+: r'.chunks
  /-- Without a failure the two runs are the same. -/
  eq_of_ok : r.failure = none → r' = r
  /-- Of a blank file no text is counted, so that nothing fails. -/
  blank : allBlank j.contents = true → r.counted = false ∧ r.pieces = [] ∧ r.failure = none
  /-- A line that cannot be counted leaves no chunk, and the failure is that of the first one. -/
  line : allBlank j.contents = false → ∀ before text after f,
    lines j.contents = before ++ text :: after → (∀ s ∈ before, ∃ n, c.count s = .ok n) →
    c.count text = .error f → r.pieces = [] ∧ r.failure = some f
  /-- If all lines can be counted, a failure is that of a breadcrumb, up to which both runs have
  passed the same lines and closed the same pieces. -/
  breadcrumb : (∀ text ∈ lines j.contents, ∃ n, c.count text = .ok n) → ∀ f, r.failure = some f →
    ∃ done l rest last, countLines c.count (lines j.contents) = .ok (done ++ l :: rest)
      ∧ Passes (c.plan j root) {} done r.pieces last
      ∧ Passes (c'.plan j root) {} done r.pieces last
      ∧ c.count (Scope.breadcrumb last.crumbs) = .error f

/-- A run over a file whose lines cannot all be counted fails on the first of those. -/
theorem run_of_line_error {c : Chunker} {j : Job} {root : Node}
    (hfilled : allBlank j.contents = false) (hparse : c.parse j.path j.contents = .ok (some root))
    {before after : List String} {text : String} {f : Failure}
    (hsplit : lines j.contents = before ++ text :: after)
    (hbefore : ∀ s ∈ before, ∃ n, c.count s = .ok n) (htext : c.count text = .error f) :
    c.run j = { failure := some f, parsed := true, counted := true } := by
  have hlines : countLines c.count (lines j.contents) = .error f := by
    unfold countLines
    rw [hsplit]
    exact countFrom_of_error hbefore htext after 0
  simp only [Chunker.run, hfilled, hparse, hlines, Bool.false_eq_true, if_false]

/-- Lines that cannot all be counted have a first one that cannot. -/
theorem exists_first_error {texts : List String} (h : ¬ ∀ s ∈ texts, ∃ n, count s = .ok n) :
    ∃ before text after f, texts = before ++ text :: after
      ∧ (∀ s ∈ before, ∃ n, count s = .ok n) ∧ count text = .error f := by
  induction texts with
  | nil => exact absurd (fun s hs => absurd hs List.not_mem_nil) h
  | cons s texts ih =>
    cases hs : count s with
    | error f => exact ⟨[], s, texts, f, rfl, fun _ hx => absurd hx List.not_mem_nil, hs⟩
    | ok n =>
      obtain ⟨before, text, after, f, htexts, hbefore, htext⟩ := ih (by
        intro hall
        apply h
        intro x hx
        rcases List.mem_cons.mp hx with rfl | hx
        · exact ⟨n, hs⟩
        · exact hall x hx)
      refine ⟨s :: before, text, after, f, by rw [htexts, List.cons_append], ?_, htext⟩
      intro x hx
      rcases List.mem_cons.mp hx with rfl | hx
      · exact ⟨n, hs⟩
      · exact hbefore x hx

/-- **A run over lines that can all be counted** and a run with the other tokenizer. -/
theorem precedes_of_lines {c : Chunker} {j : Job} {root : Node} (hext : Extends c.count count')
    (hfilled : allBlank j.contents = false) (hparse : c.parse j.path j.contents = .ok (some root))
    (hall : ∀ s ∈ lines j.contents, ∃ n, c.count s = .ok n) :
    Precedes c { c with count := count' } j root (c.run j)
      (({ c with count := count' } : Chunker).run j) := by
  obtain ⟨ls, hlines⟩ := exists_countFrom hall 0
  have hlines' : countLines count' (lines j.contents) = .ok ls := countFrom_of_extends hext hlines
  have hrun := run_of_lines hfilled hparse hlines
  have hrun' : ({ c with count := count' } : Chunker).run j = _ :=
    run_of_lines hfilled hparse hlines'
  have hblank : allBlank j.contents ≠ true := by
    rw [hfilled]
    exact Bool.false_ne_true
  have hline : ∀ before text after f, lines j.contents = before ++ text :: after →
      c.count text ≠ .error f := by
    intro before text after f hsplit htext
    obtain ⟨n, hn⟩ := hall text (by rw [hsplit]; exact List.mem_append_right _ List.mem_cons_self)
    rw [htext] at hn
    cases hn
  have hpack := packFrom_of_extends (p := c.plan j root) hext ls.length {} ls
  rw [hrun, hrun']
  rcases hpack with ⟨hok, hsame⟩ | ⟨pieces, f, hbroken, hbreak, hinitial⟩
  · -- The runs are the same and do not fail.
    have hsame' : packFrom (({ c with count := count' } : Chunker).plan j root) ls.length {} ls
        = packFrom (c.plan j root) ls.length {} ls := hsame
    rw [hsame']
    refine ⟨List.prefix_rfl, fun _ => rfl, fun h => absurd h hblank, ?_, ?_⟩
    · intro _ before text after f hsplit _ htext
      exact absurd htext (hline before text after f hsplit)
    · intro _ f hf
      rw [show (packFrom (c.plan j root) ls.length {} ls).failure = some f from hf] at hok
      cases hok
  · -- The first run breaks off at a breadcrumb.
    rw [hbroken]
    refine ⟨hinitial.map Piece.chunk, fun h => absurd h (Option.some_ne_none f),
      fun h => absurd h hblank, ?_, ?_⟩
    · intro _ before text after g hsplit _ htext
      exact absurd htext (hline before text after g hsplit)
    · intro _ g hg
      obtain ⟨done, l, rest, last, hls, hpass, hcount⟩ := hbreak
      have hfg : f = g := Option.some.inj hg
      rw [hls] at hlines
      refine ⟨done, l, rest, last, hlines, hpass, hpass.of_extends hext, ?_⟩
      rw [← hfg]
      exact hcount

/-- **THE INTERRUPTION THEOREM.**  For every text, tree and positive budget and any two tokenizers
of which the second gives every number that the first gives, both runs over the text give a report,
and the chunks of the first are the first chunks of the second; they are all of them, and nothing
fails, unless the first tokenizer fails.  If it fails on a line, there is no chunk, and the failure
is that of the first such line; otherwise it is that of a breadcrumb, and up to there both runs have
passed the same lines. -/
theorem chunkFile_interrupted {c : Chunker} {count' : Tokenizer} {path : Path} {contents : String}
    {root : Node} {B : Int} (hB : 0 < B) (hparse : c.parse path contents = .ok (some root))
    (hext : ∀ s n, c.count s = .ok n → count' s = .ok n) :
    ∃ r r', c.chunkFile ⟨path, contents, .whole B⟩ = .ok r
      ∧ ({ c with count := count' } : Chunker).chunkFile ⟨path, contents, .whole B⟩ = .ok r'
      ∧ Precedes c { c with count := count' } ⟨path, contents, .whole B⟩ root r r' := by
  have hcheck : checkBudget (.whole B) = .ok () := checkBudget_whole hB
  refine ⟨_, _, chunkFile_of_checkBudget c hcheck, chunkFile_of_checkBudget _ hcheck, ?_⟩
  cases hblank : allBlank contents with
  | true =>
    have hrun : ∀ d : Chunker, d.run ⟨path, contents, .whole B⟩ = {} := by
      intro d
      simp only [Chunker.run, hblank, if_true]
    rw [hrun, hrun]
    refine ⟨List.prefix_rfl, fun _ => rfl, fun _ => ⟨rfl, rfl, rfl⟩, ?_,
      fun _ g h => absurd h.symm (Option.some_ne_none g)⟩
    intro hfilled
    rw [show allBlank contents = true from hblank] at hfilled
    cases hfilled
  | false =>
    by_cases hall : ∀ s ∈ lines contents, ∃ n, c.count s = .ok n
    · exact precedes_of_lines hext hblank hparse hall
    · obtain ⟨before, text, after, f, hsplit, hbefore, htext⟩ := exists_first_error hall
      have hrun := run_of_line_error (c := c) (j := ⟨path, contents, .whole B⟩) hblank hparse
        hsplit hbefore htext
      rw [hrun]
      refine ⟨List.nil_prefix, fun h => absurd h (Option.some_ne_none f), ?_, ?_,
        fun h => absurd h hall⟩
      · intro htrue
        rw [show allBlank contents = false from hblank] at htrue
        cases htrue
      · -- Every first line that fails is this one.
        intro _ before' text' after' g hsplit' hbefore' htext'
        have hrun' := run_of_line_error (c := c) (j := ⟨path, contents, .whole B⟩) hblank hparse
          hsplit' hbefore' htext'
        exact ⟨rfl, congrArg Report.failure (hrun.symm.trans hrun')⟩

namespace Sample

/-- The sample with its last line ended: after the boundary a breadcrumb is counted. -/
def ended : String := contents ++ "\n"

/-- A chunker for it that counts words, but fails on a comment. -/
def faltering : Chunker where
  parse := chunker.parse
  count := ({ failOn := some ("#", .breakdown "tokenizer down") } : Meter).count

/-- Where it does not fail, it counts words. -/
theorem extends_words : ∀ s n, faltering.count s = .ok n → chunker.count s = .ok n := by
  intro s n h
  have hcount : (if occursIn "#".toList s.toList then .error (.breakdown "tokenizer down")
      else .ok (words s : Nat) : Except Failure Int) = .ok n := h
  split at hcount
  · cases hcount
  · exact hcount

end Sample

/-- The sample under a budget of fourteen words, with a tokenizer that fails on its breadcrumb. -/
theorem sample_interrupted :
    (0 : Int) < 14 ∧ Sample.faltering.parse Sample.path Sample.ended = .ok (some Sample.tree)
      ∧ (∀ s n, Sample.faltering.count s = .ok n → Sample.chunker.count s = .ok n)
      ∧ ∃ r r', Sample.faltering.chunkFile ⟨Sample.path, Sample.ended, .whole 14⟩ = .ok r
        ∧ ({ Sample.faltering with count := Sample.chunker.count } : Chunker).chunkFile
            ⟨Sample.path, Sample.ended, .whole 14⟩ = .ok r'
        ∧ Precedes Sample.faltering { Sample.faltering with count := Sample.chunker.count }
            ⟨Sample.path, Sample.ended, .whole 14⟩ Sample.tree r r' :=
  ⟨by decide, rfl, Sample.extends_words,
    chunkFile_interrupted (by decide) rfl Sample.extends_words⟩

end Breadcrumb.Packing
