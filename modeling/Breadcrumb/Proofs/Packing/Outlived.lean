/-
  Breadcrumb.Proofs.Packing.Outlived
  ──────────────────────────────────
  **WHICH BREADCRUMBS ARE UNTRUE.**

  A breadcrumb is collected for the line at a boundary, whether that line is kept
  or not.  If it is kept, it is the first of the body, and all declarations of
  the breadcrumb cover it.  If it is dropped and the line after it is within the
  limit, the body begins with that one, under a breadcrumb that was collected a
  line too early (`Fetched`).

  So a header in a breadcrumb is that of a declaration which covers the first
  line of the body, unless the declaration ends with the dropped line before it
  (`Outlived`).
-/
import Breadcrumb.Proofs.Packing.Crumbs

namespace Breadcrumb.Packing

open Breadcrumb.Number Breadcrumb.Scope Breadcrumb.Text

variable {p : Plan} {t : String → Int} {B : Int}

/-! ## §1. Where the breadcrumb at hand was collected. -/

/-- A line that was read and dropped, among those that the piece at hand covers. -/
structure Dropped (B : Int) (done : List Line) (start : Nat) (l : Line) : Prop where
  mem : l ∈ done
  covered : start ≤ l.number
  full : B ≤ l.tokens

theorem Dropped.append {done : List Line} {start : Nat} {l : Line} (h : Dropped B done start l)
    (more : List Line) : Dropped B (done ++ more) start l :=
  ⟨List.mem_append_left more h.mem, h.covered, h.full⟩

/-- After the lines `done`: the line for which the breadcrumb at hand was collected. -/
inductive Fetched (p : Plan) (t : String → Int) (B : Int) (done : List Line) (s : State) : Prop
  /-- There is no breadcrumb. -/
  | none (crumbs : s.crumbs = [])
  /-- It is the first line of the body. -/
  | own {l : Line} {rest : List Line} {cursor : Int} (kept : s.kept = l :: rest)
      (crumbs : s.crumbs = (p.scope.collect p.root l.row cursor).1)
  /-- It is the last line read, which was dropped. -/
  | waiting {l : Line} {cursor : Int} (kept : s.kept = [])
      (crumbs : s.crumbs = (p.scope.collect p.root l.row cursor).1)
      (dropped : Dropped B done s.start l) (last : l.row + 1 = done.length)
  /-- It is the line before the body, which was dropped. -/
  | inherited {l k : Line} {rest : List Line} {cursor : Int} (kept : s.kept = k :: rest)
      (crumbs : s.crumbs = (p.scope.collect p.root l.row cursor).1)
      (dropped : Dropped B done s.start l) (next : l.row + 1 = k.row)
      (within : crumbTokens t s.crumbs + k.tokens ≤ B - margin)

/-- A line that has been collected for begins the body, or it is dropped and the next one may. -/
theorem fetched_take (hp : p.Regular t B) {done : List Line} {s : State} {l : Line} {cursor : Int}
    (hrow : l.row = done.length) (hstart : s.start ≤ l.number) (hempty : s.kept = [])
    (hcrumbs : s.crumbs = (p.scope.collect p.root l.row cursor).1) :
    Fetched p t B (done ++ [l]) (s.take p l) := by
  by_cases hfits : l.tokens < B
  · have hkept : (s.take p l).kept = [l] := by
      rw [State.take_kept hp, hempty, fitting_of_lt hfits, List.nil_append]
    exact .own hkept (State.take_crumbs.trans hcrumbs)
  · have hkept : (s.take p l).kept = [] := by
      rw [State.take_kept hp, hempty, fitting_of_le (by omega), List.nil_append]
    refine .waiting hkept (State.take_crumbs.trans hcrumbs) ⟨?_, ?_, ?_⟩ ?_
    · exact List.mem_append_right done (List.mem_singleton.mpr rfl)
    · rw [State.take_start]
      exact hstart
    · omega
    · rw [List.length_append, List.length_singleton, hrow]

/-- **One line keeps the account of the breadcrumb.** -/
theorem Fetched.read (hp : p.Regular t B) (hnonneg : ∀ s, 0 ≤ t s) {done : List Line}
    {s s' : State} {l : Line} {out : Option Piece} (h : Fetched p t B done s)
    (hused : s.used = cost s.kept) (hpos : 0 ≤ s.used) (hstart : s.start ≤ done.length + 1)
    (hrow : l.row = done.length) (hsteps : Steps p t B s l s' out) :
    Fetched p t B (done ++ [l]) s' := by
  cases hsteps with
  | stay within =>
    have hcrumbs : 0 ≤ t (Scope.breadcrumb s.crumbs) := hnonneg _
    unfold State.load at within
    -- What is within the limit of five less does not fill the budget.
    have hfits : l.tokens < B := by
      unfold margin at within
      omega
    have hkept : (s.take p l).kept = s.kept ++ [l] := by
      rw [State.take_kept hp, fitting_of_lt hfits]
    cases h with
    | none crumbs => exact .none (State.take_crumbs.trans crumbs)
    | own kept crumbs =>
      rw [kept] at hkept
      exact .own hkept (State.take_crumbs.trans crumbs)
    | waiting kept crumbs dropped last =>
      -- The line begins the body, and was weighed under the breadcrumb alone.
      rw [kept, cost_nil] at hused
      rw [kept] at hkept
      refine .inherited hkept (State.take_crumbs.trans crumbs) ?_ (by omega) ?_
      · rw [State.take_start]
        exact dropped.append [l]
      · rw [State.take_crumbs]
        unfold crumbTokens
        omega
    | inherited kept crumbs dropped next within' =>
      rw [kept] at hkept
      refine .inherited hkept (State.take_crumbs.trans crumbs) ?_ next ?_
      · rw [State.take_start]
        exact dropped.append [l]
      · rw [State.take_crumbs]
        exact within'
  | turn beyond empty =>
    -- The piece still begins with the lines dropped before this one.
    refine fetched_take hp hrow ?_ empty rfl
    rw [State.collect_start]
    unfold Line.number
    omega
  | cut beyond filled => exact fetched_take hp hrow (Nat.le_refl _) rfl rfl

/-- The breadcrumb at hand is accounted for all the way through a file. -/
theorem Reach.fetched (hp : p.Regular t B) (hnonneg : ∀ s, 0 ≤ t s) {done : List Line} {s : State}
    {pieces : List Piece} (h : Reach p t B done s pieces) (hrows : InRows done)
    (htokens : ∀ l ∈ done, 0 ≤ l.tokens) :
    Fetched p t B done s := by
  induction h with
  | start => exact .none rfl
  | @read done s s' pieces l out before steps ih =>
    have hdone : ∀ k ∈ done, 0 ≤ k.tokens := fun k hk => htokens k (List.mem_append_left _ hk)
    exact (ih hrows.of_append hdone).read hp hnonneg (before.used_eq hp)
      (before.used_nonneg hp hdone) (before.covered hp hrows.of_append).start_le hrows.row_eq steps

/-! ## §2. One piece. -/

/-- A declaration in the breadcrumb of a piece whose body begins with the line `k` ends with the
line before that: a line that the piece covers, but that was dropped, while `k` was within the
limit under the breadcrumb. -/
def Outlived (t : String → Int) (B : Int) (file : List Line) (q : Piece) (k : Line) (a : Capture) :
    Prop :=
  ∃ l, Dropped B file q.startLine l ∧ l.row + 1 = k.row ∧ a.node.span.endRow = l.row
    ∧ crumbTokens t q.crumbs + k.tokens ≤ B - margin

theorem Outlived.not_covers {file : List Line} {q : Piece} {k : Line} {a : Capture}
    (h : Outlived t B file q k a) : ¬ a.node.covers k.row = true := by
  obtain ⟨l, -, hnext, hend, -⟩ := h
  rw [Node.covers_iff]
  omega

/-- A capture in the breadcrumb of a body covers the line it was collected for: the first line, or
the dropped line before it. -/
theorem Fetched.of_mem (hnested : p.root.Nested) {done : List Line} {s : State}
    (h : Fetched p t B done s) {k : Line} {rest : List Line} (hkept : s.kept = k :: rest)
    {a : Capture} (ha : a ∈ s.crumbs) :
    ∃ l, (∃ n ∈ p.root.preorder, n.isDeclaration = true ∧ n.covers l.row = true
        ∧ a = p.scope.capture n)
      ∧ (l = k ∨ Dropped B done s.start l ∧ l.row + 1 = k.row
        ∧ crumbTokens t s.crumbs + k.tokens ≤ B - margin) := by
  cases h with
  | none crumbs =>
    rw [crumbs] at ha
    exact absurd ha List.not_mem_nil
  | @own l _ _ kept crumbs =>
    rw [crumbs] at ha
    exact ⟨l, mem_collect hnested ha, .inl (List.cons.inj (kept.symm.trans hkept)).1⟩
  | waiting kept =>
    rw [kept] at hkept
    cases hkept
  | @inherited l _ _ _ kept crumbs dropped next within =>
    rw [← (List.cons.inj (kept.symm.trans hkept)).1]
    refine ⟨l, ?_, .inr ⟨dropped, next, within⟩⟩
    rw [crumbs] at ha
    exact mem_collect hnested ha

/-- What the breadcrumb of a piece says about the first line of its body. -/
structure Headed (p : Plan) (t : String → Int) (B : Int) (file : List Line) (q : Piece) (k : Line) :
    Prop where
  mem : k ∈ file
  /-- It shows headers of declarations of the tree. -/
  genuine : ∀ a ∈ q.crumbs,
    ∃ n ∈ p.root.preorder, n.isDeclaration = true ∧ a = p.scope.capture n
  /-- They cover the line, except those that end with the dropped line before it. -/
  covers : ∀ a ∈ q.crumbs, a.node.covers k.row = true ↔ ¬ Outlived t B file q k a

/-- **The breadcrumb of a piece is true of its first line but for what that line has outlived.** -/
theorem Closed.headed (hp : p.Regular t B) (hnonneg : ∀ s, 0 ≤ t s) (hnested : p.root.Nested)
    {file : List Line} {q : Piece} (h : Closed p t B file q) (hrows : InRows file)
    (htokens : ∀ l ∈ file, 0 ≤ l.tokens) :
    ∃ k rest, q.lines = k :: rest ∧ Headed p t B file q k := by
  obtain ⟨done, more, s, pieces, rfl, hreach, filled, rfl, -⟩ := h
  have hfetched := hreach.fetched hp hnonneg hrows.of_append fun l hl =>
    htokens l (List.mem_append_left more hl)
  obtain ⟨k, rest, hkept⟩ := List.exists_cons_of_ne_nil filled
  have hmem : k ∈ done := hreach.mem_of_kept hp (by rw [hkept]; exact List.mem_cons_self)
  refine ⟨k, rest, hkept, List.mem_append_left more hmem, ?_, ?_⟩
  · intro a ha
    obtain ⟨l, ⟨n, hn, hdeclaration, -, hcapture⟩, -⟩ := hfetched.of_mem hnested hkept ha
    exact ⟨n, hn, hdeclaration, hcapture⟩
  · intro a ha
    obtain ⟨l, ⟨n, -, -, hcovers, rfl⟩, hline⟩ := hfetched.of_mem hnested hkept ha
    refine ⟨fun hk hout => hout.not_covers hk, ?_⟩
    intro htrue
    rcases hline with rfl | ⟨dropped, next, within⟩
    · exact hcovers
    · by_contra houtside
      apply htrue
      refine ⟨l, dropped.append more, next, ?_, within⟩
      -- It reaches down to the dropped line and no further.
      show n.span.endRow = l.row
      have houtside : ¬ n.covers k.row = true := houtside
      rw [Node.covers_iff] at hcovers houtside
      omega

/-! ## §3. A file. -/

/-- **THE OUTLIVED-HEADER THEOREM.**  For every text, nested tree, positive budget and tokenizer
that neither fails nor gives a negative number, a run over the text succeeds.  Every header in the
breadcrumb of a chunk is that of a declaration, which covers the first line of the body exactly if
it does not end with a dropped line right before it. -/
theorem chunkFile_headed {c : Chunker} {path : Path} {contents : String} {root : Node}
    {t : String → Int} {B : Int} (hB : 0 < B) (hparse : c.parse path contents = .ok (some root))
    (hcount : ∀ s, c.count s = .ok (t s)) (hnonneg : ∀ s, 0 ≤ t s) (hnested : root.Nested) :
    ∃ r, c.chunkFile ⟨path, contents, .whole B⟩ = .ok r ∧ r.failure = none
      ∧ ∀ q ∈ r.pieces, ∃ k rest, q.lines = k :: rest
          ∧ Headed (c.plan ⟨path, contents, .whole B⟩ root) t B (measuredLines t contents) q k := by
  obtain ⟨r, hrun, hok, hdone⟩ := chunkFile_completed hB hparse hcount
  have hregular : (c.plan ⟨path, contents, .whole B⟩ root).Regular t B := ⟨hcount, rfl⟩
  refine ⟨r, hrun, hok, ?_⟩
  intro q hq
  exact (hdone.closed q hq).headed hregular hnonneg hnested (inRows_measuredLines t contents)
    (tokens_nonneg_of_mem_measuredLines hnonneg)

/-! ## §4. A breadcrumb that is untrue. -/

/-- The rows of a tree are the rows of its octets in a source. -/
def RowsAgree (source : List Utf8.Octet) (root : Node) : Prop :=
  ∀ n ∈ root.preorder, n.span.startRow = (source.take n.span.startByte).count 10
    ∧ n.span.endRow = (source.take n.span.endByte).count 10

instance (source : List Utf8.Octet) (root : Node) : Decidable (RowsAgree source root) :=
  inferInstanceAs (Decidable (∀ n ∈ root.preorder,
    n.span.startRow = (source.take n.span.startByte).count 10
      ∧ n.span.endRow = (source.take n.span.endByte).count 10))

namespace Sample.OneLine

/-- A function on one line of twelve words, between two lines that are none of its own. -/
def contents : String :=
  "x = 1 + 2 + 3 + 4 + 5 + 6\ndef f(): return 1 + 2 + 3 + 4 + 5\ny = 7"

def tree : Node :=
  .node "module" ⟨0, 65, 0, 2⟩
    [.node "function_definition" ⟨26, 59, 1, 1⟩ [.node "block" ⟨35, 59, 1, 1⟩ []]]

def chunker : Chunker := ⟨fun _ _ => .ok (some tree), fun s => .ok (words s : Nat)⟩

/-- How it is packed under a budget of twelve words, which its first two lines fill alone. -/
def plan : Plan := chunker.plan ⟨path, contents, .whole 12⟩ tree

def ahead : Line := ⟨0, "x = 1 + 2 + 3 + 4 + 5 + 6", 13⟩

def function : Line := ⟨1, "def f(): return 1 + 2 + 3 + 4 + 5", 12⟩

def behind : Line := ⟨2, "y = 7", 3⟩

/-- The state with the line ahead dropped, for which nothing is collected. -/
def passed : State := (({} : State).collect plan 0).take plan ahead

/-- The state with the function dropped, and the breadcrumb that was collected for it. -/
def waiting : State := (passed.collect plan 1).take plan function

/-- The state with the line behind kept under that breadcrumb. -/
def misled : State := waiting.take plan behind

theorem nested : tree.Nested := ⟨by decide, by decide⟩

theorem measuredLines_eq :
    measuredLines (fun s => (words s : Nat)) contents = [ahead, function, behind] := by
  decide

theorem passed_crumbs_eq : passed.crumbs = (plan.scope.visit 0 tree (-1)).1 :=
  State.crumbs_eq_visit

theorem passed_cursor_eq : passed.cursor = (plan.scope.visit 0 tree (-1)).2 :=
  State.cursor_eq_visit

theorem waiting_crumbs_eq :
    waiting.crumbs = (plan.scope.visit 1 tree (plan.scope.visit 0 tree (-1)).2).1 := by
  rw [← passed_cursor_eq]
  exact State.crumbs_eq_visit

theorem steps_ahead : Steps plan (fun s => (words s : Nat)) 12 {} ahead passed none :=
  .turn (by decide) rfl

theorem steps_function : Steps plan (fun s => (words s : Nat)) 12 passed function waiting none := by
  refine .turn ?_ (by decide)
  unfold State.load
  rw [passed_crumbs_eq]
  decide

/-- The header has three words, so that three more are within the limit of seven. -/
theorem steps_behind : Steps plan (fun s => (words s : Nat)) 12 waiting behind misled none := by
  refine .stay ?_
  unfold State.load
  rw [waiting_crumbs_eq]
  decide

theorem misled_headers : misled.crumbs.map Capture.header = ["# def f():"] := by
  rw [show misled.crumbs = waiting.crumbs from State.take_crumbs, waiting_crumbs_eq]
  decide

/-- The run shows the last line under the breadcrumb of the function. -/
theorem exists_chunkFile_eq :
    ∃ r, chunker.chunkFile ⟨path, contents, .whole 12⟩ = .ok r ∧ r.pieces = [misled.close 3] := by
  have hreach : Reach plan (fun s => (words s : Nat)) 12
      (measuredLines (fun s => (words s : Nat)) contents) misled [] := by
    rw [measuredLines_eq]
    exact ((Reach.start.read steps_ahead).read steps_function).read steps_behind
  obtain ⟨r, hrun, hpieces⟩ := chunkFile_of_reach (c := chunker) (k := behind) (by decide) rfl
    (fun _ => rfl) (by decide) hreach (by decide) (by decide)
  rw [measuredLines_eq] at hpieces
  exact ⟨r, hrun, hpieces⟩

theorem rowsAgree : RowsAgree (Utf8.encodeString contents) tree := by decide

theorem not_covers_behind :
    ¬ ∃ n ∈ tree.preorder, n.isDeclaration = true ∧ n.covers behind.row = true := by decide

end Sample.OneLine

/-- The sample under a budget of twelve words. -/
theorem sample_headed :
    (0 : Int) < 12
      ∧ Sample.OneLine.chunker.parse Sample.path Sample.OneLine.contents
          = .ok (some Sample.OneLine.tree)
      ∧ (∀ s, (0 : Int) ≤ (words s : Nat)) ∧ Sample.OneLine.tree.Nested
      ∧ ∃ r, Sample.OneLine.chunker.chunkFile ⟨Sample.path, Sample.OneLine.contents, .whole 12⟩
          = .ok r
        ∧ r.failure = none
        ∧ ∀ q ∈ r.pieces, ∃ k rest, q.lines = k :: rest
            ∧ Headed Sample.OneLine.plan (fun s => (words s : Nat)) 12
                (measuredLines (fun s => (words s : Nat)) Sample.OneLine.contents) q k :=
  ⟨by decide, rfl, fun _ => Int.natCast_nonneg _, Sample.OneLine.nested,
    chunkFile_headed (by decide) rfl (fun _ => rfl) (fun _ => Int.natCast_nonneg _)
      Sample.OneLine.nested⟩

/-- **A breadcrumb can show a declaration that does not cover the first line of the body**: its one
line is dropped, and the line after it is within the limit under its header. -/
theorem exists_header_untrue :
    ¬ ∀ (c : Chunker) (path : Path) (contents : String) (root : Node) (t : String → Int) (B : Int),
      0 < B → c.parse path contents = .ok (some root) → (∀ s, c.count s = .ok (t s)) →
      (∀ s, 0 ≤ t s) → root.Nested → RowsAgree (Utf8.encodeString contents) root →
      ∀ r, c.chunkFile ⟨path, contents, .whole B⟩ = .ok r →
      ∀ q ∈ r.pieces, ∀ k rest, q.lines = k :: rest → ∀ a ∈ q.crumbs,
        ∃ n ∈ root.preorder, n.isDeclaration = true ∧ n.covers k.row = true
          ∧ a.header = (c.plan ⟨path, contents, .whole B⟩ root).scope.header n := by
  intro hclaim
  obtain ⟨r, hrun, hpieces⟩ := Sample.OneLine.exists_chunkFile_eq
  have hpiece : Sample.OneLine.misled.close 3 ∈ r.pieces := by
    rw [hpieces]
    exact List.mem_singleton.mpr rfl
  have hlines : (Sample.OneLine.misled.close 3).lines = [Sample.OneLine.behind] := by
    decide
  have htrue := hclaim Sample.OneLine.chunker Sample.path Sample.OneLine.contents
    Sample.OneLine.tree (fun s => (words s : Nat)) 12 (by decide) rfl (fun _ => rfl)
    (fun _ => Int.natCast_nonneg _) Sample.OneLine.nested Sample.OneLine.rowsAgree r hrun _ hpiece
    _ _ hlines
  -- The breadcrumb is not empty, but nothing covers the line that it stands before.
  have hheader : "# def f():" ∈ Sample.OneLine.misled.crumbs.map Capture.header := by
    rw [Sample.OneLine.misled_headers]
    exact List.mem_singleton.mpr rfl
  obtain ⟨a, ha, -⟩ := List.mem_map.mp hheader
  obtain ⟨n, hn, hdeclaration, hcovers, -⟩ := htrue a ha
  exact Sample.OneLine.not_covers_behind ⟨n, hn, hdeclaration, hcovers⟩

end Breadcrumb.Packing
