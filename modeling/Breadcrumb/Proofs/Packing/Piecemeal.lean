/-
  Breadcrumb.Proofs.Packing.Piecemeal
  ───────────────────────────────────
  **CHUNKS TAKEN ONE AT A TIME ARE THOSE OF A COMPLETE RUN.**

  A reading can be opened anew, asked and closed in any order.  What it still has
  to answer is a list (`Reading.pending`): for a fresh one the answers of the
  complete run, and asking takes the first away (`next_pending`).  So after any
  moves at a desk the open reading stands as far into the complete run as it has
  been asked (`Stands`), whatever became of the readings before it.

  `moves_serve` reads the answers and their cost off the moves alone: how often
  the open reading has been asked (`asked`), and how many readings have been asked
  at all (`consulted`).
-/
import Breadcrumb.Packing.Reading
import Breadcrumb.Proofs.Packing.Coverage

namespace Breadcrumb.Packing

open Breadcrumb.Number Breadcrumb.Text Breadcrumb.Tokens

variable {c : Chunker} {j : Job}

/-! ## §1. What a complete run answers one by one. -/

/-- What asking for the chunk of a number gives, counted from zero: that chunk, after the last one
the failure that ended the run, and otherwise that nothing is left. -/
def Report.answer (r : Report) (k : Nat) : Reply :=
  match r.chunks[k]?, r.failure with
  | some chunk, _ => .chunk chunk
  | none, some f => if k = r.chunks.length then .failed f else .exhausted
  | none, none => .exhausted

/-- The answers of a run up to its last chunk or its failure. -/
def replies (pieces : List Piece) (failure : Option Failure) : List Reply :=
  pieces.map (fun q => .chunk q.chunk) ++ (failure.map Reply.failed).toList

/-- After its answers, a run says that nothing is left. -/
theorem Report.answer_eq (r : Report) (k : Nat) :
    r.answer k = ((replies r.pieces r.failure).drop k).headD .exhausted := by
  have hhead : ((replies r.pieces r.failure).drop k).headD .exhausted
      = (replies r.pieces r.failure)[k]?.getD .exhausted := by
    rw [List.headD_eq_head?_getD, List.head?_drop]
  have hlength : r.chunks.length = r.pieces.length := List.length_map _
  rw [hhead]
  unfold Report.answer replies
  rcases Nat.lt_or_ge k r.pieces.length with hlt | hge
  · -- The chunk of a piece.
    rw [List.getElem?_append_left (by simpa using hlt), List.getElem?_eq_getElem (by omega)]
    simp [Report.chunks, hlt]
  · rw [List.getElem?_append_right (by simpa using hge), List.getElem?_eq_none (by omega)]
    cases r.failure with
    | none => simp
    | some f =>
      rcases Nat.eq_or_lt_of_le hge with heq | hgt
      · simp [hlength, heq]
      · have hnone : ([Reply.failed f])[k - r.pieces.length]? = none :=
          List.getElem?_eq_none (by simpa using by omega)
        simp only [Option.map_some, Option.toList_some, List.length_map, hnone]
        rw [if_neg (by omega)]
        rfl

/-- An answer that is no chunk is the last one. -/
theorem Report.answer_of_over (r : Report) {k l : Nat} (hkl : k < l)
    (hover : ∀ chunk, r.answer k ≠ .chunk chunk) : r.answer l = .exhausted := by
  have hk : r.chunks.length ≤ k := by
    by_contra hless
    have hlt : k < r.chunks.length := by omega
    refine hover r.chunks[k] ?_
    unfold Report.answer
    rw [List.getElem?_eq_getElem (by omega)]
  unfold Report.answer
  rw [List.getElem?_eq_none (by omega)]
  cases r.failure with
  | none => rfl
  | some f => exact if_neg (by omega)

/-! ## §2. One asking. -/

/-- The answers that a reading has yet to give before nothing is left. -/
def Reading.pending (c : Chunker) (j : Job) : Reading → List Reply
  | .fresh => replies (c.run j).pieces (c.run j).failure
  | .paused p s rest n => replies (packFrom p n s rest).pieces (packFrom p n s rest).failure
  | .done => []

/-- Packing up to the next piece gives the first answer of packing all that is left. -/
theorem advance_pending (c : Chunker) (j : Job) (p : Plan) (n : Nat) (rest : List Line) :
    ∀ s, (advance p n s rest).1
        = (replies (packFrom p n s rest).pieces (packFrom p n s rest).failure).headD .exhausted
      ∧ (advance p n s rest).2.pending c j
        = (replies (packFrom p n s rest).pieces (packFrom p n s rest).failure).tail := by
  induction rest with
  | nil =>
    intro s
    unfold advance packFrom
    cases finish s n with
    | none => exact ⟨rfl, rfl⟩
    | some piece => exact ⟨rfl, rfl⟩
  | cons l rest ih =>
    intro s
    unfold advance packFrom
    cases step p s l with
    | error f => exact ⟨rfl, rfl⟩
    | ok out =>
      obtain ⟨s', closed⟩ := out
      cases closed with
      | none => exact ih s'
      | some piece => exact ⟨rfl, rfl⟩

/-- A budget that is not zero or less is accepted. -/
theorem checkBudget_of_notPositive {budget : Quantity} (h : budget.notPositive = false) :
    checkBudget budget = .ok () := by
  unfold checkBudget
  rw [h]
  rfl

/-- With a budget that is accepted, a file is packed. -/
theorem chunkFile_of_checkBudget (c : Chunker) (h : checkBudget j.budget = .ok ()) :
    c.chunkFile j = .ok (c.run j) := by
  unfold Chunker.chunkFile
  rw [h]
  rfl

/-- A file with lines that can be counted is packed line by line. -/
theorem run_of_lines {root : Node} {ls : List Line} (hfilled : allBlank j.contents = false)
    (hparse : c.parse j.path j.contents = .ok (some root))
    (hlines : countLines c.count (lines j.contents) = .ok ls) :
    c.run j = { pieces := (packFrom (c.plan j root) ls.length {} ls).pieces,
                failure := (packFrom (c.plan j root) ls.length {} ls).failure,
                parsed := true, counted := true } := by
  simp only [Chunker.run, hfilled, hparse, hlines, Bool.false_eq_true, if_false, pack]

/-- Its reading goes up to the first piece. -/
theorem next_of_lines {root : Node} {ls : List Line} (hfilled : allBlank j.contents = false)
    (hparse : c.parse j.path j.contents = .ok (some root))
    (hlines : countLines c.count (lines j.contents) = .ok ls) :
    Reading.fresh.next c j
      = ({ reply := (advance (c.plan j root) ls.length {} ls).1, parsed := true, counted := true },
          (advance (c.plan j root) ls.length {} ls).2) := by
  simp only [Reading.next, hfilled, hparse, hlines, Bool.false_eq_true, if_false]

/-- **Asking a reading takes the first of its answers.** -/
theorem next_pending (c : Chunker) (j : Job) (r : Reading) :
    (r.next c j).1.reply = (r.pending c j).headD .exhausted
      ∧ (r.next c j).2.pending c j = (r.pending c j).tail := by
  cases r with
  | done => exact ⟨rfl, rfl⟩
  | paused p s rest n => exact advance_pending c j p n rest s
  | fresh =>
    show _ = (replies (c.run j).pieces (c.run j).failure).headD .exhausted
      ∧ (Reading.fresh.next c j).2.pending c j = (replies (c.run j).pieces (c.run j).failure).tail
    cases hblank : allBlank j.contents with
    | true => simp [Reading.next, Reading.pending, Chunker.run, hblank, replies]
    | false =>
      cases hparse : c.parse j.path j.contents with
      | error f => simp [Reading.next, Reading.pending, Chunker.run, hblank, hparse, replies]
      | ok tree =>
        cases tree with
        | none => simp [Reading.next, Reading.pending, Chunker.run, hblank, hparse, replies]
        | some root =>
          cases hlines : countLines c.count (lines j.contents) with
          | error f =>
            simp [Reading.next, Reading.pending, Chunker.run, hblank, hparse, hlines, replies]
          | ok ls =>
            rw [next_of_lines hblank hparse hlines, run_of_lines hblank hparse hlines]
            exact advance_pending c j (c.plan j root) ls.length ls {}

/-- The file has something in it, and a tree. -/
def HasTree (c : Chunker) (j : Job) : Prop :=
  allBlank j.contents = false ∧ ∃ root, c.parse j.path j.contents = .ok (some root)

/-- Packing up to the next piece does not open a reading. -/
theorem advance_ne_fresh (p : Plan) (n : Nat) (rest : List Line) :
    ∀ s, (advance p n s rest).2 ≠ .fresh := by
  induction rest with
  | nil =>
    intro s
    unfold advance
    cases finish s n <;> exact Reading.noConfusion
  | cons l rest ih =>
    intro s
    unfold advance
    cases step p s l with
    | error f => exact Reading.noConfusion
    | ok out =>
      obtain ⟨s', closed⟩ := out
      cases closed with
      | none => exact ih s'
      | some piece => exact Reading.noConfusion

/-- What the first asking takes: the file is parsed unless it is blank, texts are counted if it has
a tree, and without one the reading is over. -/
theorem next_fresh (c : Chunker) (j : Job) :
    (Reading.fresh.next c j).1.parsed = !allBlank j.contents
      ∧ ((Reading.fresh.next c j).1.counted = true ↔ HasTree c j)
      ∧ (Reading.fresh.next c j).2 ≠ .fresh
      ∧ (¬ HasTree c j → (Reading.fresh.next c j).2 = .done) := by
  unfold HasTree
  cases hblank : allBlank j.contents with
  | true => simp [Reading.next, hblank]
  | false =>
    cases hparse : c.parse j.path j.contents with
    | error f => simp [Reading.next, hblank, hparse]
    | ok tree =>
      cases tree with
      | none => simp [Reading.next, hblank, hparse]
      | some root =>
        cases hlines : countLines c.count (lines j.contents) with
        | error f => simp [Reading.next, hblank, hparse, hlines]
        | ok ls =>
          rw [next_of_lines hblank hparse hlines]
          simpa using advance_ne_fresh (c.plan j root) ls.length ls {}

/-- An asking parses a file only as the first of its reading. -/
theorem next_parsed_iff (c : Chunker) (j : Job) (r : Reading) :
    (r.next c j).1.parsed = true ↔ r = .fresh ∧ allBlank j.contents = false := by
  cases r with
  | fresh => simp [(next_fresh c j).1]
  | paused p s rest n => simp [Reading.next]
  | done => simp [Reading.next]

/-- An asking counts texts if it is the first and finds a tree, or goes on after a chunk. -/
theorem next_counted_iff (c : Chunker) (j : Job) (r : Reading) :
    (r.next c j).1.counted = true ↔ r = .fresh ∧ HasTree c j ∨ r ≠ .fresh ∧ r ≠ .done := by
  cases r with
  | fresh => simp [(next_fresh c j).2.1]
  | paused p s rest n => simp [Reading.next]
  | done => simp [Reading.next]

/-- A reading that has been asked is not as if it had not. -/
theorem next_ne_fresh (c : Chunker) (j : Job) (r : Reading) : (r.next c j).2 ≠ .fresh := by
  cases r with
  | fresh => exact (next_fresh c j).2.2.1
  | paused p s rest n => exact advance_ne_fresh p n rest s
  | done => exact Reading.noConfusion

/-- A reading goes on only from an asking that counted texts. -/
theorem counted_of_next_ne_done {r : Reading} (h : (r.next c j).2 ≠ .done) :
    (r.next c j).1.counted = true := by
  cases r with
  | fresh =>
    rw [(next_fresh c j).2.1]
    by_contra hnone
    exact h ((next_fresh c j).2.2.2 hnone)
  | paused p s rest n => rfl
  | done => exact absurd rfl h

/-! ## §3. What the moves alone say. -/

/-- How often the open reading has been asked after one more move. -/
def Move.turn : Option Nat → Move → Option Nat
  | _, .start => some 0
  | _, .stop => none
  | k, .next => k.map (· + 1)

/-- How often the reading that is open has been asked; nothing if none is. -/
def asked (ms : List Move) : Option Nat := ms.foldl Move.turn none

/-- How many readings have been asked at all: how often one was opened and asked right after. -/
def consulted : List Move → Nat
  | .start :: .next :: ms => consulted ms + 1
  | _ :: ms => consulted ms
  | [] => 0

@[simp] theorem asked_concat (ms : List Move) (m : Move) :
    asked (ms ++ [m]) = Move.turn (asked ms) m := by
  unfold asked
  rw [List.foldl_append]
  rfl

/-- The open reading has not been asked just if it was opened by the last move. -/
theorem asked_eq_zero_iff (ms : List Move) : asked ms = some 0 ↔ ms.getLast? = some .start := by
  rcases List.eq_nil_or_concat ms with rfl | ⟨before, m, rfl⟩
  · simp [asked]
  · rw [List.concat_eq_append, asked_concat, List.getLast?_concat]
    cases m with
    | start => simp [Move.turn]
    | stop => simp [Move.turn]
    | next => cases asked before <;> simp [Move.turn]

/-- A move adds a reading that has been asked if it asks the one just opened. -/
theorem consulted_concat (ms : List Move) (m : Move) :
    consulted (ms ++ [m]) = consulted ms + if asked ms = some 0 ∧ m = .next then 1 else 0 := by
  simp only [asked_eq_zero_iff]
  induction ms using consulted.induct with
  | case1 ms ih =>
    have hlast : (Move.start :: Move.next :: ms).getLast? = some .start
        ↔ ms.getLast? = some .start := by
      cases ms with
      | nil => simp
      | cons x ms => simp
    show consulted (ms ++ [m]) + 1 = consulted ms + 1 + _
    simp only [ih, hlast]
    omega
  | case2 x ms hne ih =>
    cases ms with
    | nil => cases x <;> cases m <;> rfl
    | cons y ms =>
      have hlast : (x :: y :: ms).getLast? = (y :: ms).getLast? := rfl
      have hskip : ∀ rest, consulted (x :: y :: rest) = consulted (y :: rest) := by
        intro rest
        cases x with
        | start =>
          cases y with
          | next => exact absurd rfl (hne ms rfl)
          | start => rfl
          | stop => rfl
        | next => rfl
        | stop => rfl
      simp only [hlast, List.cons_append, hskip]
      exact ih
  | case3 => cases m <;> rfl

/-! ## §4. A desk. -/

/-- The desk after moves. -/
def Desk.after (c : Chunker) (j : Job) (d : Desk) (ms : List Move) : Desk :=
  ms.foldl (fun d m => (d.move c j m).2.2) d

@[simp] theorem Desk.after_concat (d : Desk) (ms : List Move) (m : Move) :
    d.after c j (ms ++ [m]) = ((d.after c j ms).move c j m).2.2 := by
  unfold Desk.after
  rw [List.foldl_append]
  rfl

/-- What is shown after a move is what the move gives at the desk that those before it left. -/
theorem Desk.moves_getElem? (c : Chunker) (j : Job) (m : Move) (after : List Move) :
    ∀ (before : List Move) (d : Desk),
      (Desk.moves c j d (before ++ m :: after))[before.length]?
        = some ⟨((d.after c j before).move c j m).1, ((d.after c j before).move c j m).2.1,
            ((d.after c j before).move c j m).2.2.parses,
            ((d.after c j before).move c j m).2.2.counted⟩
  | [], _ => rfl
  | x :: before, d => Desk.moves_getElem? c j m after before (d.move c j x).2.2

/-- How a desk stands after moves: the open reading is as far into the complete run as it has been
asked, and the file has been parsed for every reading that has been asked. -/
structure Stands (c : Chunker) (j : Job) (ms : List Move) (d : Desk) : Prop where
  pending : d.reading.pending c j = match asked ms with
    | some k => (replies (c.run j).pieces (c.run j).failure).drop k
    | none => []
  fresh_iff : d.reading = .fresh ↔ asked ms = some 0
  closed : asked ms = none → d.reading = .done
  parses : d.parses = if allBlank j.contents then 0 else consulted ms
  counted_iff : d.counted = true ↔ HasTree c j ∧ 0 < consulted ms
  /-- A reading between two chunks has counted texts. -/
  counted : d.reading ≠ .fresh → d.reading ≠ .done → d.counted = true

/-- Opening and closing cost nothing. -/
theorem Stands.idle {ms : List Move} {d : Desk} (h : Stands c j ms d) {m : Move} (hm : m ≠ .next)
    {r : Reading} (hr : r = .fresh ∧ m = .start ∨ r = .done ∧ m = .stop) :
    Stands c j (ms ++ [m]) { d with reading := r } where
  pending := by
    rcases hr with ⟨rfl, rfl⟩ | ⟨rfl, rfl⟩
    · simp [Move.turn, Reading.pending]
    · simp [Move.turn, Reading.pending]
  fresh_iff := by
    rcases hr with ⟨rfl, rfl⟩ | ⟨rfl, rfl⟩
    · simp [Move.turn]
    · simp [Move.turn]
  closed := by
    rcases hr with ⟨rfl, rfl⟩ | ⟨rfl, rfl⟩
    · simp [Move.turn]
    · simp
  parses := by simpa [consulted_concat, hm] using h.parses
  counted_iff := by simpa [consulted_concat, hm] using h.counted_iff
  counted := by
    rcases hr with ⟨rfl, -⟩ | ⟨rfl, -⟩
    · exact fun hne => absurd rfl hne
    · exact fun _ hne => absurd rfl hne

/-- **Asking the open reading takes one answer of the complete run**, and costs a parse just if
the reading has not been asked before. -/
theorem Stands.next {ms : List Move} {d : Desk} (h : Stands c j ms d) :
    Stands c j (ms ++ [.next]) (d.move c j .next).2.2 where
  pending := by
    show (d.reading.next c j).2.pending c j = _
    rw [(next_pending c j d.reading).2, h.pending, asked_concat]
    cases asked ms with
    | none => rfl
    | some k => exact List.tail_drop
  fresh_iff := by
    have hturn : asked (ms ++ [.next]) ≠ some 0 := by
      rw [asked_concat]
      cases asked ms <;> simp [Move.turn]
    exact iff_of_false (next_ne_fresh c j d.reading) hturn
  closed := by
    intro hnone
    rw [asked_concat] at hnone
    have hdone : d.reading = .done := h.closed (by simpa [Move.turn] using hnone)
    show (d.reading.next c j).2 = .done
    rw [hdone]
    rfl
  parses := by
    show (if (d.reading.next c j).1.parsed then d.parses + 1 else d.parses) = _
    simp only [next_parsed_iff, h.fresh_iff, h.parses, consulted_concat, and_true]
    cases allBlank j.contents with
    | true => simp
    | false =>
      by_cases hfirst : asked ms = some 0
      · simp [hfirst]
      · simp [hfirst]
  counted_iff := by
    show (d.counted || (d.reading.next c j).1.counted) = true ↔ _
    rw [Bool.or_eq_true, next_counted_iff, h.counted_iff, consulted_concat]
    by_cases hfresh : d.reading = .fresh
    · -- The first asking of a reading.
      simp only [hfresh, h.fresh_iff.mp hfresh, true_and, and_true, ne_eq, not_true_eq_false,
        false_and, or_false, if_true, Nat.zero_lt_succ]
      exact or_iff_right_of_imp And.left
    · -- A later one: if it counts texts, so did the first.
      have hlater : ¬ asked ms = some 0 := fun hzero => hfresh (h.fresh_iff.mpr hzero)
      have hgoing : d.reading ≠ .fresh ∧ d.reading ≠ .done → HasTree c j ∧ 0 < consulted ms :=
        fun hopen => h.counted_iff.mp (h.counted hopen.1 hopen.2)
      simp only [hfresh, hlater, false_and, false_or, if_false, Nat.add_zero]
      exact or_iff_left_of_imp hgoing
  counted := by
    intro _ hdone
    show (d.counted || (d.reading.next c j).1.counted) = true
    rw [counted_of_next_ne_done hdone, Bool.or_true]

/-- A desk stands so after all moves. -/
theorem stands_after (hbudget : checkBudget j.budget = .ok ()) (ms : List Move) :
    Stands c j ms (Desk.after c j {} ms) := by
  induction ms using List.reverseRecOn with
  | nil =>
    exact ⟨rfl, by simp [asked, Desk.after], fun _ => rfl, by simp [Desk.after, consulted],
      by simp [Desk.after, consulted], fun _ hdone => absurd rfl hdone⟩
  | append_singleton ms m ih =>
    rw [Desk.after_concat]
    cases m with
    | next => exact ih.next
    | stop => exact ih.idle (by simp) (.inr ⟨rfl, rfl⟩)
    | start =>
      have hmove : (Desk.move c j (Desk.after c j {} ms) .start).2.2
          = { Desk.after c j {} ms with reading := .fresh } := by
        unfold Desk.move
        rw [hbudget]
      rw [hmove]
      exact ih.idle (by simp) (.inl ⟨rfl, rfl⟩)

/-! ## §5. Without a tree. -/

/-- Where a file has no tree, the first asking of a reading does not depend on the tokenizer. -/
theorem next_fresh_of_not_hasTree (hnone : ¬ HasTree c j) (count : Tokenizer) :
    Reading.fresh.next ⟨c.parse, count⟩ j = Reading.fresh.next c j := by
  cases hblank : allBlank j.contents with
  | true => simp [Reading.next, hblank]
  | false =>
    cases hparse : c.parse j.path j.contents with
    | error f => simp [Reading.next, hblank, hparse]
    | ok tree =>
      cases tree with
      | none => simp [Reading.next, hblank, hparse]
      | some root => exact absurd ⟨hblank, root, hparse⟩ hnone

/-- Where a file has no tree, a move does not depend on the tokenizer, and no reading goes on. -/
theorem move_of_not_hasTree (hnone : ¬ HasTree c j) (count : Tokenizer) {d : Desk}
    (hd : d.reading = .fresh ∨ d.reading = .done) (m : Move) :
    d.move ⟨c.parse, count⟩ j m = d.move c j m
      ∧ ((d.move c j m).2.2.reading = .fresh ∨ (d.move c j m).2.2.reading = .done) := by
  cases m with
  | stop => exact ⟨rfl, .inr rfl⟩
  | start =>
    unfold Desk.move
    cases checkBudget j.budget with
    | error f => exact ⟨rfl, hd⟩
    | ok u => exact ⟨rfl, .inl rfl⟩
  | next =>
    have hnext : d.reading.next ⟨c.parse, count⟩ j = d.reading.next c j := by
      rcases hd with hfresh | hdone
      · rw [hfresh]
        exact next_fresh_of_not_hasTree hnone count
      · rw [hdone]
        rfl
    refine ⟨?_, .inr ?_⟩
    · unfold Desk.move
      rw [hnext]
    · show (d.reading.next c j).2 = .done
      rcases hd with hfresh | hdone
      · rw [hfresh]
        exact (next_fresh c j).2.2.2 hnone
      · rw [hdone]
        rfl

/-- **Where a file has no tree, the tokenizer is of no account**, however it counts or fails. -/
theorem moves_of_not_hasTree (hnone : ¬ HasTree c j) (count : Tokenizer) (ms : List Move) :
    ∀ d : Desk, d.reading = .fresh ∨ d.reading = .done →
      Desk.moves ⟨c.parse, count⟩ j d ms = Desk.moves c j d ms := by
  induction ms with
  | nil => exact fun _ _ => rfl
  | cons m ms ih =>
    intro d hd
    obtain ⟨hmove, hnext⟩ := move_of_not_hasTree hnone count hd m
    unfold Desk.moves
    rw [hmove]
    simp only [ih _ hnext]

/-! ## §6. Any moves. -/

/-- What a desk shows after a move, if `r` is the complete run and `before` are the moves made so
far. -/
structure Serves (c : Chunker) (j : Job) (r : Report) (before : List Move) (m : Move)
    (x : Shown) : Prop where
  /-- Asking a reading for the time of number `k` gives the answer of that number. -/
  response : x.response = match m with
    | .start => .opened
    | .stop => .closed
    | .next => .reply (match asked before with
      | some k => r.answer k
      | none => .exhausted)
  /-- The file has been parsed once for every reading that was asked, and never if it is blank. -/
  parses : x.parses = if allBlank j.contents then 0 else consulted (before ++ [m])
  /-- Texts have been counted just if a reading was asked and there is a tree. -/
  counted_iff : x.counted = true ↔ HasTree c j ∧ 0 < consulted (before ++ [m])
  /-- Opening and closing cost nothing. -/
  idle : m ≠ .next → x.parses = (Desk.after c j {} before).parses
    ∧ x.counted = (Desk.after c j {} before).counted
  /-- Texts are counted only for a reading whose file has a tree, which was parsed for this reading
  at its first asking and at no other. -/
  behind : ((Desk.after c j {} before).reading.next c j).1.counted = true →
    HasTree c j ∧ ∃ k, asked before = some k
      ∧ (((Desk.after c j {} before).reading.next c j).1.parsed = true ↔ k = 0)

/-- What a desk that stands so shows after a move. -/
theorem Stands.serves (hbudget : checkBudget j.budget = .ok ()) (before : List Move) (m : Move)
    (logs : List Log.Record) :
    Serves c j (c.run j) before m
      ⟨((Desk.after c j {} before).move c j m).1, logs,
        ((Desk.after c j {} before).move c j m).2.2.parses,
        ((Desk.after c j {} before).move c j m).2.2.counted⟩ := by
  have hbefore := stands_after (c := c) hbudget before
  have hafter := stands_after (c := c) hbudget (before ++ [m])
  rw [Desk.after_concat] at hafter
  refine ⟨?_, hafter.parses, hafter.counted_iff, ?_, ?_⟩
  · cases m with
    | start => simp [Desk.move, hbudget]
    | stop => rfl
    | next =>
      show Response.reply ((Desk.after c j {} before).reading.next c j).1.reply = _
      rw [(next_pending c j _).1, hbefore.pending]
      cases asked before with
      | none => rfl
      | some k => exact congrArg Response.reply (Report.answer_eq (c.run j) k).symm
  · intro hm
    cases m with
    | start => simp [Desk.move, hbudget]
    | stop => exact ⟨rfl, rfl⟩
    | next => exact absurd rfl hm
  · intro hcounted
    rw [next_counted_iff] at hcounted
    simp only [next_parsed_iff]
    rcases hcounted with ⟨hfresh, htree⟩ | ⟨hlater, hopen⟩
    · -- The first asking of a reading.
      exact ⟨htree, 0, hbefore.fresh_iff.mp hfresh, iff_of_true ⟨hfresh, htree.1⟩ rfl⟩
    · -- The reading has been asked before, and counted texts then.
      have htree := (hbefore.counted_iff.mp (hbefore.counted hlater hopen)).1
      cases hasked : asked before with
      | none => exact absurd (hbefore.closed hasked) hopen
      | some k =>
        refine ⟨htree, k, rfl, ?_⟩
        constructor
        · exact fun hfirst => absurd hfirst.1 hlater
        · intro hzero
          rw [hzero] at hasked
          exact absurd (hbefore.fresh_iff.mpr hasked) hlater

/-- **THE PIECEMEAL THEOREM.**  With a budget that is not zero or less, whatever moves are made at a
desk: the `k`-th asking of the open reading gives what the complete run has at number `k`, a chunk,
the failure at which it ends or that nothing is left, and without an open reading nothing is left;
after an answer that is no chunk no other comes.  The file is parsed once for each reading that is
asked at all, and not if it is blank; opening costs nothing; and texts are counted only behind a
parse of the same reading that gave a tree.  Without a tree, the tokenizer is of no account. -/
theorem moves_serve {c : Chunker} {j : Job} (hbudget : j.budget.notPositive = false) :
    ∃ r, c.chunkFile j = .ok r
      ∧ (∀ before m after, ∃ x, (Desk.moves c j {} (before ++ m :: after))[before.length]? = some x
          ∧ Serves c j r before m x)
      ∧ (∀ k l, k < l → (∀ chunk, r.answer k ≠ .chunk chunk) → r.answer l = .exhausted)
      ∧ (¬ HasTree c j → ∀ count ms,
          Desk.moves ⟨c.parse, count⟩ j {} ms = Desk.moves c j {} ms) := by
  have hcheck : checkBudget j.budget = .ok () := checkBudget_of_notPositive hbudget
  refine ⟨c.run j, chunkFile_of_checkBudget c hcheck, ?_,
    fun k l => (c.run j).answer_of_over, ?_⟩
  · intro before m after
    exact ⟨_, Desk.moves_getElem? c j m after before {}, Stands.serves hcheck before m _⟩
  · intro hnone count ms
    exact moves_of_not_hasTree hnone count ms {} (.inr rfl)

/-- The sample under a budget of fourteen words, taken one chunk at a time. -/
theorem sample_served :
    (Quantity.whole 14).notPositive = false
      ∧ ∃ r, Sample.chunker.chunkFile ⟨Sample.path, Sample.contents, .whole 14⟩ = .ok r
        ∧ (∀ before m after, ∃ x,
            (Desk.moves Sample.chunker ⟨Sample.path, Sample.contents, .whole 14⟩ {}
              (before ++ m :: after))[before.length]? = some x
            ∧ Serves Sample.chunker ⟨Sample.path, Sample.contents, .whole 14⟩ r before m x)
        ∧ (∀ k l, k < l → (∀ chunk, r.answer k ≠ .chunk chunk) → r.answer l = .exhausted)
        ∧ (¬ HasTree Sample.chunker ⟨Sample.path, Sample.contents, .whole 14⟩ → ∀ count ms,
            Desk.moves ⟨Sample.chunker.parse, count⟩ ⟨Sample.path, Sample.contents, .whole 14⟩ {} ms
              = Desk.moves Sample.chunker ⟨Sample.path, Sample.contents, .whole 14⟩ {} ms) :=
  ⟨by decide, moves_serve (by decide)⟩

end Breadcrumb.Packing
