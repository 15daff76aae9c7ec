/-
  Breadcrumb.Proofs.Scope.Cursor
  ──────────────────────────────
  **WHAT ONE CURSOR KEEPS APART.**

  Which declarations have been collected is remembered in one number.  That is
  enough in a nested tree, because a signature ends no earlier than it begins:

      what is collected begins behind the cursor and leaves the cursor where its
      signature ends, so that the captures of any calls stand behind one another
      (`Rising`)
      after a call all declarations that cover its row begin at or before the
      cursor (`Spent`), and as the cursor never goes back they stay so

  `collectAll` makes calls one after the other, from any nodes and for any rows.
-/
import Breadcrumb.Proofs.Scope.Nesting

namespace Breadcrumb.Scope

variable {s : Scope} {row : Int}

/-! ## §1. Captures behind one another. -/

/-- Captures between two places of the cursor: each begins behind the place where the signature
before it ends. -/
def Rising : Int → List Capture → Int → Prop
  | first, [], last => first ≤ last
  | first, c :: cs, last =>
    first < c.node.span.startRow ∧ c.node.span.startRow ≤ c.endRow ∧ Rising c.endRow cs last

theorem Rising.le : ∀ {cs : List Capture} {first last : Int}, Rising first cs last → first ≤ last
  | [], _, _, h => h
  | _ :: _, _, _, ⟨hstart, hend, hrest⟩ => by
      have hle := hrest.le
      omega

theorem Rising.of_le {cs : List Capture} {first later last : Int} (hle : first ≤ later)
    (h : Rising later cs last) : Rising first cs last := by
  cases cs with
  | nil => exact Int.le_trans hle h
  | cons c cs => exact ⟨Int.lt_of_le_of_lt hle h.1, h.2⟩

theorem Rising.append : ∀ {cs ds : List Capture} {first middle last : Int},
    Rising first cs middle → Rising middle ds last → Rising first (cs ++ ds) last
  | [], _, _, _, _, hle, hds => hds.of_le hle
  | _ :: _, _, _, _, _, ⟨hstart, hend, hrest⟩, hds => ⟨hstart, hend, hrest.append hds⟩

theorem Rising.bounds {c : Capture} :
    ∀ {cs : List Capture} {first last : Int}, Rising first cs last → c ∈ cs →
      first < c.node.span.startRow ∧ c.node.span.startRow ≤ c.endRow ∧ c.endRow ≤ last
  | d :: cs, first, last, ⟨hstart, hend, hrest⟩, hc => by
      rcases List.mem_cons.mp hc with rfl | hc
      · exact ⟨hstart, hend, hrest.le⟩
      · have hbounds := hrest.bounds hc
        omega

theorem Rising.pairwise :
    ∀ {cs : List Capture} {first last : Int}, Rising first cs last →
      cs.Pairwise fun a b =>
        a.node.span.startRow < b.node.span.startRow ∧ a.endRow < b.node.span.startRow
  | [], _, _, _ => .nil
  | c :: _, _, _, ⟨_, hend, hrest⟩ => by
      refine .cons ?_ hrest.pairwise
      intro d hd
      have hlt : c.endRow < d.node.span.startRow := Int.ofNat_lt.mp (hrest.bounds hd).1
      exact ⟨Nat.lt_of_le_of_lt hend hlt, hlt⟩

/-! ## §2. A scan. -/

/-- The declarations among nodes that cover a row begin at or before the cursor. -/
def Spent (row : Int) (ns : List Node) (cursor : Int) : Prop :=
  ∀ n ∈ ns, n.covers row = true → n.isDeclaration = true → (n.span.startRow : Int) ≤ cursor

theorem Spent.of_le {ns : List Node} {cursor later : Int} (h : Spent row ns cursor)
    (hle : cursor ≤ later) : Spent row ns later := by
  intro n hn hcovers hdeclaration
  exact Int.le_trans (h n hn hcovers hdeclaration) hle

theorem isNew_iff {n : Node} {cursor : Int} :
    isNew n cursor = true ↔ n.isDeclaration = true ∧ cursor < n.span.startRow := by
  unfold isNew
  rw [Bool.and_eq_true, decide_eq_true_eq]

theorem mem_scan {c : Capture} {ns : List Node} {cursor : Int}
    (hc : c ∈ (s.scan row ns cursor).1) :
    ∃ n ∈ ns, n.isDeclaration = true ∧ n.covers row = true ∧ c = s.capture n := by
  induction ns generalizing cursor with
  | nil => exact absurd hc List.not_mem_nil
  | cons n ns ih =>
    by_cases hnew : n.covers row = true ∧ isNew n cursor = true
    · rw [scan_cons_new hnew.1 hnew.2] at hc
      rcases List.mem_cons.mp hc with rfl | hc
      · exact ⟨n, List.mem_cons_self, (isNew_iff.mp hnew.2).1, hnew.1, rfl⟩
      · obtain ⟨m, hm, hcapture⟩ := ih hc
        exact ⟨m, List.mem_cons_of_mem n hm, hcapture⟩
    · rw [scan_cons_old hnew] at hc
      obtain ⟨m, hm, hcapture⟩ := ih hc
      exact ⟨m, List.mem_cons_of_mem n hm, hcapture⟩

/-- **A scan collects upwards, and leaves the cursor above.** -/
theorem rising_scan {ns : List Node} (hends : ∀ n ∈ ns, n.span.startRow ≤ (headerEnd n).2) :
    ∀ cursor : Int, Rising cursor (s.scan row ns cursor).1 (s.scan row ns cursor).2 := by
  induction ns with
  | nil => exact fun cursor => Int.le_refl cursor
  | cons n ns ih =>
    obtain ⟨hn, hns⟩ := List.forall_mem_cons.mp hends
    intro cursor
    by_cases hnew : n.covers row = true ∧ isNew n cursor = true
    · -- It begins behind the cursor, which goes to the end of its signature.
      rw [scan_cons_new hnew.1 hnew.2]
      exact ⟨(isNew_iff.mp hnew.2).2, hn, ih hns _⟩
    · rw [scan_cons_old hnew]
      exact ih hns cursor

theorem scan_of_spent {ns : List Node} {cursor : Int} (h : Spent row ns cursor) :
    s.scan row ns cursor = ([], cursor) := by
  induction ns with
  | nil => rfl
  | cons n ns ih =>
    rw [scan_cons_old, ih]
    · intro m hm
      exact h m (List.mem_cons_of_mem n hm)
    · rintro ⟨hcovers, hnew⟩
      obtain ⟨hdeclaration, hlt⟩ := isNew_iff.mp hnew
      have hle := h n List.mem_cons_self hcovers hdeclaration
      omega

/-- **A scan spends all that covers its row.** -/
theorem spent_scan {ns : List Node} (hends : ∀ n ∈ ns, n.span.startRow ≤ (headerEnd n).2) :
    ∀ cursor : Int, Spent row ns (s.scan row ns cursor).2 := by
  induction ns with
  | nil => exact fun _ _ hn => absurd hn List.not_mem_nil
  | cons n ns ih =>
    obtain ⟨hn, hns⟩ := List.forall_mem_cons.mp hends
    intro cursor m hm hcovers hdeclaration
    have hle : cursor ≤ (s.scan row (n :: ns) cursor).2 := (rising_scan hends cursor).le
    by_cases hnew : n.covers row = true ∧ isNew n cursor = true
    · rw [scan_cons_new hnew.1 hnew.2]
      rcases List.mem_cons.mp hm with rfl | hm
      · -- It has just been collected, and the cursor is at the end of its signature or behind.
        have hend : (m.span.startRow : Int) ≤ (s.capture m).endRow := Int.ofNat_le.mpr hn
        exact Int.le_trans hend (rising_scan hns _).le
      · exact ih hns _ m hm hcovers hdeclaration
    · rw [scan_cons_old hnew] at hle ⊢
      rcases List.mem_cons.mp hm with rfl | hm
      · -- It was not new.
        have hold : (m.span.startRow : Int) ≤ cursor := by
          apply Int.not_lt.mp
          intro hlt
          exact hnew ⟨hcovers, isNew_iff.mpr ⟨hdeclaration, hlt⟩⟩
        exact Int.le_trans hold hle
      · exact ih hns cursor m hm hcovers hdeclaration

/-! ## §3. One call. -/

section OneCall

variable {root : Node} {cursor : Int}

theorem headerEnds_of_nested (h : root.Nested) :
    ∀ n ∈ root.preorder, n.span.startRow ≤ (headerEnd n).2 :=
  fun _ hn => (h.of_mem hn).startRow_le_headerEnd

theorem rising_collect (h : root.Nested) (cursor : Int) :
    Rising cursor (s.collect root row cursor).1 (s.collect root row cursor).2 := by
  rw [collect_eq_scan h]
  exact rising_scan (headerEnds_of_nested h) cursor

theorem spent_collect (h : root.Nested) (cursor : Int) :
    Spent row root.preorder (s.collect root row cursor).2 := by
  rw [collect_eq_scan h]
  exact spent_scan (headerEnds_of_nested h) cursor

theorem collect_of_spent (h : root.Nested) (hspent : Spent row root.preorder cursor) :
    s.collect root row cursor = ([], cursor) := by
  rw [collect_eq_scan h, scan_of_spent hspent]

theorem mem_collect (h : root.Nested) {c : Capture} (hc : c ∈ (s.collect root row cursor).1) :
    ∃ n ∈ root.preorder, n.isDeclaration = true ∧ n.covers row = true ∧ c = s.capture n := by
  rw [collect_eq_scan h] at hc
  exact mem_scan hc

end OneCall

/-! ## §4. Calls one after the other. -/

/-- What is asked of a scope: which declarations below a node cover a row. -/
structure Query where
  node : Node
  row : Int
  deriving Repr, Inhabited

/-- Collects for one query after the other, each from the cursor that the ones before it left. -/
def collectAll (s : Scope) : List Query → Int → List Capture × Int
  | [], cursor => ([], cursor)
  | q :: qs, cursor =>
    let (first, cursor) := s.collect q.node q.row cursor
    let (later, cursor) := collectAll s qs cursor
    (first ++ later, cursor)

theorem collectAll_cons (q : Query) (qs : List Query) (cursor : Int) :
    s.collectAll (q :: qs) cursor
      = ((s.collect q.node q.row cursor).1
          ++ (s.collectAll qs (s.collect q.node q.row cursor).2).1,
        (s.collectAll qs (s.collect q.node q.row cursor).2).2) := rfl

theorem collectAll_append (ps qs : List Query) :
    ∀ cursor : Int, s.collectAll (ps ++ qs) cursor
      = ((s.collectAll ps cursor).1 ++ (s.collectAll qs (s.collectAll ps cursor).2).1,
        (s.collectAll qs (s.collectAll ps cursor).2).2) := by
  induction ps with
  | nil =>
    intro cursor
    rfl
  | cons p ps ih =>
    intro cursor
    rw [List.cons_append, collectAll_cons, collectAll_cons, ih, List.append_assoc]

theorem mem_collectAll {c : Capture} {qs : List Query} (hnested : ∀ q ∈ qs, q.node.Nested) :
    ∀ {cursor : Int}, c ∈ (s.collectAll qs cursor).1 → ∃ q ∈ qs, ∃ n ∈ q.node.preorder,
      n.isDeclaration = true ∧ n.covers q.row = true ∧ c = s.capture n := by
  induction qs with
  | nil => exact fun hc => absurd hc List.not_mem_nil
  | cons q qs ih =>
    obtain ⟨hq, hqs⟩ := List.forall_mem_cons.mp hnested
    intro cursor hc
    rw [collectAll_cons] at hc
    rcases List.mem_append.mp hc with hc | hc
    · exact ⟨q, List.mem_cons_self, mem_collect hq hc⟩
    · obtain ⟨r, hr, hcapture⟩ := ih hqs hc
      exact ⟨r, List.mem_cons_of_mem q hr, hcapture⟩

/-- **Calls collect upwards**, whatever nodes and rows they are made for. -/
theorem rising_collectAll {qs : List Query} (hnested : ∀ q ∈ qs, q.node.Nested) :
    ∀ cursor : Int, Rising cursor (s.collectAll qs cursor).1 (s.collectAll qs cursor).2 := by
  induction qs with
  | nil => exact fun cursor => Int.le_refl cursor
  | cons q qs ih =>
    obtain ⟨hq, hqs⟩ := List.forall_mem_cons.mp hnested
    intro cursor
    rw [collectAll_cons]
    exact (rising_collect hq cursor).append (ih hqs _)

/-- **What a call spends stays spent** through all later calls. -/
theorem spent_collectAll {qs : List Query} (hnested : ∀ q ∈ qs, q.node.Nested) :
    ∀ cursor : Int, ∀ q ∈ qs, Spent q.row q.node.preorder (s.collectAll qs cursor).2 := by
  induction qs with
  | nil => exact fun _ _ hq => absurd hq List.not_mem_nil
  | cons q qs ih =>
    obtain ⟨hq, hqs⟩ := List.forall_mem_cons.mp hnested
    intro cursor r hr
    rw [collectAll_cons]
    rcases List.mem_cons.mp hr with rfl | hr
    · -- The calls after it only move the cursor on.
      exact (spent_collect hq cursor).of_le (rising_collectAll hqs _).le
    · exact ih hqs _ r hr

/-- What holds of calls made one after the other from a fresh cursor. -/
structure OnceOnly (s : Scope) (qs : List Query) : Prop where
  /-- Only declarations that cover the row of a call are collected. -/
  genuine : ∀ c ∈ (s.collectAll qs (-1)).1, ∃ q ∈ qs, ∃ n ∈ q.node.preorder,
    n.isDeclaration = true ∧ n.covers q.row = true ∧ c = s.capture n
  /-- Each begins in a row behind the one before it, and behind the end of its signature. -/
  rising : (s.collectAll qs (-1)).1.Pairwise fun a b =>
    a.node.span.startRow < b.node.span.startRow ∧ a.endRow < b.node.span.startRow
  /-- The cursor is never before where it was after fewer calls. -/
  forward : ∀ before after, qs = before ++ after →
    (s.collectAll before (-1)).2 ≤ (s.collectAll qs (-1)).2
  /-- A call that is made again collects nothing and leaves the cursor where it is. -/
  repeated : ∀ q ∈ qs, s.collect q.node q.row (s.collectAll qs (-1)).2
    = ([], (s.collectAll qs (-1)).2)

theorem onceOnly {qs : List Query} (hnested : ∀ q ∈ qs, q.node.Nested) : OnceOnly s qs where
  genuine _ hc := mem_collectAll hnested hc
  rising := (rising_collectAll hnested (-1)).pairwise
  forward := by
    intro before after hqs
    rw [hqs, collectAll_append]
    refine (rising_collectAll ?_ _).le
    intro q hq
    exact hnested q (by rw [hqs]; exact List.mem_append_right before hq)
  repeated q hq := collect_of_spent (hnested q hq) (spent_collectAll hnested (-1) q hq)

end Breadcrumb.Scope
