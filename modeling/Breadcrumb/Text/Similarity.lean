/-
  Breadcrumb.Text.Similarity
  ──────────────────────────
  **NAMES THAT LOOK ALIKE.**

  Two texts are compared as they catch the eye: by the longest block of
  characters that both have, then by the longest blocks before it and after it,
  and so on until nothing is shared.  Texts are alike if what they share makes up
  at least three fifths of the two.

  `nearest` finds among some names those that may have been meant by a word that
  is none of them.
-/
namespace Breadcrumb.Text

/-! ## §1. Shared blocks. -/

/-- How many characters two texts share at their starts. -/
def commonStart : List Char → List Char → Nat
  | a :: as, b :: bs => if a = b then commonStart as bs + 1 else 0
  | _, _ => 0

theorem commonStart_le (as bs : List Char) :
    commonStart as bs ≤ as.length ∧ commonStart as bs ≤ bs.length := by
  fun_induction commonStart as bs with
  | case1 a as bs ih => simpa using ih
  | case2 => simp
  | case3 => simp

/-- A block that two texts share: the place where it starts in each of them, and its length. -/
structure Block where
  left : Nat := 0
  right : Nat := 0
  size : Nat := 0
  deriving DecidableEq, Repr, Inhabited

/-- All shared blocks that go on as far as they can, by their places in the first text and then by
those in the second. -/
def sharedBlocks (as bs : List Char) : List Block :=
  (List.range as.length).flatMap fun i =>
    (List.range bs.length).map fun j => ⟨i, j, commonStart (as.drop i) (bs.drop j)⟩

/-- The longer of two blocks, the first of two that are as long. -/
def Block.longer (x y : Block) : Block := if x.size < y.size then y else x

/-- The longest shared block; of several the first. -/
def longestBlock (as bs : List Char) : Block := (sharedBlocks as bs).foldl Block.longer {}

/-- A block lies within the texts. -/
def Block.Fits (x : Block) (as bs : List Char) : Prop :=
  x.left + x.size ≤ as.length ∧ x.right + x.size ≤ bs.length

theorem fits_of_mem_blocks {as bs : List Char} {x : Block} (h : x ∈ sharedBlocks as bs) :
    x.Fits as bs := by
  simp only [sharedBlocks, List.mem_flatMap, List.mem_range, List.mem_map] at h
  obtain ⟨i, hi, j, hj, rfl⟩ := h
  have := commonStart_le (as.drop i) (bs.drop j)
  simp only [List.length_drop] at this
  simp only [Block.Fits]
  omega

theorem fits_foldl_longer {as bs : List Char} {xs : List Block} {x : Block}
    (hx : x.Fits as bs) (hxs : ∀ y ∈ xs, y.Fits as bs) :
    (xs.foldl Block.longer x).Fits as bs := by
  induction xs generalizing x with
  | nil => exact hx
  | cons y ys ih =>
    simp only [List.mem_cons, forall_eq_or_imp] at hxs
    refine ih ?_ hxs.2
    unfold Block.longer
    split
    · exact hxs.1
    · exact hx

theorem fits_longestBlock (as bs : List Char) : (longestBlock as bs).Fits as bs :=
  fits_foldl_longer (by simp [Block.Fits]) fun _ => fits_of_mem_blocks

/-- How many characters two texts share in blocks: in the longest one, and on either side of it. -/
def shared (as bs : List Char) : Nat :=
  let x := longestBlock as bs
  if _h : x.size = 0 then 0
  else
    shared (as.take x.left) (bs.take x.right) + x.size +
      shared (as.drop (x.left + x.size)) (bs.drop (x.right + x.size))
termination_by as.length
decreasing_by
  all_goals
    have fits := (fits_longestBlock as bs).1
    have : (longestBlock as bs).size ≠ 0 := by assumption
    simp only [List.length_take, List.length_drop]
    omega

/-! ## §2. Likeness. -/

/-- Whether two texts are alike.  The first test is quick and says no only where the second one
does. -/
def alike (as bs : List Char) : Bool :=
  3 * (as.length + bs.length) ≤ 10 * min as.length bs.length &&
    3 * (as.length + bs.length) ≤ 10 * shared as bs

/-- Whether a name is as near to a word as another: by the part that is shared, and by the later
name where that is the same. -/
def asNear (word : List Char) (x y : String) : Bool :=
  let ofX := shared x.toList word * (y.length + word.length)
  let ofY := shared y.toList word * (x.length + word.length)
  ofY < ofX || (ofX = ofY && y ≤ x)

/-- The names that a word may stand for: the three nearest of those that are like it, in order. -/
def nearest (names : List String) (word : String) : List String :=
  let like := names.filter fun name => alike name.toList word.toList
  ((like.mergeSort (asNear word.toList)).take 3).mergeSort fun x y => x ≤ y

end Breadcrumb.Text
