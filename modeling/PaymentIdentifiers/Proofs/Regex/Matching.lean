import PaymentIdentifiers.Proofs.Regex.Reading
import PaymentIdentifiers.Text.Basic
import Mathlib.Data.List.Range

/-!
# What regular expressions match

The meaning of an expression is said of a text together with what stands before and behind it, on which the anchors depend:
the end of the text is also met in front of a last line end. Beside the meaning there is a search for the lengths of all
matches in front of a text, which decides it.

A set with a fixed count in front of an expression takes just as many characters, all of them members. This is the form in
which formats and shapes are written.
-/
namespace PaymentIdentifiers.Regex

/-- What is said of a text, given the text before and the text behind it. -/
abbrev Meaning := (before t after : Text) → Prop

namespace Meaning

/-- The text is cut into two parts, of which the one and then the other is said. -/
def andThen (P Q : Meaning) : Meaning := fun before t after =>
  ∃ u v, t = u ++ v ∧ P before u (v ++ after) ∧ Q (before ++ u) v after

def times (P : Meaning) : Nat → Meaning
  | 0 => fun _ t _ => t = []
  | n + 1 => P.andThen (P.times n)

end Meaning

/-- What an expression says of a text. -/
def meaning : Regex → Meaning
  | empty => fun _ t _ => t = []
  | textStart => fun before t _ => t = [] ∧ before = []
  | textEnd => fun _ t after => t = [] ∧ (after = [] ∨ after = ['\n'])
  | oneOf ranges => fun _ t _ => ∃ c, t = [c] ∧ Text.inRanges ranges c = true
  | append r s => r.meaning.andThen s.meaning
  | group r => r.meaning
  | repeated r least most => fun before t after => ∃ n, least ≤ n ∧ n ≤ most ∧ r.meaning.times n before t after

/-- The expression written in a text can be read, and matches the whole of `t`. -/
def FullyMatches (expression t : Text) : Prop := ∃ r, read? expression = some r ∧ r.meaning [] t []

/-- The lengths of the matches in front of a text, given the text before it. -/
abbrev Search := (before t : Text) → List Nat

namespace Search

def andThen (f g : Search) : Search := fun before t =>
  (f before t).flatMap fun n => (g (before ++ t.take n) (t.drop n)).map (n + ·)

/-- Finds the empty text in front of every text. -/
def nothing : Search := fun _ _ => [0]

def times (f : Search) : Nat → Search
  | 0 => nothing
  | n + 1 => f.andThen (f.times n)

/-- The search finds what has the meaning, and nothing else. -/
def Finds (f : Search) (P : Meaning) : Prop :=
  ∀ before t n, n ∈ f before t ↔ n ≤ t.length ∧ P before (t.take n) (t.drop n)

variable {f g : Search} {P Q : Meaning}

theorem Finds.andThen (hf : f.Finds P) (hg : g.Finds Q) : (f.andThen g).Finds (P.andThen Q) := by
  intro before t n
  simp only [Search.andThen, List.mem_flatMap, List.mem_map]
  constructor
  · rintro ⟨k, hk, m, hm, rfl⟩
    obtain ⟨hkt, hP⟩ := (hf _ _ _).1 hk
    obtain ⟨hmt, hQ⟩ := (hg _ _ _).1 hm
    rw [List.length_drop] at hmt
    refine ⟨by omega, t.take k, (t.drop k).take m, List.take_add, ?_, ?_⟩
    · rwa [← List.drop_drop, List.take_append_drop]
    · rwa [← List.drop_drop]
  · rintro ⟨hn, u, v, huv, hP, hQ⟩
    have ht : t = u ++ (v ++ t.drop n) := by
      rw [← List.append_assoc, ← huv, List.take_append_drop]
    have hlen : n = u.length + v.length := by
      rw [← List.length_append, ← huv, List.length_take_of_le hn]
    have htake : t.take u.length = u := by
      rw [ht, List.take_left]
    have hdrop : t.drop u.length = v ++ t.drop n := by
      rw [ht, List.drop_left, ← ht]
    refine ⟨u.length, (hf _ _ _).2 ⟨by omega, ?_⟩, v.length, (hg _ _ _).2 ⟨?_, ?_⟩, hlen.symm⟩
    · rwa [htake, hdrop]
    · simp [hdrop]
    · rwa [htake, hdrop, List.take_left, List.drop_left]

theorem take_eq_nil_iff {t : Text} {n : Nat} (h : n ≤ t.length) : t.take n = [] ↔ n = 0 := by
  rw [← List.length_eq_zero_iff, List.length_take_of_le h]

theorem finds_nothing : nothing.Finds fun _ t _ => t = [] := by
  intro before t n
  rw [nothing, List.mem_singleton]
  constructor
  · rintro rfl
    exact ⟨Nat.zero_le _, rfl⟩
  · rintro ⟨hn, hnil⟩
    exact (take_eq_nil_iff hn).1 hnil

theorem Finds.times (hf : f.Finds P) (k : Nat) : (f.times k).Finds (P.times k) := by
  induction k with
  | zero => exact finds_nothing
  | succ k ih => exact hf.andThen ih

/-- An anchor takes no character. It is a condition on what stands before and behind. -/
def anchor (c : Text → Text → Prop) [∀ before t, Decidable (c before t)] : Search := fun before t =>
  if c before t then nothing before t else []

/-- A test takes one character. -/
def member (test : Char → Bool) : Search
  | _, [] => []
  | _, c :: _ => if test c then [1] else []

theorem finds_anchor (c : Text → Text → Prop) [∀ before t, Decidable (c before t)] :
    (anchor c).Finds fun before t after => t = [] ∧ c before after := by
  intro before t n
  -- An anchor holds at the end of a match of nothing exactly if it holds at its beginning.
  have hmoved (hn : n ≤ t.length) (hnil : t.take n = []) : t.drop n = t := by
    rw [(take_eq_nil_iff hn).1 hnil, List.drop_zero]
  rw [anchor]
  split
  · rename_i hc
    rw [finds_nothing before t n]
    constructor
    · rintro ⟨hn, hnil⟩
      exact ⟨hn, hnil, by rwa [hmoved hn hnil]⟩
    · rintro ⟨hn, hnil, -⟩
      exact ⟨hn, hnil⟩
  · rename_i hc
    simp only [List.not_mem_nil, false_iff]
    rintro ⟨hn, hnil, hend⟩
    exact hc (by rwa [hmoved hn hnil] at hend)

theorem finds_member (test : Char → Bool) : (member test).Finds fun _ t _ => ∃ c, t = [c] ∧ test c = true := by
  intro before t n
  cases t with
  | nil => simp [member]
  | cons c t =>
    rw [member]
    constructor
    · intro hn
      split at hn
      · obtain rfl := List.mem_singleton.1 hn
        exact ⟨by simp, c, rfl, ‹_›⟩
      · contradiction
    · rintro ⟨hn, d, hd, htest⟩
      obtain ⟨m, rfl⟩ : ∃ m, n = m + 1 := Nat.exists_eq_succ_of_ne_zero (by rintro rfl; simp at hd)
      rw [List.take_succ_cons, List.cons.injEq] at hd
      obtain ⟨rfl, hnil⟩ := hd
      obtain rfl := (take_eq_nil_iff (Nat.le_of_succ_le_succ hn)).1 hnil
      rw [if_pos htest, List.mem_singleton]

end Search

/-- All matches of an expression in front of a text, by their lengths. -/
def search : Regex → Search
  | empty => .nothing
  | textStart => .anchor fun before _ => before = []
  | textEnd => .anchor fun _ after => after = [] ∨ after = ['\n']
  | oneOf ranges => .member (Text.inRanges ranges)
  | append r s => r.search.andThen s.search
  | group r => r.search
  | repeated r least most => fun before t =>
    (List.range' least (most + 1 - least)).flatMap fun n => r.search.times n before t

theorem finds_search (r : Regex) : r.search.Finds r.meaning := by
  induction r with
  | empty => exact Search.finds_nothing
  | textStart => exact Search.finds_anchor fun before _ => before = []
  | textEnd => exact Search.finds_anchor fun _ after => after = [] ∨ after = ['\n']
  | oneOf ranges => exact Search.finds_member (Text.inRanges ranges)
  | append r s hr hs => exact hr.andThen hs
  | group r hr => exact hr
  | repeated r least most hr =>
    intro before t n
    simp only [search, meaning, List.mem_flatMap, List.mem_range'_1, hr.times _ _ _ _]
    constructor
    · rintro ⟨k, hk, hn, hP⟩
      exact ⟨hn, k, by omega, by omega, hP⟩
    · rintro ⟨hn, k, hlo, hhi, hP⟩
      exact ⟨k, by omega, hn, hP⟩

theorem meaning_iff_mem_search {r : Regex} {t : Text} : r.meaning [] t [] ↔ t.length ∈ r.search [] t := by
  rw [finds_search r [] t t.length, List.take_length, List.drop_length, and_iff_right (Nat.le_refl _)]

theorem fullyMatches_iff {expression t : Text} {r : Regex} (h : read? expression = some r) :
    FullyMatches expression t ↔ r.meaning [] t [] := by
  simp [FullyMatches, h]

instance (expression t : Text) : Decidable (FullyMatches expression t) :=
  decidable_of_iff (((read? expression).any fun r => (r.search [] t).contains t.length) = true) (by
    simp [FullyMatches, meaning_iff_mem_search, Option.any_eq_true])

/-- The end of the text is met in front of a last line end, but that is part of what has to match. -/
example : FullyMatches "^[0-9]\x7b2\x7d$" "12" ∧ ¬ FullyMatches "^[0-9]\x7b2\x7d$" "12\n" ∧
    FullyMatches "a?$b?" "a" ∧ ¬ FullyMatches "a?$b?" "ab" ∧ FullyMatches "(ab?)\x7b1,2\x7d" "aba" := by
  decide +kernel

namespace Meaning

variable {P : Meaning} {test : Char → Bool} {before t after : Text}

theorem andThen_nothing : P.andThen (fun _ u _ => u = []) before t after ↔ P before t after := by
  simp [andThen]

theorem times_one : P.times 1 before t after ↔ P before t after := andThen_nothing

theorem times_member {n : Nat} :
    Meaning.times (fun _ u _ => ∃ c, u = [c] ∧ test c = true) n before t after ↔
      t.length = n ∧ ∀ c ∈ t, test c = true := by
  induction n generalizing before t with
  | zero => simp +contextual [times]
  | succ n ih =>
    simp only [times, andThen, ih]
    constructor
    · rintro ⟨u, v, rfl, ⟨c, rfl, hc⟩, rfl, hv⟩
      exact ⟨rfl, List.forall_mem_cons.2 ⟨hc, hv⟩⟩
    · rintro ⟨hlen, hall⟩
      cases t with
      | nil => simp at hlen
      | cons c t =>
        obtain ⟨hc, ht⟩ := List.forall_mem_cons.1 hall
        exact ⟨[c], t, rfl, ⟨c, rfl, hc⟩, Nat.succ.inj hlen, ht⟩

end Meaning

section
variable {ranges : List (Nat × Nat)} {r : Regex} {least most n : Nat} {before t after : Text}

theorem meaning_repeated_oneOf : (repeated (oneOf ranges) least most).meaning before t after ↔
    least ≤ t.length ∧ t.length ≤ most ∧ ∀ c ∈ t, Text.inRanges ranges c = true := by
  simp only [meaning, Meaning.times_member]
  constructor
  · rintro ⟨n, hlo, hhi, rfl, hall⟩
    exact ⟨hlo, hhi, hall⟩
  · rintro ⟨hlo, hhi, hall⟩
    exact ⟨t.length, hlo, hhi, rfl, hall⟩

theorem meaning_append {s : Regex} : (append r s).meaning before t after ↔
    ∃ u v, t = u ++ v ∧ r.meaning before u (v ++ after) ∧ s.meaning (before ++ u) v after :=
  Iff.rfl

/-- A set with a fixed count takes this many characters off the front. -/
theorem meaning_append_oneOf : (append (repeated (oneOf ranges) n n) r).meaning before t after ↔
    n ≤ t.length ∧ (∀ c ∈ t.take n, Text.inRanges ranges c = true) ∧ r.meaning (before ++ t.take n) (t.drop n) after := by
  simp only [meaning_append, meaning_repeated_oneOf]
  constructor
  · rintro ⟨u, v, rfl, ⟨hlo, hhi, hall⟩, hr⟩
    obtain rfl : u.length = n := Nat.le_antisymm hhi hlo
    rw [List.take_left, List.drop_left]
    exact ⟨by simp, hall, hr⟩
  · rintro ⟨hn, hall, hr⟩
    have hlen := List.length_take_of_le hn
    exact ⟨t.take n, t.drop n, (List.take_append_drop n t).symm, ⟨hlen.ge, hlen.le, hall⟩, hr⟩

/-- Neighbouring repetitions of one set are one repetition, if the first has a fixed count. -/
theorem meaning_append_append_oneOf :
    (append (repeated (oneOf ranges) n n) (append (repeated (oneOf ranges) least most) r)).meaning before t after ↔
      (append (repeated (oneOf ranges) (n + least) (n + most)) r).meaning before t after := by
  simp only [meaning_append, meaning_repeated_oneOf]
  constructor
  · rintro ⟨u, _, rfl, ⟨hlo, hhi, hu⟩, v, w, rfl, ⟨hleast, hmost, hv⟩, hr⟩
    refine ⟨u ++ v, w, by rw [List.append_assoc], ⟨?_, ?_, List.forall_mem_append.2 ⟨hu, hv⟩⟩, ?_⟩
    · rw [List.length_append]
      omega
    · rw [List.length_append]
      omega
    · rwa [← List.append_assoc]
  · rintro ⟨u, w, rfl, ⟨hleast, hmost, hu⟩, hr⟩
    have hlen : (u.take n).length = n := List.length_take_of_le (by omega)
    refine ⟨u.take n, u.drop n ++ w, ?_, ⟨hlen.ge, hlen.le, fun c hc => hu c (List.mem_of_mem_take hc)⟩,
      u.drop n, w, rfl, ⟨?_, ?_, fun c hc => hu c (List.mem_of_mem_drop hc)⟩, ?_⟩
    · rw [← List.append_assoc, List.take_append_drop]
    · rw [List.length_drop]
      omega
    · rw [List.length_drop]
      omega
    · rwa [List.append_assoc, List.take_append_drop]

@[simp] theorem meaning_append_empty : (append r empty).meaning before t after ↔ r.meaning before t after :=
  Meaning.andThen_nothing

@[simp] theorem meaning_group : (group r).meaning before t after ↔ r.meaning before t after := Iff.rfl

theorem meaning_optional : (repeated r 0 1).meaning before t after ↔ t = [] ∨ r.meaning before t after := by
  simp only [meaning]
  constructor
  · rintro ⟨n, -, hn, htimes⟩
    rcases Nat.le_one_iff_eq_zero_or_eq_one.1 hn with rfl | rfl
    · exact .inl htimes
    · exact .inr (Meaning.times_one.1 htimes)
  · rintro (hnil | hr)
    · exact ⟨0, Nat.le_refl _, Nat.zero_le _, hnil⟩
    · exact ⟨1, Nat.zero_le _, Nat.le_refl _, Meaning.times_one.2 hr⟩

end

end PaymentIdentifiers.Regex
