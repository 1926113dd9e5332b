import PaymentIdentifiers.Proofs.Text.Words

/-!
# Searching for whole words

An expression is a row of marks: the border of a word, or a run of characters that pass a test. A run first takes as
many characters as it may, and gives them back one by one as long as the marks behind it do not match. A search goes
through a text from left to right, replaces what matches, and goes on behind it.

Between two borders, runs of word characters can only match a whole word, so the order in which lengths are tried does
not matter, no match begins within a word, and replacing all matches is a map over the words.
-/
namespace PaymentIdentifiers.Text

/-- Characters that pass a test, with the least and the greatest number of them. -/
structure Run where
  test : Char → Bool
  least : Nat
  most : Option Nat

inductive Mark where
  | border
  | run (r : Run)

/-- The most characters that a run can take in front of a text. -/
def Run.reach (r : Run) (t : Text) : Nat :=
  let n := (t.takeWhile r.test).length
  match r.most with
  | none => n
  | some m => min m n

/-- The numbers of characters that a run may take in front of a text, the greatest first. -/
def Run.choices (r : Run) (t : Text) : List Nat := (List.range' r.least (r.reach t + 1 - r.least)).reverse

/-- The character before whatever follows a text, if `before` is the one before the text. -/
def lastOr (before : Option Char) (t : Text) : Option Char := t.getLast?.or before

/-- A word character on exactly one side. -/
def atBorder (before : Option Char) (t : Text) : Bool := before.any isWordChar != t.head?.any isWordChar

/-- The length of the match in front of a text. -/
def matchLength? : List Mark → Option Char → Text → Option Nat
  | [], _, _ => some 0
  | .border :: ms, before, t => if atBorder before t then matchLength? ms before t else none
  | .run r :: ms, before, t =>
    (r.choices t).findSome? fun n => (matchLength? ms (lastOr before (t.take n)) (t.drop n)).map (n + ·)

/-- Replaces the matches, none of which is empty; the first `skip` characters belong to the match that was replaced
last. -/
def replaceFrom (ms : List Mark) (f : Text → Text) : Nat → Option Char → Text → Text
  | _, _, [] => []
  | skip + 1, _, c :: t => replaceFrom ms f skip (some c) t
  | 0, before, c :: t =>
    match matchLength? ms before (c :: t) with
    | some (n + 1) => f ((c :: t).take (n + 1)) ++ replaceFrom ms f n (some c) t
    | _ => c :: replaceFrom ms f 0 (some c) t

/-- Replaces all matches from left to right by their images. -/
def replaceAll (ms : List Mark) (f : Text → Text) (t : Text) : Text := replaceFrom ms f 0 none t

/-- Runs that fill a word from border to border. -/
def whole (rs : List Run) : List Mark := .border :: (rs.map .run ++ [.border])

/-- The characters may be taken by the run. -/
structure Run.Takes (r : Run) (s : Text) : Prop where
  test : ∀ c ∈ s, r.test c = true
  least : r.least ≤ s.length
  most : ∀ m ∈ r.most, s.length ≤ m

/-- A match of `n` characters in front of a text, found in whatever way. -/
def Matches : List Mark → Option Char → Text → Nat → Prop
  | [], _, _, n => n = 0
  | .border :: ms, before, t, n => atBorder before t = true ∧ Matches ms before t n
  | .run r :: ms, before, t, n =>
    ∃ s u k, t = s ++ u ∧ r.Takes s ∧ Matches ms (lastOr before s) u k ∧ n = s.length + k

/-- The text is a row of stretches, one for each run in order. -/
def Fills : List Run → Text → Prop
  | [], t => t = []
  | r :: rs, t => ∃ s u, t = s ++ u ∧ r.Takes s ∧ Fills rs u

theorem le_length_takeWhile_iff {test : Char → Bool} {t : Text} {n : Nat} :
    n ≤ (t.takeWhile test).length ↔ n ≤ t.length ∧ ∀ c ∈ t.take n, test c = true := by
  induction t generalizing n with
  | nil => simp
  | cons c t ih =>
    cases n with
    | zero => simp
    | succ n =>
      by_cases hc : test c = true
      · simp [hc, ih]
      · simp [hc]

theorem Run.mem_choices_iff {r : Run} {t : Text} {n : Nat} :
    n ∈ r.choices t ↔ n ≤ t.length ∧ r.Takes (t.take n) := by
  have hreach : n ≤ r.reach t ↔ n ≤ (t.takeWhile r.test).length ∧ ∀ m ∈ r.most, n ≤ m := by
    unfold reach
    cases r.most with
    | none => simp
    | some m =>
      simp only [Nat.le_min, Option.mem_def, Option.some.injEq, forall_eq']
      exact and_comm
  have hrange : n ∈ r.choices t ↔ r.least ≤ n ∧ n ≤ r.reach t := by
    rw [choices, List.mem_reverse, List.mem_range'_1]
    omega
  rw [hrange, hreach, le_length_takeWhile_iff]
  constructor
  · rintro ⟨hl, ⟨hn, htest⟩, hm⟩
    have hlen := List.length_take_of_le hn
    exact ⟨hn, htest, by rw [hlen]; exact hl, by rw [hlen]; exact hm⟩
  · rintro ⟨hn, htest, hl, hm⟩
    rw [List.length_take_of_le hn] at hl hm
    exact ⟨hl, ⟨hn, htest⟩, hm⟩

/-- What backtracking finds is a match. -/
theorem matches_of_matchLength? {ms : List Mark} {before : Option Char} {t : Text} {n : Nat}
    (h : matchLength? ms before t = some n) : Matches ms before t n := by
  induction ms generalizing before t n with
  | nil => exact (Option.some.inj h).symm
  | cons m ms ih =>
    cases m with
    | border =>
      rw [matchLength?] at h
      split at h
      · exact ⟨‹_›, ih h⟩
      · contradiction
    | run r =>
      obtain ⟨k, hk, hfound⟩ := List.exists_of_findSome?_eq_some h
      obtain ⟨j, hj, rfl⟩ := Option.map_eq_some_iff.1 hfound
      obtain ⟨hle, htakes⟩ := Run.mem_choices_iff.1 hk
      refine ⟨t.take k, t.drop k, j, (List.take_append_drop k t).symm, htakes, ih hj, ?_⟩
      rw [List.length_take_of_le hle]

/-- Backtracking finds a match if there is one, though perhaps another. -/
theorem isSome_matchLength? {ms : List Mark} {before : Option Char} {t : Text} {n : Nat}
    (h : Matches ms before t n) : (matchLength? ms before t).isSome = true := by
  induction ms generalizing before t n with
  | nil => rfl
  | cons m ms ih =>
    cases m with
    | border =>
      obtain ⟨hborder, hrest⟩ := h
      rw [matchLength?, if_pos hborder]
      exact ih hrest
    | run r =>
      obtain ⟨s, u, k, rfl, htakes, hrest, rfl⟩ := h
      have hchoice : s.length ∈ r.choices (s ++ u) := by
        rw [Run.mem_choices_iff, List.take_left]
        exact ⟨by simp, htakes⟩
      rw [matchLength?, List.findSome?_isSome_iff]
      refine ⟨s.length, hchoice, ?_⟩
      rw [Option.isSome_map, List.take_left, List.drop_left]
      exact ih hrest

theorem lastOr_append (before : Option Char) (s u : Text) : lastOr before (s ++ u) = lastOr (lastOr before s) u := by
  rw [lastOr, lastOr, lastOr, List.getLast?_append, Option.or_assoc]

theorem lastOr_cons (before : Option Char) (c : Char) (t : Text) : lastOr before (c :: t) = lastOr (some c) t := by
  have h := lastOr_append before [c] t
  rwa [List.singleton_append] at h

theorem matches_runs_append_iff {rs : List Run} {ms : List Mark} {before : Option Char} {t : Text} {n : Nat} :
    Matches (rs.map .run ++ ms) before t n ↔
      ∃ s u k, t = s ++ u ∧ Fills rs s ∧ Matches ms (lastOr before s) u k ∧ n = s.length + k := by
  induction rs generalizing before t n with
  | nil => simp [Fills, lastOr]
  | cons r rs ih =>
    simp only [List.map_cons, List.cons_append, Matches, ih, Fills]
    constructor
    · rintro ⟨s, _, _, rfl, hs, ⟨v, u, k, rfl, hv, hrest, rfl⟩, rfl⟩
      refine ⟨s ++ v, u, k, by simp, ⟨s, v, rfl, hs, hv⟩, ?_, by simp [Nat.add_assoc]⟩
      rwa [lastOr_append]
    · rintro ⟨_, u, k, rfl, ⟨s, v, rfl, hs, hv⟩, hrest, rfl⟩
      rw [lastOr_append] at hrest
      exact ⟨s, v ++ u, v.length + k, by simp, hs, ⟨v, u, k, rfl, hv, hrest, rfl⟩, by simp [Nat.add_assoc]⟩

/-- Runs that take word characters only, and at least one. -/
structure Wordy (rs : List Run) : Prop where
  isWordChar : ∀ r ∈ rs, ∀ c, r.test c = true → isWordChar c = true
  ne_nil : ¬ Fills rs []

theorem Wordy.isWord {rs : List Run} (h : Wordy rs) {w : Text} (hw : Fills rs w) : IsWord w := by
  refine ⟨fun hnil => h.ne_nil (hnil ▸ hw), ?_⟩
  have hchars := h.isWordChar
  clear h
  induction rs generalizing w with
  | nil => simp [show w = [] from hw]
  | cons r rs ih =>
    obtain ⟨s, u, rfl, hs, hu⟩ := hw
    intro c hc
    rcases List.mem_append.1 hc with hc | hc
    · exact hchars r (by simp) c (hs.test c hc)
    · exact ih hu (fun q hq => hchars q (by simp [hq])) c hc

theorem atBorder_word {before : Option Char} {w : Text} (hw : IsWord w) (u : Text) :
    atBorder before (w ++ u) = true ↔ before.any isWordChar = false := by
  obtain ⟨c, s, rfl⟩ := List.exists_cons_of_ne_nil hw.1
  simp [atBorder, hw.2 c (by simp)]

theorem any_lastOr {w : Text} (hw : IsWord w) (before : Option Char) : (lastOr before w).any isWordChar = true := by
  have hlast := List.getLast?_eq_some_getLast hw.1
  rw [lastOr, hlast, Option.some_or, Option.any_some]
  exact hw.2 _ (List.getLast_mem hw.1)

/-- The runs match from border to border exactly where a word begins that they fill. -/
theorem matches_whole_iff {rs : List Run} (h : Wordy rs) {before : Option Char} {t : Text} {n : Nat} :
    Matches (whole rs) before t n ↔ before.any isWordChar = false ∧
      ∃ w u, t = w ++ u ∧ Fills rs w ∧ StartsFree u ∧ n = w.length := by
  rw [whole, Matches, matches_runs_append_iff]
  simp only [Matches]
  constructor
  · rintro ⟨hborder, w, u, _, rfl, hw, ⟨hend, rfl⟩, rfl⟩
    have hword := h.isWord hw
    refine ⟨(atBorder_word hword u).1 hborder, w, u, rfl, hw, ?_, rfl⟩
    rw [atBorder, any_lastOr hword] at hend
    exact any_head?_eq_false_iff.1 (by simpa using hend)
  · rintro ⟨hbefore, w, u, rfl, hw, hu, rfl⟩
    have hword := h.isWord hw
    refine ⟨(atBorder_word hword u).2 hbefore, w, u, 0, rfl, hw, ⟨?_, rfl⟩, rfl⟩
    rw [atBorder, any_lastOr hword, any_head?_eq_false_iff.2 hu]
    rfl

section
variable {ms : List Mark} (f : Text → Text)

theorem replaceFrom_cons_none {before : Option Char} {c : Char} {t : Text}
    (hn : matchLength? ms before (c :: t) = none) :
    replaceFrom ms f 0 before (c :: t) = c :: replaceFrom ms f 0 (some c) t := by
  rw [replaceFrom, hn]

/-- The characters of a match are passed over. -/
theorem replaceFrom_length (before : Option Char) (s t : Text) :
    replaceFrom ms f s.length before (s ++ t) = replaceFrom ms f 0 (lastOr before s) t := by
  induction s generalizing before with
  | nil => rfl
  | cons c s ih =>
    rw [List.length_cons, List.cons_append, replaceFrom, ih, lastOr_cons]

end

section
variable {rs : List Run} (h : Wordy rs)
include h

theorem matchLength?_within_word {before : Option Char} (hb : before.any isWordChar = true) (t : Text) :
    matchLength? (whole rs) before t = none := by
  rw [← Option.not_isSome_iff_eq_none]
  intro hsome
  obtain ⟨n, hn⟩ := Option.isSome_iff_exists.1 hsome
  have hfree := ((matches_whole_iff h).1 (matches_of_matchLength? hn)).1
  simp [hb] at hfree

theorem matchLength?_of_startsFree (before : Option Char) {t : Text} (ht : StartsFree t) :
    matchLength? (whole rs) before t = none := by
  rw [← Option.not_isSome_iff_eq_none]
  intro hsome
  obtain ⟨n, hn⟩ := Option.isSome_iff_exists.1 hsome
  obtain ⟨-, w, u, rfl, hw, -, -⟩ := (matches_whole_iff h).1 (matches_of_matchLength? hn)
  exact (h.isWord hw).not_startsFree u ht

/-- In front of a word there is one match at most, and it is the word. -/
theorem matchLength?_word {before : Option Char} (hb : before.any isWordChar = false) {w t : Text} (hw : IsWord w)
    (ht : StartsFree t) [Decidable (Fills rs w)] :
    matchLength? (whole rs) before (w ++ t) = if Fills rs w then some w.length else none := by
  have hfound {n : Nat} (hn : matchLength? (whole rs) before (w ++ t) = some n) : Fills rs w ∧ n = w.length := by
    obtain ⟨-, v, u, heq, hv, hu, rfl⟩ := (matches_whole_iff h).1 (matches_of_matchLength? hn)
    obtain rfl := hw.unique (h.isWord hv) ht hu heq
    exact ⟨hv, rfl⟩
  split
  · rename_i hfills
    have hsome := isSome_matchLength? ((matches_whole_iff h).2 ⟨hb, w, t, rfl, hfills, ht, rfl⟩)
    obtain ⟨n, hn⟩ := Option.isSome_iff_exists.1 hsome
    rw [hn, (hfound hn).2]
  · rename_i hfills
    cases hn : matchLength? (whole rs) before (w ++ t) with
    | none => rfl
    | some n => exact absurd (hfound hn).1 hfills

variable (f : Text → Text)

/-- The rest of a word stays once its beginning did not match. -/
theorem replaceFrom_within_word {before : Option Char} (hb : before.any isWordChar = true) {s : Text}
    (hs : ∀ c ∈ s, isWordChar c = true) (t : Text) :
    replaceFrom (whole rs) f 0 before (s ++ t) = s ++ replaceFrom (whole rs) f 0 (lastOr before s) t := by
  induction s generalizing before with
  | nil => rfl
  | cons c s ih =>
    have hc : (some c).any isWordChar = true := hs c (by simp)
    rw [List.cons_append, replaceFrom_cons_none f (matchLength?_within_word h hb _),
      ih hc fun d hd => hs d (by simp [hd]), lastOr_cons, List.cons_append]

/-- Replacing the matches between borders is a map over the words. The search stands between words, or at the end of
one. -/
theorem replaceFrom_whole {test : Text → Bool} (htest : ∀ w, test w = true ↔ Fills rs w)
    {before : Option Char} {t : Text} (hb : before.any isWordChar = false ∨ StartsFree t) :
    replaceFrom (whole rs) f 0 before t = mapWords (fun w => if test w then f w else w) t := by
  induction t using words_induction generalizing before with
  | nil => rfl
  | gap c t hc ih =>
    have hfree : StartsFree (c :: t) := startsFree_cons.2 hc
    rw [replaceFrom_cons_none f (matchLength?_of_startsFree h before hfree), mapWords_cons_gap _ hc,
      ih (.inl (by simpa using hc))]
  | word w t hw ht ih =>
    have hfree : before.any isWordChar = false := hb.resolve_right (hw.not_startsFree t)
    have hdec : Decidable (Fills rs w) := decidable_of_iff _ (htest w)
    have hmatch := matchLength?_word h hfree hw ht
    rw [mapWords_word_append _ hw ht]
    obtain ⟨c, s, rfl⟩ := List.exists_cons_of_ne_nil hw.1
    rw [List.cons_append] at hmatch ⊢
    by_cases hfills : Fills rs (c :: s)
    · rw [if_pos hfills, List.length_cons] at hmatch
      rw [if_pos ((htest _).2 hfills), replaceFrom, hmatch]
      change f ((c :: s ++ t).take (c :: s).length) ++ replaceFrom (whole rs) f s.length (some c) (s ++ t) = _
      rw [List.take_left, replaceFrom_length, ih (.inr ht)]
    · rw [if_neg hfills] at hmatch
      have hc : (some c).any isWordChar = true := hw.2 c (by simp)
      rw [if_neg (mt (htest _).1 hfills), replaceFrom_cons_none f hmatch,
        replaceFrom_within_word h f hc (fun d hd => hw.2 d (by simp [hd])), ih (.inr ht), List.cons_append]

theorem replaceAll_whole {test : Text → Bool} (htest : ∀ w, test w = true ↔ Fills rs w) (t : Text) :
    replaceAll (whole rs) f t = mapWords (fun w => if test w then f w else w) t :=
  replaceFrom_whole h f htest (.inl rfl)

end

example : replaceAll (whole [⟨Char.isDigit, 2, none⟩, ⟨Char.isDigit, 1, some 1⟩]) (fun w => 'x' :: w.drop 1)
    "12 345 a678 90".toList = "12 x45 a678 90".toList := by decide +kernel

end PaymentIdentifiers.Text
