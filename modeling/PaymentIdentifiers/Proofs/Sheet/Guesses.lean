import PaymentIdentifiers.Proofs.Sheet.Dialects
import PaymentIdentifiers.Sheet.Dialect

/-!
# Guessing a delimiter

If the first lines all show one delimiter equally often and no other one, it is guessed. If there are few lines and one
of them shows it less often than the others, none is: the agreeing lines do not outnumber the others by enough.
-/
namespace PaymentIdentifiers.Sheet

variable {c d : Char} {ls : List Text} {n : Nat}

theorem foldl_max_le_iff {ns : List Nat} {a : Nat} : ns.foldl max a ≤ n ↔ a ≤ n ∧ ∀ m ∈ ns, m ≤ n := by
  induction ns generalizing a with
  | nil => simp
  | cons m ns ih => rw [List.foldl_cons, ih, Nat.max_le, List.forall_mem_cons, and_assoc]

/-- The support of a character is the largest number of lines that show it equally often. -/
theorem support_le_iff : support c ls ≤ n ↔ ∀ m, 0 < m → (ls.map fun l => l.count c).count m ≤ n := by
  rw [support, foldl_max_le_iff]
  constructor
  · intro h m hm
    by_cases hmem : m ∈ ls.map fun l => l.count c
    · refine h.2 _ (List.mem_map_of_mem ?_)
      simp only [List.mem_eraseDups, List.mem_filter, decide_eq_true_eq]
      exact ⟨hmem, hm⟩
    · rw [List.count_eq_zero.2 hmem]
      exact Nat.zero_le _
  · intro h
    refine ⟨Nat.zero_le _, fun m hm => ?_⟩
    obtain ⟨k, hk, rfl⟩ := List.mem_map.1 hm
    simp only [List.mem_eraseDups, List.mem_filter, decide_eq_true_eq] at hk
    exact h k hk.2

theorem support_eq_zero (h : ∀ l ∈ ls, l.count c = 0) : support c ls = 0 := by
  refine Nat.le_zero.1 (support_le_iff.2 fun m hm => Nat.le_zero.2 (List.count_eq_zero.2 fun hmem => ?_))
  obtain ⟨l, hl, rfl⟩ := List.mem_map.1 hmem
  exact absurd (h l hl) (Nat.pos_iff_ne_zero.1 hm)

theorem support_eq_length {m : Nat} (hm : 0 < m) (h : ∀ l ∈ ls, l.count c = m) : support c ls = ls.length := by
  refine Nat.le_antisymm (support_le_iff.2 fun k _ => ?_) ?_
  · exact Nat.le_trans List.count_le_length (Nat.le_of_eq (List.length_map _))
  · have hall : (ls.map fun l => l.count c).count m = ls.length := by
      rw [List.map_congr_left h, List.map_const', List.count_replicate_self]
    exact hall ▸ support_le_iff.1 (Nat.le_refl _) m hm

/-- One line that does not agree with the others lowers the support. -/
theorem support_concat_le {l : Text} {m : Nat} (hne : ls ≠ []) (h : ∀ l' ∈ ls, l'.count c = m) (hl : l.count c ≠ m) :
    support c (ls ++ [l]) ≤ ls.length := by
  refine support_le_iff.2 fun k _ => ?_
  rw [List.map_append, List.map_congr_left h, List.map_const', List.count_append, List.count_replicate,
    List.map_singleton, List.count_singleton]
  have hpos := List.length_pos_iff.2 hne
  by_cases hk : m = k
  · subst hk
    simp [hl]
  · simp only [beq_iff_eq, hk, if_false, Nat.zero_add]
    split <;> omega

/-- A line shows one delimiter so many times, and no other one. -/
structure Shows (d : Char) (m : Nat) (l : Text) : Prop where
  count_eq : l.count d = m
  others : ∀ e ∈ delimiters, e ≠ d → l.count e = 0

/-- Some lines agree on a delimiter: they all show it equally often. -/
structure Agree (d : Char) (ls : List Text) : Prop where
  ne_nil : ls ≠ []
  shows : ∃ m, 0 < m ∧ ∀ l ∈ ls, Shows d m l

theorem Agree.take (h : Agree d ls) (hn : 0 < n) : Agree d (ls.take n) where
  ne_nil := by
    have hpos := List.length_pos_iff.2 h.ne_nil
    exact List.ne_nil_of_length_pos (by rw [List.length_take]; omega)
  shows := h.shows.imp fun _ hm => ⟨hm.1, fun l hl => hm.2 l (List.mem_of_mem_take hl)⟩

/-- A line that shows the delimiter like the others is not empty, and they still agree with it. -/
theorem agree_append_line {m : Nat} {l : Text} (hm : 0 < m) (hls : ∀ l' ∈ ls, Shows d m l') (hl : Shows d m l) :
    Agree d (ls ++ [l].filter fun l => !l.isEmpty) := by
  have hne : l ≠ [] := by
    rintro rfl
    exact absurd hl.count_eq (Nat.ne_of_lt hm)
  rw [List.filter_cons_of_pos (by simpa using hne), List.filter_nil]
  refine ⟨List.append_ne_nil_of_right_ne_nil _ (List.cons_ne_nil l []), m, hm, fun l' hl' => ?_⟩
  rcases List.mem_append.1 hl' with hl' | hl'
  · exact hls l' hl'
  · exact List.mem_singleton.1 hl' ▸ hl

theorem guessIn_of_agree (hd : d ∈ delimiters) (h : Agree d ls) : guessIn ls = some d := by
  obtain ⟨m, hm, hshows⟩ := h.shows
  have hpos := List.length_pos_iff.2 h.ne_nil
  have hagrees : ∀ e ∈ delimiters, agrees 100 ls.length (support e ls) = decide (e = d) := by
    intro e he
    by_cases hed : e = d
    · subst hed
      simp [agrees, support_eq_length hm fun l hl => (hshows l hl).count_eq]
    · simp only [agrees, support_eq_zero fun l hl => (hshows l hl).others e he hed, hed, decide_false,
        decide_eq_false_iff_not]
      omega
  have hfind : delimiters.find? (fun e => agrees 100 ls.length (support e ls)) = some d := by
    have hdecided : delimiters.find? (fun e => decide (e = d)) = some d :=
      forall_mem_delimiters (P := fun d => delimiters.find? (fun e => decide (e = d)) = some d).2 (by decide) d hd
    rw [← hdecided]
    simp only [delimiters, List.find?_cons, List.find?_nil, hagrees ',' (by decide), hagrees '\t' (by decide),
      hagrees ';' (by decide)]
  have hdemands : demands = 100 :: (List.range 9).map fun k => 99 - k := by decide
  rw [guessIn, hdemands, List.findSome?_cons, List.find?_map, Function.comp_def, hfind]
  rfl

theorem guess?_of_agree (hd : d ∈ delimiters) (h : Agree d (ls.take 10)) : guess? ls = some d := by
  have hpos : 0 < ls.length := List.length_pos_iff.2 fun hnil => h.ne_nil (by simp [hnil])
  obtain ⟨k, hk⟩ : ∃ k, (ls.length + 9) / 10 = k + 1 := ⟨(ls.length + 9) / 10 - 1, by omega⟩
  have hfirst : ls.take (min (10 * (0 + 1)) ls.length) = ls.take 10 := List.take_eq_take_iff.2 (by omega)
  rw [guess?, steps, hk, List.range_succ_eq_map, List.map_cons, List.findSome?_cons, hfirst, guessIn_of_agree hd h]

theorem guessIn_eq_none (hfew : ls.length ≤ 22) (h : ∀ e ∈ delimiters, support e ls < ls.length) :
    guessIn ls = none := by
  rw [guessIn, List.findSome?_eq_none_iff]
  intro percent hpercent
  have hdemand : 91 ≤ percent := by
    revert percent
    decide
  rw [Option.map_eq_none_iff, List.find?_eq_none]
  intro s hs
  obtain ⟨e, he, rfl⟩ := List.mem_map.1 hs
  have hlow := h e he
  have hmany := Nat.mul_le_mul_right ls.length (Nat.add_le_add_left hdemand 100)
  simp only [agrees, decide_eq_true_eq]
  omega

/-- If there are few lines and the last one shows the delimiter less or more often than the others, there is no guess. -/
theorem guess?_eq_none {l : Text} {m k : Nat} (hne : ls ≠ []) (hfew : ls.length ≤ 9) (h : ∀ l' ∈ ls, Shows d m l')
    (hl : Shows d k l) (hk : k ≠ m) : guess? (ls ++ [l]) = none := by
  have hpos := List.length_pos_iff.2 hne
  have hlength : (ls ++ [l]).length = ls.length + 1 := by simp
  have hone : ((ls ++ [l]).length + 9) / 10 = 1 := by omega
  have hall : (ls ++ [l]).take (min (10 * (0 + 1)) (ls ++ [l]).length) = ls ++ [l] :=
    List.take_of_length_le (by omega)
  have hnone : guessIn (ls ++ [l]) = none := by
    refine guessIn_eq_none (by omega) fun e he => ?_
    by_cases hed : e = d
    · subst hed
      have hle := support_concat_le hne (fun l' hl' => (h l' hl').count_eq) (hl.count_eq ▸ hk)
      omega
    · have hzero : support e (ls ++ [l]) = 0 := by
        refine support_eq_zero fun l' hl' => ?_
        rcases List.mem_append.1 hl' with hl' | hl'
        · exact (h l' hl').others e he hed
        · exact List.mem_singleton.1 hl' ▸ hl.others e he hed
      omega
  rw [guess?, steps, hone, List.range_one, List.map_singleton, List.findSome?_singleton, hall, hnone]

end PaymentIdentifiers.Sheet
