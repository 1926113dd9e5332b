import PaymentIdentifiers.Proofs.Swift.Grammar

/-!
# Searching for tokens

A search does not look at the whole expression, so it could cut it in other places than the grammar does. It never
does: the digits of a token end at its mark or letter, hence a text has only one token in front, and in a row of
tokens each search begins where the next token begins.
-/
namespace PaymentIdentifiers.Swift

theorem CharClass.qualifier_inj {k l : CharClass} (h : k.qualifier = l.qualifier) : k = l := by
  have hk := CharClass.ofQualifier?_qualifier k
  rw [h, CharClass.ofQualifier?_qualifier] at hk
  exact (Option.some.inj hk).symm

namespace Token

theorem text_append (t : Token) (rest : Text) :
    t.text ++ rest = t.count ++ ((if t.fixed then ['!'] else []) ++ t.charClass.qualifier :: rest) := by
  simp [text]

/-- The count of a token is what stands in front of its mark or letter. -/
theorem takeWhile_text_append {t : Token} (h : t.WellFormed) (rest : Text) :
    (t.text ++ rest).takeWhile Char.isDigit = t.count := by
  have hqualifier := t.charClass.qualifier_ne.1
  have hmark : '!'.isDigit = false := by decide
  rw [text_append, List.takeWhile_append_of_pos h.digits]
  cases t.fixed with
  | false => simp [hqualifier]
  | true => simp [hmark]

/-- A text has only one token in front. -/
theorem WellFormed.unique {t u : Token} (ht : t.WellFormed) (hu : u.WellFormed) {r s : Text}
    (h : t.text ++ r = u.text ++ s) : t = u := by
  have hcount : t.count = u.count := by
    rw [← takeWhile_text_append ht r, h, takeWhile_text_append hu s]
  rw [text_append, text_append, hcount] at h
  have hrest := List.append_cancel_left h
  obtain ⟨count, fixed, k⟩ := t
  obtain ⟨count', fixed', l⟩ := u
  obtain rfl : count = count' := hcount
  cases fixed with
  | false =>
    cases fixed' with
    | false =>
      obtain rfl := CharClass.qualifier_inj (List.cons.inj hrest).1
      rfl
    | true => exact absurd (List.cons.inj hrest).1 k.qualifier_ne.2
  | true =>
    cases fixed' with
    | false => exact absurd (List.cons.inj hrest).1.symm l.qualifier_ne.2
    | true =>
      obtain rfl := CharClass.qualifier_inj (List.cons.inj (List.cons.inj hrest).2).1
      rfl

theorem frontWith?_text_append {t : Token} (h : t.WellFormed) (rest : Text) :
    frontWith? t.count.length t.fixed (t.text ++ rest) = some t := by
  have htake : (t.text ++ rest).take t.count.length = t.count := by
    rw [text_append, List.take_left' rfl]
  have hletter : (t.text ++ rest)[t.count.length + if t.fixed then 1 else 0]? = some t.charClass.qualifier := by
    rw [text_append, List.getElem?_append_right (by omega), Nat.add_sub_cancel_left]
    cases t.fixed with
    | false => rfl
    | true => rfl
  have hdigits : t.count.all Char.isDigit = true := List.all_eq_true.2 h.digits
  rw [frontWith?, hletter, Option.bind_some, CharClass.ofQualifier?_qualifier]
  simp only [htake]
  rw [hdigits, Bool.true_and, if_pos (by simp)]

theorem wellFormed_of_frontWith? {n : Nat} {fixed : Bool} {s : Text} {t : Token} (hpos : 0 < n) (hle : n ≤ 3)
    (h : frontWith? n fixed s = some t) : t.WellFormed ∧ ∃ rest, t.text ++ rest = s := by
  unfold frontWith? at h
  split at h
  · contradiction
  · rename_i k hk
    dsimp only at h
    split at h
    · rename_i htests
      obtain rfl := Option.some.inj h
      rw [Bool.and_eq_true, List.all_eq_true, List.isPrefixOf_iff_prefix] at htests
      obtain ⟨c, hc, -⟩ := Option.bind_eq_some_iff.1 hk
      have hlength : n < s.length := by
        have := (List.getElem?_eq_some_iff.1 hc).1
        omega
      have hcount : (s.take n).length = n := List.length_take_of_le (by omega)
      exact ⟨⟨List.ne_nil_of_length_pos (by simp only [hcount, hpos]), by simp only [hcount, hle], htests.1⟩, htests.2⟩
    · contradiction

/-- Of all the attempts at a token in front, those that succeed agree. -/
theorem front?_text_append {t : Token} (h : t.WellFormed) (rest : Text) : front? (t.text ++ rest) = some t := by
  have hlength := List.length_pos_iff.2 h.ne_nil
  have hle := h.length_le
  have hattempt : (t.count.length, t.fixed) ∈
      [(3, true), (3, false), (2, true), (2, false), (1, true), (1, false)] := by
    have hn : t.count.length = 1 ∨ t.count.length = 2 ∨ t.count.length = 3 := by omega
    cases t.fixed <;> rcases hn with hn | hn | hn <;> simp [hn]
  cases hfront : front? (t.text ++ rest) with
  | none =>
    have hfail := List.findSome?_eq_none_iff.1 hfront _ hattempt
    rw [frontWith?_text_append h rest] at hfail
    contradiction
  | some u =>
    obtain ⟨q, hq, hu⟩ := List.exists_of_findSome?_eq_some hfront
    have hbounds : 0 < q.1 ∧ q.1 ≤ 3 := by
      simp only [List.mem_cons, List.not_mem_nil, or_false] at hq
      rcases hq with rfl | rfl | rfl | rfl | rfl | rfl <;> decide
    obtain ⟨hwell, s, hs⟩ := wellFormed_of_frontWith? hbounds.1 hbounds.2 hu
    rw [hwell.unique h hs]

theorem findFrom_eq_findAll_drop (skip : Nat) (s : Text) : findFrom skip s = findAll (s.drop skip) := by
  induction s generalizing skip with
  | nil => simp [findFrom, findAll]
  | cons c s ih =>
    cases skip with
    | zero => rfl
    | succ skip => exact ih skip

/-- A search finds the token in front and goes on behind it. -/
theorem findAll_text_append {t : Token} (h : t.WellFormed) (rest : Text) :
    findAll (t.text ++ rest) = t :: findAll rest := by
  have hfront := front?_text_append h rest
  have hne : t.text ≠ [] := by simp [text]
  obtain ⟨c, s, hs⟩ := List.exists_cons_of_ne_nil hne
  rw [hs, List.cons_append] at hfront ⊢
  rw [findAll, findFrom, hfront]
  simp only
  rw [findFrom_eq_findAll_drop, hs, List.length_cons, Nat.add_sub_cancel, List.drop_left]

theorem findAll_writeAll {ts : List Token} (h : ∀ t ∈ ts, t.WellFormed) : findAll (writeAll ts) = ts := by
  induction ts with
  | nil => rfl
  | cons t ts ih => rw [writeAll_cons, findAll_text_append (h t (by simp)), ih fun u hu => h u (by simp [hu])]

/-- The search finds the tokens that spell an expression, and no others. -/
theorem Spells.findAll_eq {ts : List Token} {e : Text} (h : Spells ts e) : findAll e = ts := by
  rw [← h.text_eq, findAll_writeAll h.wellFormed]

end Token
end PaymentIdentifiers.Swift
