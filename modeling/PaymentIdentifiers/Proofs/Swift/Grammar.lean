import PaymentIdentifiers.Swift.Token
import PaymentIdentifiers.Proofs.Text.Decimal

/-!
# The grammar of format expressions

Reading an expression and writing its tokens are inverse to each other: a text is read exactly if it is the
concatenation of one to `limit` well-formed tokens, and then as these tokens. A text has no second such cut.
-/
namespace PaymentIdentifiers.Swift

/-- A class letter is neither a digit nor the fixed-length mark. -/
theorem CharClass.qualifier_ne (k : CharClass) : k.qualifier.isDigit = false ∧ k.qualifier ≠ '!' := by
  cases k <;> decide

namespace Token

/-- One to three decimal digits stand in front of the mark and the letter. -/
structure WellFormed (t : Token) : Prop where
  ne_nil : t.count ≠ []
  length_le : t.count.length ≤ 3
  digits : Text.AllDigits t.count

/-- The tokens make up the expression, and there are neither none nor too many of them. -/
structure Spells (ts : List Token) (expression : Text) : Prop where
  pos : 1 ≤ ts.length
  le_limit : ts.length ≤ limit
  wellFormed : ∀ t ∈ ts, t.WellFormed
  text_eq : writeAll ts = expression

theorem writeAll_cons (t : Token) (ts : List Token) : writeAll (t :: ts) = t.text ++ writeAll ts := rfl

theorem readFrom_digits {ds : Text} (count rest : Text) (hd : Text.AllDigits ds) (hl : count.length + ds.length ≤ 3) :
    readFrom count false (ds ++ rest) = readFrom (count ++ ds) false rest := by
  induction ds generalizing count with
  | nil => simp
  | cons c ds ih =>
    have hc : c.isDigit = true := hd c (by simp)
    have hroom : ¬ count.length = 3 := by
      rw [List.length_cons] at hl
      omega
    have htail := ih (count ++ [c]) (fun d h => hd d (by simp [h])) (by simp at hl ⊢; omega)
    rw [List.cons_append, readFrom, if_pos hc, if_neg (by simp [hroom]), htail, List.append_assoc]
    rfl

theorem readFrom_mark {count rest : Text} (hn : count ≠ []) :
    readFrom count false ('!' :: rest) = readFrom count true rest := by
  have he : ¬ count.isEmpty = true := by simpa using hn
  rw [readFrom, if_neg (by decide), if_neg he, if_pos (by decide), if_neg (by decide)]

theorem readFrom_qualifier {count rest : Text} (fixed : Bool) (k : CharClass) (hn : count ≠ []) :
    readFrom count fixed (k.qualifier :: rest) = (readFrom [] false rest).map (⟨count, fixed, k⟩ :: ·) := by
  have he : ¬ count.isEmpty = true := by simpa using hn
  obtain ⟨hd, hm⟩ := k.qualifier_ne
  rw [readFrom, if_neg (by simp [hd]), if_neg he, if_neg (by simp [hm]), CharClass.ofQualifier?_qualifier]

/-- A token in front of any text is read as this token, and reading goes on behind it. -/
theorem readFrom_text_append {t : Token} (h : t.WellFormed) (rest : Text) :
    readFrom [] false (t.text ++ rest) = (readFrom [] false rest).map (t :: ·) := by
  obtain ⟨count, fixed, k⟩ := t
  have hcount := readFrom_digits [] ((if fixed then ['!'] else []) ++ k.qualifier :: rest) h.digits
    (by simpa using h.length_le)
  have hsplit : text ⟨count, fixed, k⟩ ++ rest = count ++ ((if fixed then ['!'] else []) ++ k.qualifier :: rest) := by
    simp [text]
  rw [hsplit, hcount, List.nil_append]
  cases fixed with
  | false => exact readFrom_qualifier false k h.ne_nil
  | true => exact (readFrom_mark h.ne_nil).trans (readFrom_qualifier true k h.ne_nil)

theorem readFrom_writeAll {ts : List Token} (h : ∀ t ∈ ts, t.WellFormed) :
    readFrom [] false (writeAll ts) = some ts := by
  induction ts with
  | nil => rfl
  | cons t ts ih =>
    rw [writeAll_cons, readFrom_text_append (h t (by simp)), ih fun u hu => h u (by simp [hu])]
    rfl

/-- What is read is well formed. The invariant: at most three digits were read so far. -/
theorem wellFormed_of_readFrom {ts : List Token} {count : Text} {fixed : Bool} {e : Text}
    (h : readFrom count fixed e = some ts) (hd : Text.AllDigits count) (hl : count.length ≤ 3) :
    ∀ t ∈ ts, t.WellFormed := by
  induction e generalizing count fixed ts with
  | nil =>
    simp only [readFrom] at h
    split at h
    · obtain rfl := Option.some.inj h
      simp
    · contradiction
  | cons c e ih =>
    simp only [readFrom] at h
    split at h
    · rename_i hc
      split at h
      · contradiction
      · rename_i hroom
        refine ih h ?_ ?_
        · refine Text.allDigits_append.2 ⟨hd, fun d hm => ?_⟩
          rw [List.mem_singleton.1 hm]
          exact hc
        · simp at hroom ⊢
          omega
    · split at h
      · contradiction
      · rename_i hne
        split at h
        · split at h
          · contradiction
          · exact ih h hd hl
        · split at h
          · contradiction
          · rename_i k hk
            obtain ⟨us, hu, rfl⟩ := Option.map_eq_some_iff.1 h
            have hrest := ih hu (by simp [Text.AllDigits]) (by simp)
            intro t ht
            rcases List.mem_cons.1 ht with rfl | ht
            · exact ⟨by simpa using hne, hl, hd⟩
            · exact hrest t ht

/-- A text is read exactly as the tokens that spell it. -/
theorem readAll?_eq_some_iff {ts : List Token} {e : Text} : readAll? e = some ts ↔ Spells ts e := by
  constructor
  · intro h
    unfold readAll? at h
    split at h
    · rename_i us hu
      split at h
      · rename_i hb
        obtain rfl := Option.some.inj h
        simp only [Bool.and_eq_true, decide_eq_true_eq] at hb
        have hw := writeAll_of_readFrom hu (by simp)
        exact ⟨hb.1, hb.2, wellFormed_of_readFrom hu (by simp [Text.AllDigits]) (by simp), by simpa using hw.symm⟩
      · contradiction
    · contradiction
  · rintro ⟨hpos, hle, hw, rfl⟩
    rw [readAll?, readFrom_writeAll hw]
    simp [hpos, hle]

theorem readAll?_eq_none_iff {e : Text} : readAll? e = none ↔ ¬ ∃ ts, Spells ts e := by
  rw [Option.eq_none_iff_forall_not_mem]
  simp only [Option.mem_def, readAll?_eq_some_iff, not_exists]

/-- There is only one way to cut a text into tokens. -/
theorem Spells.unique {ts us : List Token} {e : Text} (h : Spells ts e) (k : Spells us e) : ts = us := by
  rw [← readAll?_eq_some_iff] at h k
  exact Option.some.inj (h.symm.trans k)

end Token
end PaymentIdentifiers.Swift
