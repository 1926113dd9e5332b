import PaymentIdentifiers.Proofs.CheckDigits.Number
import PaymentIdentifiers.Proofs.Text.Pieces

/-!
# The one pair of check digits that belongs to a value

With the pair in its last place, the number of a value is a hundred times its stem plus the number of the pair.
Modulo 97 that leaves exactly one pair from 02 to 98, and the reserved pairs are just those outside of this range.
-/
namespace PaymentIdentifiers.CheckDigits

/-- The value with another text in the place of its check digits. -/
def withDigits (value e : Text) : Text := value.take 2 ++ e ++ value.drop 4

/-- The number of a value without its check digits. -/
def stem (value : Text) : Nat := Text.toNat ((value.drop 4 ++ value.take 2).flatMap digits)

/-- A value that can be given check digits: it has a body, and only letters and digits outside of the two places. -/
def Fillable (value : Text) : Prop := 4 < value.length ∧ ∀ c ∈ value.take 2 ++ value.drop 4, c.isAlphanum = true

instance (value : Text) : Decidable (Fillable value) :=
  decidable_of_iff (4 < value.length ∧ (value.take 2 ++ value.drop 4).all Char.isAlphanum = true)
    (and_congr_right fun _ => List.all_eq_true)

theorem Fillable.two_le_length {value : Text} (h : Fillable value) : 2 ≤ value.length := by
  have := h.1
  omega

theorem withDigits_zeros (value : Text) : withDigits value "00" = blankOut value := rfl

theorem rotate_withDigits {value e : Text} (hv : 2 ≤ value.length) (he : e.length = 2) :
    rotate (withDigits value e) = value.drop 4 ++ value.take 2 ++ e := by
  have h2 := List.length_take_of_le hv
  rw [rotate, withDigits, Text.drop_four_pieces _ h2 he, Text.take_four_pieces _ h2 he, List.append_assoc]

theorem slice_withDigits {value e : Text} (hv : 2 ≤ value.length) (he : e.length = 2) :
    (withDigits value e).slice 2 4 = e :=
  Text.slice_pieces _ (List.length_take_of_le hv) he

theorem number_withDigits {value e : Text} (hv : 2 ≤ value.length) (he : Text.DigitPair e) :
    number (withDigits value e) = stem value * 100 + Text.toNat e := by
  rw [number, rotate_withDigits hv he.1, List.flatMap_append, flatMap_digits he.2, Text.toNat_append, he.1, stem]
  norm_num

theorem forall_mem_withDigits {value e : Text} (he : Text.DigitPair e) :
    (∀ c ∈ withDigits value e, c.isAlphanum = true) ↔ ∀ c ∈ value.take 2 ++ value.drop 4, c.isAlphanum = true := by
  have hpair : ∀ c ∈ e, c.isAlphanum = true := fun c hc => Text.isAlphanum_of_isDigit (he.2 c hc)
  simp only [withDigits, List.mem_append, or_imp, forall_and]
  exact ⟨fun h => ⟨h.1.1, h.2⟩, fun h => ⟨⟨h.1, hpair⟩, h.2⟩⟩

theorem digitPair_zeros : Text.DigitPair "00" := by decide

/-- The reserved pairs are those below 02 and above 98. -/
theorem mem_reserved_iff {e : Text} (he : Text.DigitPair e) :
    e ∈ reserved ↔ ¬ (2 ≤ Text.toNat e ∧ Text.toNat e ≤ 98) := by
  have hlt := he.toNat_lt_hundred
  constructor
  · intro h
    simp only [reserved, List.mem_cons, List.not_mem_nil, or_false] at h
    rcases h with rfl | rfl | rfl <;> decide
  · intro h
    have hn : Text.toNat e = 0 ∨ Text.toNat e = 1 ∨ Text.toNat e = 99 := by omega
    rcases hn with h0 | h1 | h99
    · rw [he.eq_of_toNat (by decide : Text.DigitPair "00") h0]
      decide
    · rw [he.eq_of_toNat (by decide : Text.DigitPair "01") h1]
      decide
    · rw [he.eq_of_toNat (by decide : Text.DigitPair "99") h99]
      decide

/-- When a value with a pair of digits in their place is accepted. -/
theorem validate_iff {value : Text} (he : Text.DigitPair (value.slice 2 4)) :
    validate value = true ↔ 4 < value.length ∧ (∀ c ∈ value, c.isAlphanum = true) ∧
      (2 ≤ Text.toNat (value.slice 2 4) ∧ Text.toNat (value.slice 2 4) ≤ 98) ∧ number value % 97 = 1 := by
  rw [validate_iff_number, mem_reserved_iff he, Decidable.not_not]
  tauto

theorem take_withDigits {value e : Text} (hv : 2 ≤ value.length) : (withDigits value e).take 2 = value.take 2 :=
  Text.take_two_pieces _ (List.length_take_of_le hv)

theorem drop_withDigits {value e : Text} (hv : 2 ≤ value.length) (he : e.length = 2) :
    (withDigits value e).drop 4 = value.drop 4 :=
  Text.drop_four_pieces _ (List.length_take_of_le hv) he

theorem length_withDigits {value e : Text} (hv : 4 < value.length) (he : e.length = 2) :
    (withDigits value e).length = value.length := by
  simp only [withDigits, List.length_append, List.length_take, List.length_drop]
  omega

theorem withDigits_zeroed {code rest e : Text} (hc : code.length = 2) :
    withDigits (code ++ "00" ++ rest) e = code ++ e ++ rest := by
  rw [withDigits, Text.take_two_pieces _ hc, Text.drop_four_pieces _ hc rfl]

/-- A country code and a body can be given check digits if the body is not empty and both are letters and digits. -/
theorem fillable_zeroed {code rest : Text} (hc : code.length = 2) (hcode : ∀ c ∈ code, c.isAlphanum = true)
    (hne : 0 < rest.length) (hrest : ∀ c ∈ rest, c.isAlphanum = true) : Fillable (code ++ "00" ++ rest) := by
  constructor
  · rw [List.length_append, List.length_append, hc, digitPair_zeros.1]
    omega
  · rw [Text.take_two_pieces _ hc, Text.drop_four_pieces _ hc rfl]
    exact List.forall_mem_append.2 ⟨hcode, hrest⟩

/-- A value with any pair of digits put in is accepted only if it is fillable. -/
theorem fillable_of_validate {value e : Text} (he : Text.DigitPair e) (h : validate (withDigits value e) = true) :
    Fillable value := by
  simp only [validate, Bool.and_eq_true, decide_eq_true_eq, Option.isNone_iff_eq_none, foreign?_eq_none_iff,
    forall_mem_withDigits he] at h
  obtain ⟨⟨⟨hl, -⟩, ha⟩, -⟩ := h
  have h2 := he.1
  simp only [withDigits, List.length_append, List.length_take, List.length_drop] at hl
  exact ⟨by omega, ha⟩

/-- The pair that is accepted has the number that completes the stem to the remainder one. -/
theorem validate_withDigits_iff {value e : Text} (hv : Fillable value) (he : Text.DigitPair e) :
    validate (withDigits value e) = true ↔ Text.toNat e = 98 - stem value * 100 % 97 := by
  have h2 := hv.two_le_length
  have hslice := slice_withDigits h2 he.1
  rw [validate_iff (by rwa [hslice]), hslice, length_withDigits hv.1 he.1, forall_mem_withDigits he,
    number_withDigits h2 he]
  have hlt := he.toNat_lt_hundred
  constructor
  · rintro ⟨-, -, hr, hm⟩
    omega
  · intro h
    exact ⟨hv.1, hv.2, by omega, by omega⟩

theorem toNat_replicate_zero (n : Nat) : Text.toNat (List.replicate n '0') = 0 := by
  rw [Text.toNat_eq_ofDigitChars, Nat.ofDigitChars_replicate_zero]
  rfl

theorem toNat_twoDigits (n : Nat) : Text.toNat (twoDigits n) = n := by
  rw [twoDigits, List.leftpad, Text.toNat_append, toNat_replicate_zero, Text.toNat_ofNat]
  omega

theorem digitPair_twoDigits {n : Nat} (h : n < 100) : Text.DigitPair (twoDigits n) := by
  have hl := Text.length_ofNat_le (n := n) (k := 2) (by decide) (by omega)
  constructor
  · rw [twoDigits, List.length_leftpad]
    omega
  · rw [twoDigits, List.leftpad]
    refine Text.allDigits_append.2 ⟨fun c hc => ?_, Text.allDigits_ofNat n⟩
    rw [(List.mem_replicate.1 hc).2]
    rfl

theorem remainder_blankOut {value : Text} (hv : Fillable value) :
    remainder (blankOut value) = stem value * 100 % 97 := by
  have h2 := hv.two_le_length
  rw [← withDigits_zeros, remainder_eq_number_mod ((forall_mem_withDigits digitPair_zeros).2 hv.2),
    number_withDigits h2 digitPair_zeros]
  rfl

theorem digitPair_digitsFor (value : Text) : Text.DigitPair (digitsFor value) :=
  digitPair_twoDigits (by omega)

theorem toNat_digitsFor {value : Text} (hv : Fillable value) :
    Text.toNat (digitsFor value) = 98 - stem value * 100 % 97 := by
  rw [digitsFor, toNat_twoDigits, remainder_blankOut hv]

/-- Of all pairs of digits, only the computed one is accepted. -/
theorem validate_withDigits_iff_eq {value e : Text} (hv : Fillable value) (he : Text.DigitPair e) :
    validate (withDigits value e) = true ↔ e = digitsFor value := by
  rw [validate_withDigits_iff hv he, ← toNat_digitsFor hv]
  exact ⟨fun h => he.eq_of_toNat (digitPair_digitsFor value) h, fun h => by rw [h]⟩

theorem calculate_of_fillable {value : Text} (hv : Fillable value) : calculate value = .ok (digitsFor value) := by
  have hf : foreign? (blankOut value) = none :=
    foreign?_eq_none_iff.2 ((forall_mem_withDigits digitPair_zeros).2 hv.2)
  rw [calculate, if_neg (Nat.not_le.2 hv.1), hf]

theorem calculate_of_not_fillable {value : Text} (hv : ¬ Fillable value) : ∃ f, calculate value = .error f := by
  unfold calculate
  split
  · exact ⟨_, rfl⟩
  · rename_i hl
    cases hf : foreign? (blankOut value) with
    | some c => exact ⟨_, rfl⟩
    | none =>
      have ha := foreign?_eq_none_iff.1 hf
      exact absurd ⟨Nat.not_le.1 hl, (forall_mem_withDigits digitPair_zeros).1 ha⟩ hv

theorem calculate_withDigits {value e : Text} (hv : Fillable value) (he : e.length = 2) :
    calculate (withDigits value e) = calculate value := by
  have h2 := hv.two_le_length
  have hb : blankOut (withDigits value e) = blankOut value := by
    rw [blankOut, blankOut, take_withDigits h2, drop_withDigits h2 he]
  rw [calculate, calculate, digitsFor, digitsFor, hb, length_withDigits hv.1 he]

/-- The check digits of a value with a body of letters and digits exist, do not depend on the characters in their
place, lie between 02 and 98 and are the one pair that is accepted. Any other value has none. -/
theorem calculate_only_valid_pair (value : Text) :
    (Fillable value →
      ∃ d, calculate value = .ok d ∧ Text.DigitPair d ∧ 2 ≤ Text.toNat d ∧ Text.toNat d ≤ 98 ∧
        (∀ a b, calculate (withDigits value [a, b]) = .ok d) ∧
        ∀ e, Text.DigitPair e → (validate (withDigits value e) = true ↔ e = d)) ∧
    (¬ Fillable value →
      (∃ f, calculate value = .error f) ∧
        ∀ e, Text.DigitPair e → validate (withDigits value e) = false) := by
  constructor
  · intro hv
    have hc := calculate_of_fillable hv
    have hn := toNat_digitsFor hv
    refine ⟨digitsFor value, hc, digitPair_digitsFor value, by omega, by omega, fun a b => ?_, fun e he => ?_⟩
    · rw [calculate_withDigits hv rfl, hc]
    · exact validate_withDigits_iff_eq hv he
  · intro hv
    refine ⟨calculate_of_not_fillable hv, fun e he => ?_⟩
    rw [Bool.eq_false_iff]
    exact fun h => hv (fillable_of_validate he h)

/-- The account number of a French bank with any characters in the place of its check digits. -/
theorem calculate_only_valid_pair_fr :
    Fillable "FR??20041010050500013M02606" ∧ Text.DigitPair "14" ∧
      calculate "FR??20041010050500013M02606" = .ok "14" ∧
      validate (withDigits "FR??20041010050500013M02606" "14") = true ∧
      ¬ Fillable "FR14" ∧ (∃ f, calculate "FR14" = .error f) := by
  have hv : Fillable "FR??20041010050500013M02606" := by decide +kernel
  have he : Text.DigitPair "14" := by decide
  have hn : ¬ Fillable "FR14" := by decide +kernel
  have hd : digitsFor "FR??20041010050500013M02606" = "14" := by decide +kernel
  have hc : calculate "FR??20041010050500013M02606" = .ok "14" :=
    (calculate_of_fillable hv).trans (congrArg Except.ok hd)
  obtain ⟨d, hd, -, -, -, -, hvalid⟩ := (calculate_only_valid_pair _).1 hv
  obtain rfl : "14".toList = d := by
    rw [hc] at hd
    exact Except.ok.inj hd
  exact ⟨hv, he, hc, (hvalid _ he).2 rfl, hn, ((calculate_only_valid_pair _).2 hn).1⟩

end PaymentIdentifiers.CheckDigits
