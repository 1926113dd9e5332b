import PaymentIdentifiers.CheckDigits
import PaymentIdentifiers.Proofs.Text.Decimal

/-!
# The number of a value

Written out in full, the number of a value is read from the decimal digits of its characters in reading order.
The running total never holds that number, only one with the same remainder modulo 97, so the reduction on the
way changes nothing in the end.
-/
namespace PaymentIdentifiers.CheckDigits

/-- The decimal digits that stand for a character: a digit for itself, a letter for its two-digit value. -/
def digits (c : Char) : Text := if c.isDigit then [c] else Text.ofNat (digitValue c)

/-- The number of a value, of any size: the body comes first. -/
def number (value : Text) : Nat := Text.toNat ((rotate value).flatMap digits)

theorem digits_of_isDigit {c : Char} (h : c.isDigit = true) : digits c = [c] := if_pos h

theorem flatMap_digits {t : Text} (h : Text.AllDigits t) : t.flatMap digits = t := by
  induction t with
  | nil => rfl
  | cons c t ih =>
    rw [List.flatMap_cons, digits_of_isDigit (h c (by simp)), ih fun d hd => h d (by simp [hd])]
    rfl

theorem digitValue_of_isDigit {c : Char} (h : c.isDigit = true) : digitValue c = c.toNat - 48 := if_pos h

theorem ten_le_digitValue {c : Char} (ha : c.isAlphanum = true) (hd : ¬ c.isDigit = true) : 10 ≤ digitValue c := by
  rw [Text.isAlphanum_iff] at ha
  simp only [digitValue, if_neg hd]
  rw [Text.isDigit_iff] at hd
  split
  · rename_i hu
    have := Text.isUpper_iff.1 hu
    omega
  · rename_i hu
    rw [Text.isUpper_iff] at hu
    omega

theorem isDigit_iff_digitValue_le {c : Char} (h : c.isAlphanum = true) : c.isDigit = true ↔ digitValue c ≤ 9 := by
  constructor
  · intro hd
    have := Text.isDigit_iff.1 hd
    rw [digitValue_of_isDigit hd]
    omega
  · intro hv
    by_contra hd
    have := ten_le_digitValue h hd
    omega

theorem isAlpha_iff_lt_digitValue {c : Char} (h : c.isAlphanum = true) : c.isAlpha = true ↔ 9 < digitValue c := by
  have hdigit := isDigit_iff_digitValue_le h
  rw [← Nat.not_le, ← hdigit, Text.isAlpha_iff]
  rw [Text.isAlphanum_iff] at h
  rw [Text.isUpper_iff, Text.isLower_iff, Text.isDigit_iff]
  omega

/-- Extending the total appends the digits of the character to its notation. -/
theorem toNat_append_digits (s : Text) {c : Char} (h : c.isAlphanum = true) :
    Text.toNat (s ++ digits c) = extend (Text.toNat s) c := by
  by_cases hd : c.isDigit = true
  · have hc := Text.isDigit_iff.1 hd
    have hv : ¬ 9 < c.toNat - 48 := by omega
    rw [digits_of_isDigit hd, Text.toNat_append, extend, digitValue_of_isDigit hd, if_neg hv]
    simp
  · have hl := ten_le_digitValue h hd
    have hu := digitValue_lt h
    have hv : 9 < digitValue c := by omega
    have hlen := Text.length_ofNat_of_lt_hundred hl (by omega)
    rw [digits, if_neg hd, Text.toNat_append, hlen, Text.toNat_ofNat, extend, if_pos hv]
    norm_num

theorem extend_mod (total : Nat) (c : Char) : extend (total % 97) c % 97 = extend total c % 97 := by
  unfold extend
  rw [Nat.add_mod, Nat.mod_mul_mod, ← Nat.add_mod]

/-- A step of the streaming total has the remainder of the step without reduction. -/
theorem absorb_congr {total n : Nat} (c : Char) (h : total % 97 = n % 97) : absorb total c % 97 = extend n c % 97 := by
  rw [absorb_mod, ← extend_mod, h, extend_mod]

/-- The streaming total keeps the remainder of the number read so far. -/
theorem foldl_absorb_mod {t : Text} (ht : ∀ c ∈ t, c.isAlphanum = true) {s : Text} {total : Nat}
    (h : total % 97 = Text.toNat s % 97) :
    t.foldl absorb total % 97 = Text.toNat (s ++ t.flatMap digits) % 97 := by
  induction t generalizing s total with
  | nil => simpa using h
  | cons c t ih =>
    have hc : c.isAlphanum = true := ht c (by simp)
    have hstep : absorb total c % 97 = Text.toNat (s ++ digits c) % 97 := by
      rw [toNat_append_digits s hc]
      exact absorb_congr c h
    rw [List.foldl_cons, ih (fun d hd => ht d (by simp [hd])) hstep, List.flatMap_cons, List.append_assoc]

theorem mem_rotate {value : Text} {c : Char} : c ∈ rotate value ↔ c ∈ value := by
  rw [rotate, List.mem_append, or_comm, ← List.mem_append, List.take_append_drop]

/-- The remainder that is computed is the remainder of the number. -/
theorem remainder_eq_number_mod {value : Text} (h : ∀ c ∈ value, c.isAlphanum = true) :
    remainder value = number value % 97 := by
  have hr : ∀ c ∈ rotate value, c.isAlphanum = true := fun c hc => h c (mem_rotate.1 hc)
  exact foldl_absorb_mod (s := []) hr rfl

theorem foreign?_eq_none_iff {value : Text} : foreign? value = none ↔ ∀ c ∈ value, c.isAlphanum = true := by
  simp [foreign?, mem_rotate]

/-- When a value is accepted, said of its number. -/
theorem validate_iff_number {value : Text} : validate value = true ↔
    4 < value.length ∧ value.slice 2 4 ∉ reserved ∧ (∀ c ∈ value, c.isAlphanum = true) ∧ number value % 97 = 1 := by
  simp only [validate, Bool.and_eq_true, Bool.not_eq_true', decide_eq_true_eq, beq_iff_eq, Option.isNone_iff_eq_none,
    foreign?_eq_none_iff, List.contains_eq_mem, decide_eq_false_iff_not, and_assoc]
  refine and_congr_right fun _ => and_congr_right fun _ => and_congr_right fun ha => ?_
  rw [remainder_eq_number_mod ha]

end PaymentIdentifiers.CheckDigits
