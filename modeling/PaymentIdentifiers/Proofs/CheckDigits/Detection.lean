import PaymentIdentifiers.Proofs.CheckDigits.Number
import PaymentIdentifiers.Proofs.Text.Canonical
import PaymentIdentifiers.Proofs.Text.Slips
import Mathlib.Data.Nat.ModEq

/-!
# Slips that check digits modulo 97 detect

What stands behind a place only multiplies the number before it by a power of ten, and modulo 97 that can be undone. So
whether a slip is seen depends on the characters it touches and on nothing else. One character for another of its kind is
always seen, because two values below 36 differ modulo 97. Two neighbours in the wrong order are seen as well, except
for a letter and a digit with a value of one eleventh of the letter's.
-/
namespace PaymentIdentifiers.CheckDigits

/-- Two digits or two letters. -/
def SameKind (a b : Char) : Prop := (a.isDigit = true ∧ b.isDigit = true) ∨ (a.isAlpha = true ∧ b.isAlpha = true)

/-- A letter and a digit with a value of one eleventh of the letter's. -/
def Elevenfold (a b : Char) : Prop := a.isAlpha = true ∧ b.isDigit = true ∧ digitValue a = 11 * digitValue b

instance (a b : Char) : Decidable (SameKind a b) := inferInstanceAs (Decidable (_ ∨ _))

instance (a b : Char) : Decidable (Elevenfold a b) := inferInstanceAs (Decidable (_ ∧ _))

theorem elevenfold_iff {a b : Char} (ha : a.isAlphanum = true) (hb : b.isAlphanum = true) :
    Elevenfold a b ↔ 9 < digitValue a ∧ digitValue b ≤ 9 ∧ digitValue a = 11 * digitValue b := by
  rw [Elevenfold, isAlpha_iff_lt_digitValue ha, isDigit_iff_digitValue_le hb]

theorem SameKind.lt_digitValue_iff {a b : Char} (ha : a.isAlphanum = true) (hb : b.isAlphanum = true)
    (h : SameKind a b) : 9 < digitValue a ↔ 9 < digitValue b := by
  rcases h with ⟨hda, hdb⟩ | ⟨hla, hlb⟩
  · rw [isDigit_iff_digitValue_le ha] at hda
    rw [isDigit_iff_digitValue_le hb] at hdb
    omega
  · exact iff_of_true ((isAlpha_iff_lt_digitValue ha).1 hla) ((isAlpha_iff_lt_digitValue hb).1 hlb)

section
variable {n x y : Nat}

theorem digits_modEq_iff (hx : x ≤ 9) (hy : y ≤ 9) :
    (n * 10 + y) * 10 + x ≡ (n * 10 + x) * 10 + y [MOD 97] ↔ x = y := by
  unfold Nat.ModEq
  omega

theorem letters_modEq_iff (hx : x < 36) (hy : y < 36) :
    (n * 100 + y) * 100 + x ≡ (n * 100 + x) * 100 + y [MOD 97] ↔ x = y := by
  unfold Nat.ModEq
  omega

theorem letter_digit_modEq_iff (hx : 9 < x) (hx' : x < 36) (hy : y ≤ 9) :
    (n * 10 + y) * 100 + x ≡ (n * 100 + x) * 10 + y [MOD 97] ↔ x = 11 * y := by
  unfold Nat.ModEq
  omega

end

section
variable {a b : Char} (ha : a.isAlphanum = true) (hb : b.isAlphanum = true) (n : Nat)
include ha hb

/-- Behind the same characters, two of one kind leave the same remainder only if they have the same value. -/
theorem extend_modEq_iff (h : SameKind a b) :
    extend n a ≡ extend n b [MOD 97] ↔ digitValue a = digitValue b := by
  have hkind := h.lt_digitValue_iff ha hb
  have hlt := digitValue_lt ha
  have hlt' := digitValue_lt hb
  simp only [Nat.ModEq, extend, hkind]
  split <;> omega

/-- Two characters with different values leave the same remainder in both orders only if one of them is a letter with
eleven times the value of the other. -/
theorem extend_extend_modEq_iff (hne : digitValue a ≠ digitValue b) :
    extend (extend n b) a ≡ extend (extend n a) b [MOD 97] ↔ Elevenfold a b ∨ Elevenfold b a := by
  have hlt := digitValue_lt ha
  have hlt' := digitValue_lt hb
  rw [elevenfold_iff ha hb, elevenfold_iff hb ha]
  simp only [extend]
  rcases Nat.lt_or_ge 9 (digitValue a) with hla | hda <;> rcases Nat.lt_or_ge 9 (digitValue b) with hlb | hdb
  · rw [if_pos hla, if_pos hlb, letters_modEq_iff hlt hlt']
    omega
  · rw [if_pos hla, if_neg (Nat.not_lt.2 hdb), letter_digit_modEq_iff hla hlt hdb]
    omega
  · rw [if_neg (Nat.not_lt.2 hda), if_pos hlb, Nat.ModEq.comm, letter_digit_modEq_iff hlb hlt' hda]
    omega
  · rw [if_neg (Nat.not_lt.2 hda), if_neg (Nat.not_lt.2 hdb), digits_modEq_iff hda hdb]
    omega

end

theorem toNat_append_modEq_iff (s t u : Text) :
    Text.toNat (s ++ u) ≡ Text.toNat (t ++ u) [MOD 97] ↔ Text.toNat s ≡ Text.toNat t [MOD 97] := by
  rw [Text.toNat_append, Text.toNat_append]
  constructor
  · intro h
    have hcoprime : Nat.Coprime 97 (10 ^ u.length) := Nat.Coprime.pow_right _ (by decide)
    exact Nat.ModEq.cancel_right_of_coprime hcoprime (Nat.ModEq.add_right_cancel' _ h)
  · intro h
    exact (h.mul_right _).add_right _

/-- What both numbers end with does not matter. -/
theorem number_modEq_iff {v w s m m' t : Text} (hv : rotate v = s ++ m ++ t) (hw : rotate w = s ++ m' ++ t) :
    number v ≡ number w [MOD 97] ↔
      Text.toNat ((s ++ m).flatMap digits) ≡ Text.toNat ((s ++ m').flatMap digits) [MOD 97] := by
  have hsplit (r : Text) : (s ++ r ++ t).flatMap digits = (s ++ r).flatMap digits ++ t.flatMap digits :=
    List.flatMap_append
  rw [number, number, hv, hw, hsplit, hsplit, toNat_append_modEq_iff]

theorem toNat_flatMap_concat (s : Text) {c : Char} (h : c.isAlphanum = true) :
    Text.toNat ((s ++ [c]).flatMap digits) = extend (Text.toNat (s.flatMap digits)) c := by
  rw [List.flatMap_append, List.flatMap_singleton, toNat_append_digits _ h]

theorem toNat_flatMap_two (s : Text) {c d : Char} (hc : c.isAlphanum = true) (hd : d.isAlphanum = true) :
    Text.toNat ((s ++ [c, d]).flatMap digits) = extend (extend (Text.toNat (s.flatMap digits)) c) d := by
  rw [List.append_cons, toNat_flatMap_concat _ hd, toNat_flatMap_concat _ hc]

theorem rotate_append {u : Text} (hu : 4 ≤ u.length) (w : Text) : rotate (u ++ w) = u.drop 4 ++ w ++ u.take 4 := by
  rw [rotate, List.drop_append_of_le_length hu, List.take_append_of_le_length hu]

/-- A place within a value is a place in reading order too, whether it is in the first four or in the body. -/
theorem exists_rotate_eq (u v : Text) : ∃ s t, ∀ c, rotate (u ++ c :: v) = s ++ [c] ++ t := by
  by_cases hu : 4 ≤ u.length
  · refine ⟨u.drop 4, v ++ u.take 4, fun c => ?_⟩
    simp [rotate_append hu]
  · -- The front ends `k` characters behind the place.
    obtain ⟨k, hk⟩ : ∃ k, 4 - u.length = k + 1 := ⟨3 - u.length, by omega⟩
    refine ⟨v.drop k ++ u, v.take k, fun c => ?_⟩
    rw [rotate, List.drop_append, List.take_append, hk, List.take_of_length_le (by omega),
      List.drop_of_length_le (by omega)]
    simp

theorem slice_append {u : Text} (hu : 4 ≤ u.length) (w : Text) : (u ++ w).slice 2 4 = u.slice 2 4 := by
  rw [Text.slice, Text.slice, List.take_append_of_le_length hu]

section
variable {u v : Text} {a b : Char}

/-- Numbers that differ in one character of a kind have different remainders, wherever it stands. -/
theorem number_misread_modEq_iff (ha : a.isAlphanum = true) (hb : b.isAlphanum = true) (hkind : SameKind a b) :
    number (u ++ a :: v) ≡ number (u ++ b :: v) [MOD 97] ↔ digitValue a = digitValue b := by
  obtain ⟨s, t, hrotate⟩ := exists_rotate_eq u v
  rw [number_modEq_iff (hrotate a) (hrotate b), toNat_flatMap_concat s ha, toNat_flatMap_concat s hb,
    extend_modEq_iff ha hb _ hkind]

/-- Within the body, the order of two neighbours does not matter for the remainder only if one of them is a letter with
eleven times the value of the other. -/
theorem number_exchanged_modEq_iff (hu : 4 ≤ u.length) (ha : a.isAlphanum = true) (hb : b.isAlphanum = true)
    (hne : digitValue a ≠ digitValue b) :
    number (u ++ b :: a :: v) ≡ number (u ++ a :: b :: v) [MOD 97] ↔ Elevenfold a b ∨ Elevenfold b a := by
  have hrotate (c d : Char) : rotate (u ++ c :: d :: v) = u.drop 4 ++ [c, d] ++ (v ++ u.take 4) := by
    simp [rotate_append hu]
  rw [number_modEq_iff (hrotate b a) (hrotate a b), toNat_flatMap_two _ hb ha, toNat_flatMap_two _ ha hb,
    extend_extend_modEq_iff ha hb _ hne]

/-- One character for another of its kind with another value is seen. -/
theorem validate_misread (h : validate (u ++ a :: v) = true) (hkind : SameKind a b)
    (hne : digitValue a ≠ digitValue b) : validate (u ++ b :: v) = false := by
  rw [Bool.eq_false_iff]
  intro hmisread
  obtain ⟨-, -, hall, hn⟩ := validate_iff_number.1 h
  obtain ⟨-, -, hall', hn'⟩ := validate_iff_number.1 hmisread
  have ha : a.isAlphanum = true := hall a (by simp)
  have hb : b.isAlphanum = true := hall' b (by simp)
  exact hne ((number_misread_modEq_iff ha hb hkind).1 (hn.trans hn'.symm))

/-- Everything but the number is right after neighbours of the body have changed places. -/
theorem validate_exchanged_iff_modEq (hu : 4 ≤ u.length) (h : validate (u ++ a :: b :: v) = true) :
    validate (u ++ b :: a :: v) = true ↔ number (u ++ b :: a :: v) ≡ number (u ++ a :: b :: v) [MOD 97] := by
  obtain ⟨hlen, hreserved, hall, hn⟩ := validate_iff_number.1 h
  rw [slice_append hu] at hreserved
  rw [validate_iff_number, slice_append hu, Nat.ModEq, hn]
  constructor
  · exact fun h => h.2.2.2
  · intro hremainder
    exact ⟨by simpa using hlen, hreserved, fun c hc => hall c (Text.mem_exchanged_iff.1 hc), hremainder⟩

/-- Neighbours of the body in the wrong order are seen unless one is a letter with eleven times the value of the other. -/
theorem validate_exchanged_iff (hu : 4 ≤ u.length) (h : validate (u ++ a :: b :: v) = true)
    (hne : digitValue a ≠ digitValue b) :
    validate (u ++ b :: a :: v) = true ↔ Elevenfold a b ∨ Elevenfold b a := by
  have hall := (validate_iff_number.1 h).2.2.1
  rw [validate_exchanged_iff_modEq hu h,
    number_exchanged_modEq_iff hu (hall a (by simp)) (hall b (by simp)) hne]

end

theorem toNat_toUpper_of_isAlpha {c : Char} (h : c.isAlpha = true) : c.toUpper.toNat = digitValue c + 55 := by
  rw [Text.isAlpha_iff, Text.isUpper_iff, Text.isLower_iff] at h
  have hd : ¬ c.isDigit = true := by
    rw [Text.isDigit_iff]
    omega
  rw [Text.toNat_toUpper, digitValue, if_neg hd]
  simp only [Text.isUpper_iff, Text.isLower_iff]
  split <;> split <;> omega

theorem elevenfold_iff_toUpper {a b : Char} : Elevenfold a b ↔
    a.toUpper.isUpper = true ∧ b.isDigit = true ∧ a.toUpper.toNat = 11 * (b.toNat - 48) + 55 := by
  rw [Elevenfold, Text.isUpper_toUpper_iff]
  refine and_congr_right fun ha => and_congr_right fun hb => ?_
  rw [toNat_toUpper_of_isAlpha ha, digitValue_of_isDigit hb]
  omega

/-- There are three such pairs, with letters of either case. -/
theorem elevenfold_iff_mem {a b : Char} :
    Elevenfold a b ↔ (a.toUpper, b) ∈ [('B', '1'), ('M', '2'), ('X', '3')] := by
  rw [elevenfold_iff_toUpper]
  simp only [List.mem_cons, Prod.mk.injEq, List.not_mem_nil, or_false]
  constructor
  · rintro ⟨hupper, hdigit, hvalue⟩
    rw [Text.isUpper_iff] at hupper
    rw [Text.isDigit_iff] at hdigit
    -- Eleven times the digit is the value of a letter, from 10 to 35.
    have hone : b.toNat = 49 ∨ b.toNat = 50 ∨ b.toNat = 51 := by omega
    simp only [← Char.toNat_inj]
    change _ = 66 ∧ _ = 49 ∨ _ = 77 ∧ _ = 50 ∨ _ = 88 ∧ _ = 51
    omega
  · rintro (⟨ha, rfl⟩ | ⟨ha, rfl⟩ | ⟨ha, rfl⟩) <;> rw [ha] <;> decide

section
variable {value : Text} {i : Nat} {a b : Char}

/-- In a value with correct check digits, whatever its length, no place holds a digit or letter that can be mistaken for
another of its kind without being seen: the country, the check digits and the body are guarded alike. -/
theorem misread_detected {c : Char} (h : validate value = true) (ha : value[i]? = some a) (hkind : SameKind a c)
    (hne : digitValue a ≠ digitValue c) : validate (value.set i c) = false := by
  rw [Text.eq_pieces_at ha] at h
  rw [Text.set_eq_pieces ha]
  exact validate_misread h hkind hne

/-- A letter of the country, a check digit and a letter of the body of a French value. -/
theorem misread_detected_fr :
    let value : Text := "FR1420041010050500013M02606"
    validate value = true ∧ value[1]? = some 'R' ∧ SameKind 'R' 'q' ∧ validate (value.set 1 'q') = false ∧
      value[2]? = some '1' ∧ SameKind '1' '8' ∧ validate (value.set 2 '8') = false ∧
      value[21]? = some 'M' ∧ SameKind 'M' 'B' ∧ validate (value.set 21 'B') = false := by
  intro value
  have h : validate value = true := by decide +kernel
  have hletter : SameKind 'R' 'q' := by decide
  have hdigit : SameKind '1' '8' := by decide
  have hbody : SameKind 'M' 'B' := by decide
  exact ⟨h, rfl, hletter, misread_detected h rfl hletter (by decide), rfl, hdigit,
    misread_detected h rfl hdigit (by decide), rfl, hbody, misread_detected h rfl hbody (by decide)⟩

/-- Two neighbours of the body with different values, in the wrong order, are seen unless one of them is a letter with
eleven times the value of the other, which leaves B and 1, M and 2, X and 3. -/
theorem exchange_detected_iff (h : validate value = true) (hbody : 4 ≤ i) (ha : value[i]? = some a)
    (hb : value[i + 1]? = some b) (hne : digitValue a ≠ digitValue b) :
    (validate (value.exchange i) = true ↔ Elevenfold a b ∨ Elevenfold b a) ∧
    ∀ c d, Elevenfold c d ↔ (c.toUpper, d) ∈ [('B', '1'), ('M', '2'), ('X', '3')] := by
  obtain ⟨hi, -⟩ := List.getElem?_eq_some_iff.1 ha
  have hfront : 4 ≤ (value.take i).length := by
    rw [List.length_take]
    omega
  refine ⟨?_, fun _ _ => elevenfold_iff_mem⟩
  rw [Text.eq_pieces_at_two ha hb] at h
  rw [Text.exchange_eq_pieces ha hb]
  exact validate_exchanged_iff hfront h hne

/-- A letter that changes places with the digit behind it is not seen here, but it is with the digit before it. -/
theorem exchange_detected_iff_fr :
    let value : Text := "FR1420041010050500013M20260"
    validate value = true ∧ value[21]? = some 'M' ∧ value[22]? = some '2' ∧ validate (value.exchange 21) = true ∧
      value[20]? = some '3' ∧ validate (value.exchange 20) = false := by
  intro value
  have h : validate value = true := by decide +kernel
  have hblind := (exchange_detected_iff (i := 21) (a := 'M') (b := '2') h (by decide) rfl rfl (by decide)).1
  have hseen := (exchange_detected_iff (i := 20) (a := '3') (b := 'M') h (by decide) rfl rfl (by decide)).1
  exact ⟨h, rfl, rfl, hblind.2 (by decide), rfl, Bool.eq_false_iff.2 (mt hseen.1 (by decide))⟩

end

end PaymentIdentifiers.CheckDigits
