import PaymentIdentifiers.Proofs.CheckDigits.Number

/-!
# The number of a value in one pass

A value is read character by character, and the first character that is no letter or digit ends the reading. The total is
reduced only where it has passed nine digits, so it fits into a machine word at every step, however long the value is,
and at the end it has the remainder of the whole number.
-/
namespace PaymentIdentifiers.CheckDigits

/-- Reads one character into the total. -/
def consume (total : Nat) (c : Char) : Except Fault Nat :=
  if c.isAlphanum then .ok (absorb total c) else .error (.notAlphanumeric c)

/-- The remainder of a value, or the first character that has no place in its number. -/
def modulus (value : Text) : Except Fault Nat := ((rotate value).foldlM consume 0).map (· % 97)

theorem consume_of_isAlphanum {c : Char} (h : c.isAlphanum = true) (total : Nat) :
    consume total c = .ok (absorb total c) := if_pos h

theorem consume_of_foreign {c : Char} (h : c.isAlphanum = false) (total : Nat) :
    consume total c = .error (.notAlphanumeric c) := if_neg (by simp [h])

/-- Letters and digits are read to the end. -/
theorem foldlM_consume_of_isAlphanum {t : Text} (h : ∀ c ∈ t, c.isAlphanum = true) (total : Nat) :
    t.foldlM consume total = .ok (t.foldl absorb total) := by
  induction t generalizing total with
  | nil => rfl
  | cons c t ih =>
    rw [List.foldlM_cons, consume_of_isAlphanum (h c (by simp))]
    exact ih (fun d hd => h d (by simp [hd])) _

/-- Behind letters and digits, a foreign character ends the reading. -/
theorem foldlM_consume_of_foreign {s t : Text} {c : Char} (hs : ∀ d ∈ s, d.isAlphanum = true)
    (hc : c.isAlphanum = false) (total : Nat) :
    (s ++ c :: t).foldlM consume total = .error (.notAlphanumeric c) := by
  rw [List.foldlM_append, foldlM_consume_of_isAlphanum hs]
  change ((c :: t).foldlM consume (s.foldl absorb total)) = _
  rw [List.foldlM_cons, consume_of_foreign hc]
  rfl

theorem modulus_of_isAlphanum {value : Text} (h : ∀ c ∈ value, c.isAlphanum = true) :
    modulus value = .ok (remainder value) := by
  rw [modulus, foldlM_consume_of_isAlphanum fun c hc => h c (mem_rotate.1 hc)]
  rfl

/-- The reading fails at the character that stands first in reading order. -/
theorem modulus_of_foreign? {value : Text} {c : Char} (h : foreign? value = some c) :
    modulus value = .error (.notAlphanumeric c) := by
  obtain ⟨hc, s, t, hst, hs⟩ := List.find?_eq_some_iff_append.1 h
  simp only [Bool.not_eq_true'] at hc
  rw [modulus, hst, foldlM_consume_of_foreign (fun d hd => by simpa using hs d hd) hc]
  rfl

theorem modulus_eq (value : Text) : modulus value =
    match foreign? value with
    | some c => .error (.notAlphanumeric c)
    | none => .ok (remainder value) := by
  cases h : foreign? value with
  | some c => exact modulus_of_foreign? h
  | none => exact modulus_of_isAlphanum (foreign?_eq_none_iff.1 h)

/-- Check digits are computed by this reading, -/
theorem calculate_eq_modulus (value : Text) : calculate value =
    if value.length ≤ 4 then .error .tooShort
    else (modulus (blankOut value)).map fun m => twoDigits (98 - m) := by
  rw [calculate, modulus_eq]
  cases foreign? (blankOut value) <;> rfl

/-- and verified by it. -/
theorem validate_iff_modulus (value : Text) : validate value = true ↔
    4 < value.length ∧ value.slice 2 4 ∉ reserved ∧ modulus value = .ok 1 := by
  rw [modulus_eq, validate]
  cases foreign? value <;> simp [and_assoc]

/-- A step adds at most two digits to a total of nine. -/
theorem extend_le {total : Nat} {c : Char} (h : total ≤ maxTotal) (hc : c.isAlphanum = true) :
    extend total c ≤ 99999999935 := by
  have hv := digitValue_lt hc
  simp only [maxTotal] at h
  unfold extend
  split <;> omega

/-- The total has nine digits at most after every step. -/
theorem le_of_foldlM_consume {t : Text} {start total : Nat} (hstart : start ≤ maxTotal)
    (h : t.foldlM consume start = .ok total) : total ≤ maxTotal := by
  induction t generalizing start with
  | nil =>
    obtain rfl := Except.ok.inj h
    exact hstart
  | cons c t ih =>
    rw [List.foldlM_cons] at h
    cases hc : c.isAlphanum with
    | true =>
      rw [consume_of_isAlphanum hc] at h
      exact ih (absorb_le start c) h
    | false =>
      rw [consume_of_foreign hc] at h
      cases h

/-- The reading is exact and bounded. For letters and digits of any number it gives the remainder of the number that they
spell out, and no total on the way leaves a signed word of 64 bits, even before it is reduced. At any other character
the reading fails. Both the check digits and their verification come from this reading. -/
theorem modulus_exact_bounded (value : Text) :
    ((∀ c ∈ value, c.isAlphanum = true) → modulus value = .ok (number value % 97)) ∧
    (∀ s c total, s ++ [c] <+: rotate value → s.foldlM consume 0 = .ok total → c.isAlphanum = true →
      extend total c ≤ 99999999935 ∧ extend total c < 2 ^ 63) ∧
    ((∃ c ∈ value, c.isAlphanum = false) →
      ∃ s c t, rotate value = s ++ c :: t ∧ (∀ d ∈ s, d.isAlphanum = true) ∧ c.isAlphanum = false ∧
        modulus value = .error (.notAlphanumeric c)) ∧
    (calculate value = if value.length ≤ 4 then .error .tooShort
      else (modulus (blankOut value)).map fun m => twoDigits (98 - m)) ∧
    (validate value = true ↔ 4 < value.length ∧ value.slice 2 4 ∉ reserved ∧ modulus value = .ok 1) := by
  refine ⟨fun h => ?_, fun s c total _ hs hc => ?_, fun ⟨d, hd, hforeign⟩ => ?_, calculate_eq_modulus value,
    validate_iff_modulus value⟩
  · rw [modulus_of_isAlphanum h, remainder_eq_number_mod h]
  · have hbound := extend_le (le_of_foldlM_consume (Nat.zero_le _) hs) hc
    exact ⟨hbound, by omega⟩
  · cases hf : foreign? value with
    | none => simp [foreign?_eq_none_iff.1 hf d hd] at hforeign
    | some c =>
      obtain ⟨hc, s, t, hst, hs⟩ := List.find?_eq_some_iff_append.1 hf
      exact ⟨s, c, t, hst, fun x hx => by simpa using hs x hx, by simpa using hc, modulus_of_foreign? hf⟩

/-- The largest total of all comes up behind nine nines, and the same value with an umlaut in it is not read. -/
theorem modulus_exact_bounded_nines :
    let value : Text := "DE00999999999Z"
    let other : Text := "DE00999999999Ü"
    (∀ c ∈ value, c.isAlphanum = true) ∧ number value = 99999999935131400 ∧
      modulus value = .ok (99999999935131400 % 97) ∧
      "999999999".toList ++ ['Z'] <+: rotate value ∧ "999999999".toList.foldlM consume 0 = .ok 999999999 ∧
      extend 999999999 'Z' = 99999999935 ∧ extend 999999999 'Z' < 2 ^ 63 ∧
      'Ü' ∈ other ∧ ∃ c, modulus other = .error (.notAlphanumeric c) := by
  intro value other
  have hall : ∀ c ∈ value, c.isAlphanum = true := List.all_eq_true.1 (by decide)
  have hnumber : number value = 99999999935131400 := by decide +kernel
  have hprefix : "999999999".toList ++ ['Z'] <+: rotate value := by decide
  have htotal : "999999999".toList.foldlM consume 0 = .ok 999999999 := by decide +kernel
  have hmem : 'Ü' ∈ other := by decide
  obtain ⟨hexact, hbounded, -⟩ := modulus_exact_bounded value
  obtain ⟨-, -, hforeign, -⟩ := modulus_exact_bounded other
  obtain ⟨-, c, -, -, -, -, hc⟩ := hforeign ⟨'Ü', hmem, by decide⟩
  exact ⟨hall, hnumber, hnumber ▸ hexact hall, hprefix, htotal, by decide,
    (hbounded _ _ _ hprefix htotal (by decide)).2, hmem, c, hc⟩

end PaymentIdentifiers.CheckDigits
