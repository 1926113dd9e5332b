import PaymentIdentifiers.Luhn
import PaymentIdentifiers.Proofs.Text.Decimal
import PaymentIdentifiers.Proofs.Text.Slips

/-!
# Slips that the Luhn checksum detects

Doubling a digit and adding the digits of the double permutes the digits, so at every place of a number, doubled or not,
another digit changes the checksum modulo ten. Two neighbours carry one doubled and one plain digit; changing places
changes the sum as well, unless they are 0 and 9, which are the digits that doubling leaves as they are.
-/
namespace PaymentIdentifiers.Luhn

/-- What a digit adds to the total. -/
def weight (twice : Bool) (n : Nat) : Nat := if twice then doubled n else n

/-- The sum over the places counted from the right, every second one doubled. -/
def checksum (t : Text) : Nat := ((t.reverse.map digit).mapIdx fun i n => weight (i % 2 == 1) n).sum

theorem total_cons (twice : Bool) (n : Nat) (ns : List Nat) :
    total twice (n :: ns) = weight twice n + total (!twice) ns := rfl

theorem total_eq_sum (twice : Bool) (ns : List Nat) :
    total twice ns = (ns.mapIdx fun i n => weight (twice ^^ (i % 2 == 1)) n).sum := by
  induction ns generalizing twice with
  | nil => rfl
  | cons n ns ih =>
    -- The places of the rest are counted from one on, which turns their parity around.
    have hparity (i : Nat) : ((!twice) ^^ (i % 2 == 1)) = (twice ^^ ((i + 1) % 2 == 1)) := by
      rcases Nat.mod_two_eq_zero_or_one i with h | h <;> cases twice <;> simp [Nat.add_mod, h]
    rw [total_cons, List.mapIdx_cons, List.sum_cons, ih]
    simp [hparity]

theorem checksum_eq_total (t : Text) : checksum t = total false (t.reverse.map digit) := by
  simp [checksum, total_eq_sum]

theorem isValid_iff {t : Text} : isValid t = true ↔ t ≠ [] ∧ Text.AllDigits t ∧ 10 ∣ checksum t := by
  simp [isValid, checksum_eq_total, Text.AllDigits, and_assoc, Nat.dvd_iff_mod_eq_zero]

theorem digit_lt {c : Char} (h : c.isDigit = true) : digit c < 10 := by
  have := Text.isDigit_iff.1 h
  simp only [digit]
  omega

section
variable (twice : Bool) {m n : Nat}

theorem weight_lt (h : n < 10) : weight twice n < 10 := by
  unfold weight doubled
  split
  · split <;> omega
  · exact h

/-- Doubling is a permutation of the digits. -/
theorem weight_inj (hm : m < 10) (hn : n < 10) : weight twice m = weight twice n ↔ m = n := by
  cases twice with
  | false => rfl
  | true =>
    simp only [weight, doubled, if_true]
    split <;> split <;> omega

/-- Digits that may change places are those that doubling leaves as they are. -/
theorem weight_exchange_iff (hm : m < 10) (hn : n < 10) (hne : m ≠ n) :
    (weight twice m + weight (!twice) n) % 10 = (weight twice n + weight (!twice) m) % 10 ↔
      (m = 0 ∧ n = 9) ∨ (m = 9 ∧ n = 0) := by
  cases twice <;> simp only [weight, doubled, Bool.not_false, Bool.not_true, if_true, Bool.false_eq_true, if_false] <;>
    split <;> split <;> omega

end

/-- What stands at the end only decides whether the character before it is doubled. -/
theorem exists_checksum_append (t : Text) :
    ∃ base twice, ∀ s : Text, checksum (s ++ t) = base + total twice (s.reverse.map digit) := by
  have hreverse (s : Text) : checksum (s ++ t) = total false (t.reverse.map digit ++ s.reverse.map digit) := by
    rw [checksum_eq_total, List.reverse_append, List.map_append]
  exact ⟨_, _, fun s => (hreverse s).trans (total_append false _ _)⟩

theorem exists_checksum_eq (s t : Text) :
    ∃ rest twice, ∀ c, checksum (s ++ c :: t) = rest + weight twice (digit c) := by
  obtain ⟨base, twice, htail⟩ := exists_checksum_append t
  refine ⟨base + total (!twice) (s.reverse.map digit), twice, fun c => ?_⟩
  rw [List.append_cons, htail, List.reverse_concat, List.map_cons, total_cons]
  omega

theorem exists_checksum_eq_two (s t : Text) :
    ∃ rest twice, ∀ c d, checksum (s ++ c :: d :: t) = rest + (weight twice (digit d) + weight (!twice) (digit c)) := by
  obtain ⟨base, twice, htail⟩ := exists_checksum_append t
  refine ⟨base + total (!!twice) (s.reverse.map digit), twice, fun c d => ?_⟩
  rw [List.append_cons, List.append_cons, htail, List.reverse_concat, List.reverse_concat, List.map_cons, List.map_cons,
    total_cons, total_cons]
  omega

theorem checksum_concat (t : Text) (c : Char) : checksum (t ++ [c]) = digit c + total true (t.reverse.map digit) := by
  rw [checksum_eq_total, List.reverse_concat, List.map_cons, total_cons]
  rfl

theorem digit_eq_iff {c d : Char} (hc : c.isDigit = true) (hd : d.isDigit = true) : digit c = digit d ↔ c = d :=
  ⟨Text.digit_ext hc hd, congrArg digit⟩

/-- Every row of digits is completed by exactly one character, and it is a digit. -/
theorem exists_isValid_concat_iff {t : Text} (ht : Text.AllDigits t) :
    ∃ d : Char, d.isDigit = true ∧ ∀ c, isValid (t ++ [c]) = true ↔ c = d := by
  obtain ⟨n, hn, hsum⟩ : ∃ n < 10, ∀ m < 10, 10 ∣ m + total true (t.reverse.map digit) ↔ m = n :=
    ⟨(10 - total true (t.reverse.map digit) % 10) % 10, by omega, by omega⟩
  have hdigit : n.digitChar.isDigit = true := by rw [Nat.isDigit_digitChar, decide_eq_true hn]
  have hvalue : digit n.digitChar = n := by
    rw [digit, Nat.toNat_digitChar_of_lt_ten hn]
    omega
  refine ⟨n.digitChar, hdigit, fun c => ?_⟩
  rw [isValid_iff, checksum_concat, Text.allDigits_append]
  constructor
  · rintro ⟨-, ⟨-, hc⟩, hten⟩
    have hc : c.isDigit = true := hc c (List.mem_singleton_self c)
    exact (digit_eq_iff hc hdigit).1 (((hsum _ (digit_lt hc)).1 hten).trans hvalue.symm)
  · rintro rfl
    refine ⟨by simp, ⟨ht, fun d hd => ?_⟩, (hsum _ (digit_lt hdigit)).2 hvalue⟩
    rw [List.mem_singleton.1 hd, hdigit]

/-- Another character in the place of one of a valid number is seen, be it a digit or not. -/
theorem isValid_misread {s t : Text} {a c : Char} (h : isValid (s ++ a :: t) = true) (hne : c ≠ a) :
    isValid (s ++ c :: t) = false := by
  rw [Bool.eq_false_iff]
  intro hc
  obtain ⟨rest, twice, hsum⟩ := exists_checksum_eq s t
  obtain ⟨-, hdigits, hten⟩ := isValid_iff.1 h
  obtain ⟨-, hdigits', hten'⟩ := isValid_iff.1 hc
  have ha : a.isDigit = true := hdigits a (by simp)
  have hc : c.isDigit = true := hdigits' c (by simp)
  have hlt := weight_lt twice (digit_lt ha)
  have hlt' := weight_lt twice (digit_lt hc)
  -- Both checksums end in zero and have everything but this weight in common.
  rw [hsum] at hten hten'
  have hweight : weight twice (digit c) = weight twice (digit a) := by omega
  exact hne ((digit_eq_iff hc ha).1 ((weight_inj twice (digit_lt hc) (digit_lt ha)).1 hweight))

/-- Neighbours of a valid number in the wrong order are seen unless they are 0 and 9. -/
theorem isValid_exchanged_iff {s t : Text} {a b : Char} (h : isValid (s ++ a :: b :: t) = true) (hne : a ≠ b) :
    isValid (s ++ b :: a :: t) = true ↔ (a = '0' ∧ b = '9') ∨ (a = '9' ∧ b = '0') := by
  obtain ⟨rest, twice, hsum⟩ := exists_checksum_eq_two s t
  obtain ⟨-, hdigits, hten⟩ := isValid_iff.1 h
  have ha : a.isDigit = true := hdigits a (by simp)
  have hb : b.isDigit = true := hdigits b (by simp)
  have hdigits' : Text.AllDigits (s ++ b :: a :: t) := fun c hc => hdigits c (Text.mem_exchanged_iff.1 hc)
  have hvalid : isValid (s ++ b :: a :: t) = true ↔ 10 ∣ checksum (s ++ b :: a :: t) := by
    rw [isValid_iff]
    exact ⟨fun h => h.2.2, fun h => ⟨by simp, hdigits', h⟩⟩
  have hzero {c : Char} (hc : c.isDigit = true) : digit c = 0 ↔ c = '0' := digit_eq_iff (d := '0') hc rfl
  have hnine {c : Char} (hc : c.isDigit = true) : digit c = 9 ↔ c = '9' := digit_eq_iff (d := '9') hc rfl
  have hexchange := weight_exchange_iff twice (digit_lt ha) (digit_lt hb) (mt (digit_eq_iff ha hb).1 hne)
  rw [hzero ha, hzero hb, hnine ha, hnine hb] at hexchange
  rw [hvalid, ← hexchange, hsum]
  rw [hsum] at hten
  omega

/-- The checksum detects slips. Every row of digits has one check digit. In a number that passes, another character at
any place is seen, and so are neighbours in the wrong order, except for 0 and 9, which are never seen. Nothing passes but
rows of digits. -/
theorem slips_detected (t : Text) :
    (Text.AllDigits t → ∃ d : Char, d.isDigit = true ∧ ∀ c, isValid (t ++ [c]) = true ↔ c = d) ∧
    (isValid t = true →
      (∀ i a c, t[i]? = some a → c ≠ a → isValid (t.set i c) = false) ∧
      ∀ i a b, t[i]? = some a → t[i + 1]? = some b → a ≠ b →
        (isValid (t.exchange i) = true ↔ (a = '0' ∧ b = '9') ∨ (a = '9' ∧ b = '0'))) ∧
    (t = [] ∨ (∃ c ∈ t, c.isDigit = false) → isValid t = false) := by
  refine ⟨exists_isValid_concat_iff, fun h => ⟨fun i a c ha hne => ?_, fun i a b ha hb hne => ?_⟩, fun h => ?_⟩
  · rw [Text.eq_pieces_at ha] at h
    rw [Text.set_eq_pieces ha]
    exact isValid_misread h hne
  · rw [Text.eq_pieces_at_two ha hb] at h
    rw [Text.exchange_eq_pieces ha hb]
    exact isValid_exchanged_iff h hne
  · rw [Bool.eq_false_iff, ne_eq, isValid_iff]
    rintro ⟨hne, hdigits, -⟩
    rcases h with hnil | ⟨c, hc, hforeign⟩
    · exact hne hnil
    · simp [hdigits c hc] at hforeign

/-- A number with 0 and 9 side by side, and without its last digit. -/
theorem slips_detected_visa :
    let number : Text := "4090000000001233"
    let front : Text := "409000000000123"
    Text.AllDigits front ∧ (∃ d : Char, d.isDigit = true ∧ ∀ c, isValid (front ++ [c]) = true ↔ c = d) ∧
      isValid number = true ∧ number[3]? = some '0' ∧ isValid (number.set 3 '7') = false ∧
      number[1]? = some '0' ∧ number[2]? = some '9' ∧ isValid (number.exchange 1) = true ∧
      number[12]? = some '1' ∧ number[13]? = some '2' ∧ isValid (number.exchange 12) = false ∧
      isValid (number ++ [' ']) = false := by
  intro number front
  have hfront : Text.AllDigits front := by decide
  have hvalid : isValid number = true := by decide
  obtain ⟨hmisread, hexchange⟩ := (slips_detected number).2.1 hvalid
  have hblind := (hexchange 1 '0' '9' rfl rfl (by decide)).2 (.inl ⟨rfl, rfl⟩)
  have hseen : ¬ isValid (number.exchange 12) = true := by
    rw [hexchange 12 '1' '2' rfl rfl (by decide)]
    decide
  exact ⟨hfront, (slips_detected front).1 hfront, hvalid, rfl, hmisread 3 '0' '7' rfl (by decide), rfl, rfl, hblind,
    rfl, rfl, Bool.eq_false_iff.2 hseen, (slips_detected _).2.2 (.inr ⟨' ', by decide, by decide⟩)⟩

end PaymentIdentifiers.Luhn
