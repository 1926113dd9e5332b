import PaymentIdentifiers.Proofs.Text.Canonical
import PaymentIdentifiers.Text.Basic

/-!
# Shapes of texts

A shape tests the first characters one by one and all others alike. What all its tests ask for holds of every character,
and behind the tested beginning a text can be continued. Letters and digits are still so in upper case.
-/
namespace PaymentIdentifiers.Text

theorem forall_mem_of_fits {P : Char → Prop} {rest : Char → Bool} {tests : List (Char → Bool)} {t : Text}
    (htests : ∀ test ∈ tests, ∀ c, test c = true → P c) (hrest : ∀ c, rest c = true → P c)
    (h : fits rest tests t = true) : ∀ c ∈ t, P c := by
  induction tests generalizing t with
  | nil => exact fun c hc => hrest c (List.all_eq_true.1 h c hc)
  | cons test tests ih =>
    cases t with
    | nil => simp
    | cons d t =>
      rw [fits, Bool.and_eq_true] at h
      intro c hc
      rcases List.mem_cons.1 hc with rfl | hc
      · exact htests test (by simp) _ h.1
      · exact ih (fun test' hmem => htests test' (by simp [hmem])) h.2 c hc

/-- A text that is as long as the tests may go on with what passes the last test. -/
theorem fits_append_iff {rest : Char → Bool} {tests : List (Char → Bool)} {s : Text}
    (hlen : tests.length ≤ s.length) (t : Text) :
    fits rest tests (s ++ t) = true ↔ fits rest tests s = true ∧ ∀ c ∈ t, rest c = true := by
  induction tests generalizing s with
  | nil => simp [fits]
  | cons test tests ih =>
    cases s with
    | nil => simp at hlen
    | cons c s =>
      rw [List.length_cons, List.length_cons, Nat.succ_le_succ_iff] at hlen
      rw [List.cons_append, fits, fits, Bool.and_eq_true, Bool.and_eq_true, ih hlen, and_assoc]

/-- One test for a number of characters at the beginning, and the other tests behind them. -/
theorem fits_replicate_append_iff {rest test : Char → Bool} {n : Nat} (tests : List (Char → Bool)) {t : Text} :
    fits rest (List.replicate n test ++ tests) t = true ↔
      n ≤ t.length ∧ (∀ c ∈ t.take n, test c = true) ∧ fits rest tests (t.drop n) = true := by
  induction n generalizing t with
  | zero => simp
  | succ n ih =>
    cases t with
    | nil => simp [List.replicate_succ, fits]
    | cons c t =>
      rw [List.replicate_succ, List.cons_append, fits, Bool.and_eq_true, ih, List.take_succ_cons, List.drop_succ_cons,
        List.forall_mem_cons, List.length_cons, Nat.succ_le_succ_iff]
      tauto

/-- One test for a number of characters at the beginning, and another one for the rest. -/
theorem fits_replicate_iff {rest test : Char → Bool} {n : Nat} {t : Text} :
    fits rest (List.replicate n test) t = true ↔
      n ≤ t.length ∧ (∀ c ∈ t.take n, test c = true) ∧ ∀ c ∈ t.drop n, rest c = true := by
  rw [← List.append_nil (List.replicate n test), fits_replicate_append_iff, fits, List.all_eq_true]

theorem isAlphanum_of_isAlpha {c : Char} (h : c.isAlpha = true) : c.isAlphanum = true := by
  simp [Char.isAlphanum, h]

theorem isAlpha_toUpper_iff {c : Char} : c.toUpper.isAlpha = true ↔ c.isAlpha = true := by
  rw [isAlpha_iff, isLower_toUpper, isUpper_toUpper_iff]
  simp

/-- Tests that pass a letter in one case if they pass it in the other. -/
def CaseBlind (test : Char → Bool) : Prop := ∀ c : Char, test c.toUpper = test c

theorem caseBlind_isAlpha : CaseBlind Char.isAlpha := fun _ => Bool.eq_iff_iff.2 isAlpha_toUpper_iff

theorem caseBlind_isDigit : CaseBlind Char.isDigit := by
  intro c
  apply Bool.eq_iff_iff.2
  rw [isDigit_iff, isDigit_iff, toNat_toUpper]
  split
  · rename_i hl
    have := isLower_iff.1 hl
    omega
  · rfl

theorem caseBlind_isAlphanum : CaseBlind Char.isAlphanum := fun c => by
  rw [Char.isAlphanum, caseBlind_isAlpha c, caseBlind_isDigit c, Char.isAlphanum]

theorem isAlphanum_toUpper {c : Char} (h : c.isAlphanum = true) : c.toUpper.isAlphanum = true :=
  (caseBlind_isAlphanum c).trans h

theorem fits_asciiUpper {rest : Char → Bool} {tests : List (Char → Bool)} (hrest : CaseBlind rest)
    (htests : ∀ test ∈ tests, CaseBlind test) (t : Text) : fits rest tests (asciiUpper t) = fits rest tests t := by
  induction tests generalizing t with
  | nil =>
    rw [fits, fits, asciiUpper, List.all_map]
    exact congrArg t.all (funext hrest)
  | cons test tests ih =>
    obtain ⟨htest, htests⟩ := List.forall_mem_cons.1 htests
    cases t with
    | nil => rfl
    | cons c t =>
      have ht := ih htests t
      rw [asciiUpper] at ht
      rw [asciiUpper, List.map_cons, fits, fits, htest c, ht]

section
variable (c : Char)

def digitRanges : List (Nat × Nat) := [(48, 57)]

theorem inRanges_digitRanges : inRanges digitRanges c = c.isDigit := by
  apply Bool.eq_iff_iff.2
  simp [inRanges, digitRanges, isDigit_iff]

def upperRanges : List (Nat × Nat) := [(65, 90)]

theorem inRanges_upperRanges : inRanges upperRanges c = c.isUpper := by
  apply Bool.eq_iff_iff.2
  simp [inRanges, upperRanges, isUpper_iff]

def letterRanges : List (Nat × Nat) := [(65, 90), (97, 122)]

theorem inRanges_letterRanges : inRanges letterRanges c = c.isAlpha := by
  apply Bool.eq_iff_iff.2
  simp [inRanges, letterRanges, isAlpha_iff, isUpper_iff, isLower_iff]

/-- Upper-case letters, lower-case letters and digits, in the order in which sets list them. -/
def alphanumericRanges : List (Nat × Nat) := [(65, 90), (97, 122), (48, 57)]

theorem inRanges_alphanumericRanges : inRanges alphanumericRanges c = c.isAlphanum := by
  apply Bool.eq_iff_iff.2
  simp [inRanges, alphanumericRanges, isAlphanum_iff]

end

/-- A text of letters and digits of either case. -/
def AllAlphanum (t : Text) : Prop := ∀ c ∈ t, c.isAlphanum = true

instance (t : Text) : Decidable (AllAlphanum t) := decidable_of_iff (t.all Char.isAlphanum = true) List.all_eq_true

theorem isLower_of_mem_asciiUpper {t : Text} {c : Char} (h : c ∈ asciiUpper t) : c.isLower = false := by
  obtain ⟨d, -, rfl⟩ := List.mem_map.1 h
  exact isLower_toUpper d

theorem AllAlphanum.isUpperOrDigit_asciiUpper {t : Text} (h : AllAlphanum (asciiUpper t)) :
    ∀ c ∈ asciiUpper t, isUpperOrDigit c = true := fun c hc =>
  isUpperOrDigit_of_isAlphanum (h c hc) (isLower_of_mem_asciiUpper hc)

theorem AllAlphanum.canonical_eq {t : Text} (h : AllAlphanum t) : canonical t = asciiUpper t := by
  have hblanks : deleteBlanks t = t := List.filter_eq_self.2 fun c hc => by simp [isBlank_of_isAlphanum (h c hc)]
  rw [canonical, hblanks]

end PaymentIdentifiers.Text
