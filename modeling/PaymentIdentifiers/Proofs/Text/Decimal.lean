import PaymentIdentifiers.Text.Basic
import Mathlib.Tactic.Ring

/-!
# Decimal notation and its numbers

Reading appends digit by digit, so the number of a concatenation splits at any place. A text of decimal digits
is fixed by its length and its number, and the notation of a number reads back as that number.
-/
namespace PaymentIdentifiers.Text

/-- All characters are decimal digits. -/
def AllDigits (t : Text) : Prop := ∀ c ∈ t, c.isDigit = true

instance (t : Text) : Decidable (AllDigits t) := decidable_of_iff (t.all Char.isDigit = true) List.all_eq_true

theorem allDigits_append {s t : Text} : AllDigits (s ++ t) ↔ AllDigits s ∧ AllDigits t := by
  simp only [AllDigits, List.mem_append, or_imp, forall_and]

theorem toNat_eq_ofDigitChars (t : Text) : toNat t = Nat.ofDigitChars 10 t 0 := by
  rw [Nat.ofDigitChars_eq_foldl]
  rfl

@[simp] theorem toNat_ofNat (n : Nat) : toNat (ofNat n) = n := by
  rw [toNat_eq_ofDigitChars, ofNat, Nat.ofDigitChars_ten_toDigits]

theorem toNat_append (s t : Text) : toNat (s ++ t) = toNat s * 10 ^ t.length + toNat t := by
  simp only [toNat_eq_ofDigitChars]
  rw [Nat.ofDigitChars_append, Nat.ofDigitChars_eq_ofDigitChars_zero, Nat.mul_comm]

@[simp] theorem toNat_singleton (c : Char) : toNat [c] = c.toNat - 48 := by
  simp [toNat]

theorem toNat_cons (c : Char) (t : Text) : toNat (c :: t) = (c.toNat - 48) * 10 ^ t.length + toNat t := by
  have h := toNat_append [c] t
  rwa [toNat_singleton] at h

theorem toNat_lt {t : Text} (h : AllDigits t) : toNat t < 10 ^ t.length := by
  induction t with
  | nil => simp [toNat]
  | cons c t ih =>
    have hc := isDigit_iff.1 (h c (by simp))
    have ht := ih fun d hd => h d (by simp [hd])
    have hv : (c.toNat - 48) * 10 ^ t.length ≤ 9 * 10 ^ t.length := Nat.mul_le_mul_right _ (by omega)
    rw [toNat_cons, List.length_cons, Nat.pow_succ]
    omega

theorem digit_ext {c d : Char} (hc : c.isDigit = true) (hd : d.isDigit = true)
    (h : c.toNat - 48 = d.toNat - 48) : c = d := by
  have := isDigit_iff.1 hc
  have := isDigit_iff.1 hd
  exact Char.toNat_inj.1 (by omega)

/-- Digits of one length that denote the same number are the same text. -/
theorem eq_of_toNat_eq {s t : Text} (hs : AllDigits s) (ht : AllDigits t) (hl : s.length = t.length)
    (h : toNat s = toNat t) : s = t := by
  induction s generalizing t with
  | nil => exact (List.length_eq_zero_iff.1 hl.symm).symm
  | cons c s ih =>
    cases t with
    | nil => simp at hl
    | cons d t =>
      have hs' : AllDigits s := fun x hx => hs x (by simp [hx])
      have ht' : AllDigits t := fun x hx => ht x (by simp [hx])
      have hl' : s.length = t.length := by simpa using hl
      have hn := toNat_lt hs'
      have hm := toNat_lt ht'
      rw [toNat_cons, toNat_cons, hl'] at h
      rw [hl'] at hn
      have hdiv (a r : Nat) (hr : r < 10 ^ t.length) : (a * 10 ^ t.length + r) / 10 ^ t.length = a := by
        rw [Nat.add_comm, Nat.add_mul_div_right _ _ (Nat.pow_pos (by decide)), Nat.div_eq_of_lt hr, Nat.zero_add]
      have hlead : c.toNat - 48 = d.toNat - 48 := by
        rw [← hdiv (c.toNat - 48) _ hn, h, hdiv _ _ hm]
      have hc : c = d := digit_ext (hs c (by simp)) (ht d (by simp)) hlead
      have htail : toNat s = toNat t := by
        rw [hlead] at h
        omega
      rw [hc, ih hs' ht' hl' htail]

theorem allDigits_ofNat (n : Nat) : AllDigits (ofNat n) := fun _ hc =>
  Nat.isDigit_of_mem_toDigits (by decide) (by decide) hc

theorem length_ofNat_pos (n : Nat) : 0 < (ofNat n).length := Nat.length_toDigits_pos

theorem length_ofNat_le {n k : Nat} (hk : 0 < k) (h : n < 10 ^ k) : (ofNat n).length ≤ k :=
  (Nat.length_toDigits_le_iff (by decide) hk).2 h

theorem length_ofNat_of_lt_hundred {n : Nat} (hl : 10 ≤ n) (hu : n < 100) : (ofNat n).length = 2 := by
  have h2 := length_ofNat_le (n := n) (k := 2) (by decide) (by omega)
  have h1 : ¬ (ofNat n).length ≤ 1 := fun h =>
    absurd ((Nat.length_toDigits_le_iff (b := 10) (by decide) (by decide)).1 h) (by omega)
  omega

/-- Two decimal digits. -/
def DigitPair (e : Text) : Prop := e.length = 2 ∧ AllDigits e

instance (e : Text) : Decidable (DigitPair e) := inferInstanceAs (Decidable (_ ∧ _))

theorem DigitPair.toNat_lt_hundred {e : Text} (h : DigitPair e) : toNat e < 100 := by
  have := toNat_lt h.2
  rwa [h.1] at this

theorem DigitPair.eq_of_toNat {d e : Text} (hd : DigitPair d) (he : DigitPair e) (h : toNat d = toNat e) : d = e :=
  eq_of_toNat_eq hd.2 he.2 (hd.1.trans he.1.symm) h

end PaymentIdentifiers.Text
