import PaymentIdentifiers.Country
import PaymentIdentifiers.Text.Basic
import Mathlib.Data.List.Basic

/-!
# Canonical texts

A canonical text has no blank and no lower-case ASCII letter, and such a text is its own canonical form. What
canonical texts have of letters and digits are upper-case letters and digits.
-/
namespace PaymentIdentifiers
namespace Text

theorem toNat_toUpper (c : Char) : c.toUpper.toNat = if c.isLower then c.toNat - 32 else c.toNat := by
  have hbounds : ('a'.val ≤ c.val ∧ c.val ≤ 'z'.val) ↔ c.isLower = true := by
    rw [isLower_iff]
    exact Iff.rfl
  unfold Char.toUpper
  by_cases h : c.isLower = true
  · have hc := isLower_iff.1 h
    rw [dif_pos (hbounds.2 h), if_pos h]
    change (c.val + ('A'.val - 'a'.val)).toNat = c.val.toNat - 32
    change 97 ≤ c.val.toNat ∧ c.val.toNat ≤ 122 at hc
    rw [UInt32.toNat_add, show ('A'.val - 'a'.val).toNat = 2 ^ 32 - 32 by decide]
    omega
  · rw [dif_neg fun hb => h (hbounds.1 hb), if_neg h]

theorem toUpper_of_not_isLower {c : Char} (h : c.isLower = false) : c.toUpper = c := by
  apply Char.toNat_inj.1
  rw [toNat_toUpper, if_neg (by simp [h])]

theorem isUpper_toUpper_iff {c : Char} : c.toUpper.isUpper = true ↔ c.isAlpha = true := by
  rw [isAlpha_iff, isUpper_iff, isUpper_iff, isLower_iff, toNat_toUpper]
  simp only [isLower_iff]
  split <;> omega

theorem isLower_toUpper (c : Char) : c.toUpper.isLower = false := by
  rw [Bool.eq_false_iff, ne_eq, isLower_iff, toNat_toUpper]
  split
  · rename_i h
    have := isLower_iff.1 h
    omega
  · rename_i h
    rwa [isLower_iff] at h

theorem isBlank_of_isAlphanum {c : Char} (h : c.isAlphanum = true) : isBlank c = false := by
  rw [isAlphanum_iff] at h
  rw [Bool.eq_false_iff, ne_eq]
  simp only [isBlank, Bool.or_eq_true, Bool.and_eq_true, decide_eq_true_eq, beq_iff_eq]
  omega

theorem isBlank_toUpper {c : Char} (h : isBlank c = false) : isBlank c.toUpper = false := by
  by_cases hl : c.isLower = true
  · have hc := isLower_iff.1 hl
    apply isBlank_of_isAlphanum
    rw [isAlphanum_iff, toNat_toUpper, if_pos hl]
    omega
  · rwa [toUpper_of_not_isLower (by simpa using hl)]

/-- No blank and no lower-case letter. -/
def IsCanonical (t : Text) : Prop := ∀ c ∈ t, isBlank c = false ∧ c.isLower = false

theorem isCanonical_canonical (t : Text) : IsCanonical (canonical t) := by
  intro c hc
  obtain ⟨d, hd, rfl⟩ := List.mem_map.1 hc
  have hb : isBlank d = false := by simpa using (List.mem_filter.1 hd).2
  exact ⟨isBlank_toUpper hb, isLower_toUpper d⟩

theorem IsCanonical.asciiUpper_eq {t : Text} (h : IsCanonical t) : asciiUpper t = t := by
  have hid : t.map Char.toUpper = t.map id := List.map_congr_left fun c hc => toUpper_of_not_isLower (h c hc).2
  rw [asciiUpper, hid, List.map_id]

theorem IsCanonical.canonical_eq {t : Text} (h : IsCanonical t) : canonical t = t := by
  have hd : deleteBlanks t = t := List.filter_eq_self.2 fun c hc => by simp [(h c hc).1]
  rw [canonical, hd, h.asciiUpper_eq]

theorem IsCanonical.take {t : Text} (h : IsCanonical t) (n : Nat) : IsCanonical (t.take n) := fun c hc =>
  h c (List.mem_of_mem_take hc)

theorem IsCanonical.drop {t : Text} (h : IsCanonical t) (n : Nat) : IsCanonical (t.drop n) := fun c hc =>
  h c (List.mem_of_mem_drop hc)

theorem isCanonical_of_upperOrDigit {t : Text} (h : ∀ c ∈ t, isUpperOrDigit c = true) : IsCanonical t := by
  intro c hc
  have hc' := h c hc
  simp only [isUpperOrDigit, Bool.or_eq_true] at hc'
  rw [Bool.eq_false_iff (b := c.isLower), ne_eq, isLower_iff]
  rcases hc' with hu | hd
  · have := isUpper_iff.1 hu
    exact ⟨isBlank_of_isAlphanum (isAlphanum_of_isUpper hu), by omega⟩
  · have := isDigit_iff.1 hd
    exact ⟨isBlank_of_isAlphanum (isAlphanum_of_isDigit hd), by omega⟩

theorem isUpperOrDigit_of_isAlphanum {c : Char} (ha : c.isAlphanum = true) (hl : c.isLower = false) :
    isUpperOrDigit c = true := by
  rw [isAlphanum_iff] at ha
  rw [Bool.eq_false_iff, ne_eq, isLower_iff] at hl
  simp only [isUpperOrDigit, Bool.or_eq_true, isUpper_iff, isDigit_iff]
  omega

theorem isAlphanum_of_isUpperOrDigit {c : Char} (h : isUpperOrDigit c = true) : c.isAlphanum = true := by
  simp only [isUpperOrDigit, Bool.or_eq_true] at h
  exact h.elim isAlphanum_of_isUpper isAlphanum_of_isDigit

theorem IsCanonical.trimStart_eq {t : Text} (h : IsCanonical t) : trimStart t = t := by
  cases t with
  | nil => rfl
  | cons c t => simp [trimStart, (h c (by simp)).1]

theorem IsCanonical.trim_eq {t : Text} (h : IsCanonical t) : trim t = t := by
  have hrev : IsCanonical t.reverse := fun c hc => h c (List.mem_reverse.1 hc)
  rw [trim, h.trimStart_eq, hrev.trimStart_eq, List.reverse_reverse]

theorem isBlank_of_trimStart {t s : Text} {c : Char} (h : trimStart t = c :: s) : isBlank c = false := by
  have hhead := List.head?_dropWhile_not isBlank t
  rw [trimStart] at h
  rw [h] at hhead
  simpa using hhead

/-- Both characters of a trimmed text of length two are no blanks. -/
theorem isBlank_of_trim_eq {t : Text} {a b : Char} (h : trim t = [a, b]) : isBlank a = false ∧ isBlank b = false := by
  have hrev : trimStart (trimStart t).reverse = [b, a] := by
    rw [trim] at h
    simpa using congrArg List.reverse h
  have hsuffix : [b, a] <:+ (trimStart t).reverse := hrev ▸ List.dropWhile_suffix isBlank
  obtain ⟨pre, hpre⟩ := hsuffix
  have hfront : trimStart t = a :: b :: pre.reverse := by
    simpa using (congrArg List.reverse hpre).symm
  exact ⟨isBlank_of_trimStart hfront, isBlank_of_trimStart hrev⟩

end Text

namespace Country

/-- A code of the table is two upper-case letters. -/
theorem isUpper_of_mem_codes {code : Text} (h : code ∈ codes) :
    ∃ a b, code = [a, b] ∧ a.isUpper = true ∧ b.isUpper = true := by
  have hall : codes.all (fun code => code.all Char.isUpper) = true := by decide +kernel
  have hup := List.all_eq_true.1 (List.all_eq_true.1 hall code h)
  obtain ⟨a, b, rfl⟩ := List.length_eq_two.1 (length_of_mem_codes h)
  exact ⟨a, b, rfl, hup a (by simp), hup b (by simp)⟩

theorem isUpper_of_mem {code : Text} (h : code ∈ codes) {c : Char} (hc : c ∈ code) : c.isUpper = true := by
  obtain ⟨a, b, rfl, ha, hb⟩ := isUpper_of_mem_codes h
  simp only [List.mem_cons, List.not_mem_nil, or_false] at hc
  rcases hc with rfl | rfl <;> assumption

theorem isCanonical_of_mem_codes {code : Text} (h : code ∈ codes) : Text.IsCanonical code := by
  apply Text.isCanonical_of_upperOrDigit
  intro c hc
  simp [Text.isUpperOrDigit, isUpper_of_mem h hc]

theorem ofAlpha2?_isNone_iff {code : Text} (h : Text.IsCanonical code) :
    (ofAlpha2? code).isNone = true ↔ code ∉ codes := by
  rw [← h.asciiUpper_eq, ← ofAlpha2?_isSome, h.asciiUpper_eq]
  simp

end Country

/-- The code of a country is canonical as soon as it has length two, since it was trimmed. -/
theorem CountryRef.isCanonical_alpha2 {c : CountryRef} (h : c.alpha2.length = 2) : Text.IsCanonical c.alpha2 := by
  cases c with
  | country c => exact Country.isCanonical_of_mem_codes c.listed
  | code t =>
    simp only [alpha2, Text.length_asciiUpper] at h ⊢
    obtain ⟨a, b, hab⟩ := List.length_eq_two.1 h
    obtain ⟨ha, hb⟩ := Text.isBlank_of_trim_eq hab
    rw [hab]
    intro d hd
    obtain ⟨e, he, rfl⟩ := List.mem_map.1 hd
    refine ⟨Text.isBlank_toUpper ?_, Text.isLower_toUpper e⟩
    simp only [List.mem_cons, List.not_mem_nil, or_false] at he
    rcases he with rfl | rfl <;> assumption

theorem CountryRef.alpha2_code {t : Text} (h : Text.IsCanonical t) : (CountryRef.code t).alpha2 = t := by
  rw [alpha2, h.trim_eq, h.asciiUpper_eq]

/-- Behind a country code and digits, only the rest is brought into canonical form. -/
theorem CountryRef.canonical_front {c : CountryRef} {d : Text} (hc : c.alpha2.length = 2)
    (hd : ∀ x ∈ d, x.isDigit = true) (rest : Text) :
    (c.alpha2 ++ d ++ rest).canonical = c.alpha2 ++ d ++ rest.canonical := by
  have hdigits : Text.IsCanonical d := Text.isCanonical_of_upperOrDigit fun x hx => by
    simp [Text.isUpperOrDigit, hd x hx]
  rw [Text.canonical_append, Text.canonical_append, (CountryRef.isCanonical_alpha2 hc).canonical_eq,
    hdigits.canonical_eq]

theorem CountryRef.ofAlpha2?_isNone_iff (c : CountryRef) :
    (Country.ofAlpha2? c.alpha2).isNone = true ↔ c.alpha2 ∉ Country.codes := by
  constructor
  · intro h hmem
    exact (Country.ofAlpha2?_isNone_iff (Country.isCanonical_of_mem_codes hmem)).1 h hmem
  · intro hn
    by_contra h
    have hmem := Country.ofAlpha2?_isSome.1 (Option.isSome_iff_ne_none.2 (by simpa using h))
    have hlen := Country.length_of_mem_codes hmem
    rw [Text.length_asciiUpper] at hlen
    rw [(CountryRef.isCanonical_alpha2 hlen).asciiUpper_eq] at hmem
    exact hn hmem

end PaymentIdentifiers
