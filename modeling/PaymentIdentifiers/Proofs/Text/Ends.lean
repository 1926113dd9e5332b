import PaymentIdentifiers.Proofs.Text.Canonical
import Mathlib.Data.List.DropRight

/-!
# Blanks at the ends of a text

A text is its trimmed part between two runs of blanks. So trimming is done once and for all, and it is not seen by
anything that drops the blanks later.
-/
namespace PaymentIdentifiers.Text

theorem exists_blanks_append_trimStart (t : Text) :
    ∃ s, (∀ c ∈ s, isBlank c = true) ∧ t = s ++ trimStart t :=
  ⟨t.takeWhile isBlank, fun _ => List.mem_takeWhile_imp, List.takeWhile_append_dropWhile.symm⟩

/-- Without its leading blanks, a text is its trimmed part with blanks behind it. -/
theorem exists_trimStart_eq_trim_append (t : Text) :
    ∃ u, (∀ c ∈ u, isBlank c = true) ∧ trimStart t = trim t ++ u := by
  obtain ⟨s, hs, hrev⟩ := exists_blanks_append_trimStart (trimStart t).reverse
  refine ⟨s.reverse, fun c hc => hs c (List.mem_reverse.1 hc), ?_⟩
  rw [trim, ← List.reverse_append, ← hrev, List.reverse_reverse]

/-- A text is its trimmed part with blanks on both sides. -/
theorem exists_eq_append_trim (t : Text) :
    ∃ s u, (∀ c ∈ s, isBlank c = true) ∧ (∀ c ∈ u, isBlank c = true) ∧ t = s ++ trim t ++ u := by
  obtain ⟨s, hs, hleft⟩ := exists_blanks_append_trimStart t
  obtain ⟨u, hu, hright⟩ := exists_trimStart_eq_trim_append t
  refine ⟨s, u, hs, hu, ?_⟩
  rw [List.append_assoc, ← hright, ← hleft]

theorem mem_trim_or_isBlank {t : Text} {c : Char} (h : c ∈ t) : c ∈ trim t ∨ isBlank c = true := by
  obtain ⟨s, u, hs, hu, ht⟩ := exists_eq_append_trim t
  rw [ht] at h
  rcases List.mem_append.1 h with h | h
  · exact (List.mem_append.1 h).symm.imp_right (hs c)
  · exact .inr (hu c h)

/-- Nothing is left to be cut at the beginning of a trimmed part. -/
theorem trimStart_trim (t : Text) : trimStart (trim t) = trim t := by
  obtain ⟨u, -, hu⟩ := exists_trimStart_eq_trim_append t
  cases htrim : trim t with
  | nil => rfl
  | cons c s =>
    rw [htrim, List.cons_append] at hu
    simp [trimStart, isBlank_of_trimStart hu]

@[simp] theorem trim_trim (t : Text) : trim (trim t) = trim t := by
  have hend : trimStart (trim t).reverse = (trim t).reverse := by
    rw [trim, List.reverse_reverse]
    exact List.dropWhile_idempotent isBlank _
  rw [trim, trimStart_trim, hend, List.reverse_reverse]

/-- Nothing is cut from a text with no blank at either end. -/
theorem trim_eq_self {t : Text} (hhead : ∀ c ∈ t.head?, isBlank c = false)
    (hlast : ∀ c ∈ t.getLast?, isBlank c = false) : trim t = t := by
  have hkept {s : Text} (h : ∀ c ∈ s.head?, isBlank c = false) : trimStart s = s := by
    cases s with
    | nil => rfl
    | cons c s => exact List.dropWhile_cons_of_neg (by simp [h c rfl])
  have hrev : trimStart t.reverse = t.reverse := hkept (by rwa [List.head?_reverse])
  rw [trim, hkept hhead, hrev, List.reverse_reverse]

/-- A selection without blanks does not see whether the text was trimmed. -/
theorem filter_trim {p : Char → Bool} (hp : ∀ c, isBlank c = true → p c = false) (t : Text) :
    (trim t).filter p = t.filter p := by
  obtain ⟨s, u, hs, hu, ht⟩ := exists_eq_append_trim t
  have hnone {v : Text} (hv : ∀ c ∈ v, isBlank c = true) : v.filter p = [] :=
    List.filter_eq_nil_iff.2 fun c hc => by simp [hp c (hv c hc)]
  conv_rhs => rw [ht, List.filter_append, List.filter_append, hnone hs, hnone hu, List.nil_append, List.append_nil]

@[simp] theorem canonical_trim (t : Text) : canonical (trim t) = canonical t := by
  rw [canonical, canonical, deleteBlanks, deleteBlanks, filter_trim fun c hc => by simp [hc]]

end PaymentIdentifiers.Text
