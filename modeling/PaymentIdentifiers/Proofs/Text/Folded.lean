import PaymentIdentifiers.Proofs.Text.Ends
import PaymentIdentifiers.Text.Lowercase

/-!
# Comparing texts without case and outer blanks

For ASCII texts, the form in which column names are compared is the trimmed text in lower case, letter by letter. What
is not a letter and stands between two characters that are not blank is found in it again.
-/
namespace PaymentIdentifiers.Text

variable {t s u : Text} {a b c : Char}

theorem toNat_toLower (c : Char) : c.toLower.toNat = if c.isUpper then c.toNat + 32 else c.toNat := by
  have hbounds : (c.val ≥ 'A'.val ∧ c.val ≤ 'Z'.val) ↔ c.isUpper = true := by
    rw [isUpper_iff]
    exact Iff.rfl
  unfold Char.toLower
  by_cases h : c.isUpper = true
  · have hc := isUpper_iff.1 h
    rw [dif_pos (hbounds.2 h), if_pos h]
    change (c.val + ('a'.val - 'A'.val)).toNat = c.val.toNat + 32
    change 65 ≤ c.val.toNat ∧ c.val.toNat ≤ 90 at hc
    rw [UInt32.toNat_add, show ('a'.val - 'A'.val).toNat = 32 by decide]
    omega
  · rw [dif_neg fun hb => h (hbounds.1 hb), if_neg h]

/-- Only letters become lower-case letters. -/
theorem eq_of_toLower_eq (h : c.toLower = a) (ha : a.isLower = false) : c = a := by
  have hnat := toNat_toLower c
  rw [h] at hnat
  split at hnat
  · rename_i hupper
    have hc := isUpper_iff.1 hupper
    have hlower : a.isLower = true := isLower_iff.2 (by omega)
    simp [ha] at hlower
  · exact Char.toNat_inj.1 hnat.symm

theorem lower_of_ascii (h : ∀ c ∈ t, c.toNat < 128) : lower t = t.map Char.toLower := by
  have hafter (before : Text) : lowerAfter before t = t.map Char.toLower := by
    induction t generalizing before with
    | nil => rfl
    | cons c t ih =>
      obtain ⟨hc, ht⟩ := List.forall_mem_cons.1 h
      have hsigma : (c == 'Σ') = false := by
        rw [beq_eq_false_iff_ne]
        rintro rfl
        exact absurd hc (by decide)
      rw [lowerAfter, hsigma, ih ht, lowerChar, if_pos hc]
      rfl
  exact hafter []

/-- Spaces at the beginning are blanks, and so they are trimmed anyway. -/
theorem trim_dropWhile_space (t : Text) : trim (t.dropWhile (· == ' ')) = trim t := by
  have hstart : trimStart (t.dropWhile (· == ' ')) = trimStart t := by
    induction t with
    | nil => rfl
    | cons c t ih =>
      by_cases hc : c = ' '
      · subst hc
        rw [List.dropWhile_cons_of_pos (by decide), ih]
        rfl
      · rw [List.dropWhile_cons_of_neg (by simpa using hc)]
  rw [trim, trim, hstart]

theorem mem_of_mem_trim (h : c ∈ trim t) : c ∈ t := by
  obtain ⟨x, y, -, -, ht⟩ := exists_eq_append_trim t
  rw [ht]
  exact List.mem_append_left y (List.mem_append_right x h)

/-- What is left of a text begins with a character that is not blank. -/
theorem exists_mem_of_trim_ne_nil (h : trim t ≠ []) : ∃ c ∈ t, isBlank c = false := by
  obtain ⟨c, s, htrim⟩ := List.exists_cons_of_ne_nil h
  have hstart : trimStart (trim t) = c :: s := by rw [trimStart_trim, htrim]
  exact ⟨c, mem_of_mem_trim (htrim ▸ List.mem_cons_self), isBlank_of_trimStart hstart⟩

theorem folded_of_ascii (h : ∀ c ∈ t, c.toNat < 128) : folded t = (trim t).map Char.toLower :=
  lower_of_ascii fun c hc => h c (mem_of_mem_trim hc)

/-- Trimming cuts nothing between two characters that are not blank. -/
theorem mem_trim_of_between (ha : a ∈ s) (hafter : isBlank a = false) (hb : b ∈ u) (hbefore : isBlank b = false) :
    c ∈ trim (s ++ c :: u) := by
  obtain ⟨x, y, hx, hy, ht⟩ := exists_eq_append_trim (s ++ c :: u)
  rw [List.append_assoc] at ht
  generalize trim (s ++ c :: u) = m at ht ⊢
  rcases List.append_eq_append_iff.1 ht with ⟨z, rfl, -⟩ | ⟨z, rfl, hrest⟩
  · exact absurd (hx a (List.mem_append_left z ha)) (by simp [hafter])
  · rcases List.append_eq_append_iff.1 hrest with ⟨w, rfl, htrim⟩ | ⟨w, htrim, hend⟩
    · exact absurd (hy b (htrim ▸ List.mem_append_right w (List.mem_cons_of_mem c hb))) (by simp [hbefore])
    · cases w with
      | nil =>
        rw [List.nil_append] at hend
        exact absurd (hy b (hend ▸ List.mem_cons_of_mem c hb)) (by simp [hbefore])
      | cons v w =>
        obtain ⟨rfl, -⟩ := List.cons.inj hend
        rw [htrim]
        exact List.mem_append_right z List.mem_cons_self

end PaymentIdentifiers.Text
