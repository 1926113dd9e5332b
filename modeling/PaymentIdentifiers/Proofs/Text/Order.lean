import PaymentIdentifiers.Text.Basic

/-!
# The order of texts

Comparing code points position by position is a strict order in which all texts can be compared. So a list into which
texts are sorted one by one is in ascending order, and no text occurs twice in it.
-/
namespace PaymentIdentifiers.Text

variable {s t u : Text} {ts : List Text}

theorem before_cons_cons {a b : Char} :
    before (a :: s) (b :: t) = true ↔ a.toNat < b.toNat ∨ a = b ∧ before s t = true := by
  simp [before]

theorem before_trans (hst : before s t = true) (htu : before t u = true) : before s u = true := by
  induction s generalizing t u with
  | nil =>
    cases u with
    | nil => simp at htu
    | cons => rfl
  | cons a s ih =>
    cases t with
    | nil => simp at hst
    | cons b t =>
      cases u with
      | nil => simp at htu
      | cons c u =>
        rw [before_cons_cons] at hst htu ⊢
        rcases hst with hab | ⟨rfl, hst⟩
        · rcases htu with hbc | ⟨rfl, -⟩
          · exact .inl (Nat.lt_trans hab hbc)
          · exact .inl hab
        · exact htu.imp_right fun ⟨hac, htu⟩ => ⟨hac, ih hst htu⟩

theorem before_of_not_before (h : before s t = false) (hne : s ≠ t) : before t s = true := by
  induction s generalizing t with
  | nil =>
    cases t with
    | nil => exact absurd rfl hne
    | cons => simp [before] at h
  | cons a s ih =>
    cases t with
    | nil => rfl
    | cons b t =>
      rw [← Bool.not_eq_true, before_cons_cons, not_or, not_and] at h
      rw [before_cons_cons]
      by_cases hab : a = b
      · subst hab
        exact .inr ⟨rfl, ih (by simpa using h.2 rfl) fun hst => hne (by rw [hst])⟩
      · have hcodes : a.toNat ≠ b.toNat := fun hcode => hab (Char.toNat_inj.1 hcode)
        exact .inl (by omega)

/-- The texts are in ascending order. -/
def Ascending (ts : List Text) : Prop := ts.Pairwise fun s t => before s t = true

theorem Ascending.nodup (h : Ascending ts) : ts.Nodup :=
  h.imp fun {s t} hst => by
    rintro rfl
    simp [before_irrefl] at hst

theorem Ascending.insertSorted (h : Ascending ts) (t : Text) : Ascending (insertSorted t ts) := by
  induction ts with
  | nil => exact List.pairwise_singleton _ t
  | cons u us ih =>
    obtain ⟨hu, hus⟩ := List.pairwise_cons.1 h
    unfold Text.insertSorted
    split
    · exact h
    · rename_i hne
      split
      · rename_i htu
        refine List.pairwise_cons.2 ⟨fun v hv => ?_, h⟩
        rcases List.mem_cons.1 hv with rfl | hv
        · exact htu
        · exact before_trans htu (hu v hv)
      · rename_i htu
        refine List.pairwise_cons.2 ⟨fun v hv => ?_, ih hus⟩
        rcases mem_insertSorted.1 hv with rfl | hv
        · exact before_of_not_before (by simpa using htu) hne
        · exact hu v hv

theorem ascending_sortDistinct (ts : List Text) : Ascending (sortDistinct ts) := by
  induction ts with
  | nil => exact .nil
  | cons t ts ih => exact ih.insertSorted t

end PaymentIdentifiers.Text
