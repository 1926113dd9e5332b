import PaymentIdentifiers.Text.Basic

/-!
# Slips of a writer

Whoever copies a text by hand may write another character at one place, or two neighbours in the wrong order. Either slip
keeps what stands before the place and what stands behind it.
-/
namespace PaymentIdentifiers.Text

/-- The text with the character at a place and the one behind it in the wrong order. -/
def exchange (t : Text) (i : Nat) : Text :=
  match t.drop i with
  | a :: b :: r => t.take i ++ b :: a :: r
  | _ => t

/-- Neighbours in the wrong order are the same characters. -/
theorem mem_exchanged_iff {s t : Text} {a b c : Char} : c ∈ s ++ b :: a :: t ↔ c ∈ s ++ a :: b :: t :=
  ((List.Perm.swap a b t).append_left s).mem_iff

section
variable {t : Text} {i : Nat} {a b : Char} (ha : t[i]? = some a)
include ha

theorem drop_eq_cons : t.drop i = a :: t.drop (i + 1) := by
  obtain ⟨hi, rfl⟩ := List.getElem?_eq_some_iff.1 ha
  exact List.drop_eq_getElem_cons hi

theorem eq_pieces_at : t = t.take i ++ a :: t.drop (i + 1) := by
  rw [← drop_eq_cons ha, List.take_append_drop]

theorem set_eq_pieces (c : Char) : t.set i c = t.take i ++ c :: t.drop (i + 1) := by
  obtain ⟨hi, -⟩ := List.getElem?_eq_some_iff.1 ha
  rw [List.set_eq_take_append_cons_drop, if_pos hi]

variable (hb : t[i + 1]? = some b)
include hb

theorem eq_pieces_at_two : t = t.take i ++ a :: b :: t.drop (i + 2) := by
  rw [← drop_eq_cons hb, ← drop_eq_cons ha, List.take_append_drop]

theorem exchange_eq_pieces : t.exchange i = t.take i ++ b :: a :: t.drop (i + 2) := by
  rw [exchange, drop_eq_cons ha, drop_eq_cons hb]

end

end PaymentIdentifiers.Text
