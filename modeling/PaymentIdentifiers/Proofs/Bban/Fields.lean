import PaymentIdentifiers.Proofs.Bban.Rows
import PaymentIdentifiers.Proofs.Swift.Matching

/-!
# Sub-fields of account numbers

A slice that reaches behind the end of a text is shorter than its range, without any notice. The ranges of a structure
end within its pattern, and what the structure accepts is as long as the pattern. So every sub-field is complete, and
its characters belong to the classes that the expression asks for at their positions.
-/
namespace PaymentIdentifiers.Bban

/-- The slice of a text is complete and not empty, and its characters are those of the text at the positions of the
range, each a member of the class that a pattern asks for there. -/
structure Range.InPlace (r : Range) (p : Swift.Pattern) (t : Text) : Prop where
  length_eq : (r.slice t).length = r.stop - r.start
  pos : 1 ≤ r.stop - r.start
  mem_class : ∀ j < r.stop - r.start, ∃ k c, p.classes[r.start + j]? = some k ∧ t[r.start + j]? = some c ∧
    (r.slice t)[j]? = some c ∧ k.has c = true

namespace Range

variable {r : Range} {t : Text}

theorem getElem?_slice {j : Nat} (h : j < r.stop - r.start) : (r.slice t)[j]? = t[r.start + j]? := by
  rw [slice, Text.slice, List.getElem?_drop, List.getElem?_take, if_pos (by omega)]

/-- A range that ends within a pattern is in place in every text that the pattern accepts. -/
theorem inPlace_of_accepts {e : Text} {p : Swift.Pattern} (hp : Swift.Pattern.compile e = .ok p)
    (hr : r.stop ≤ p.length) (ht : p.accepts t = true) : r.InPlace p t where
  length_eq := by
    apply length_slice
    rw [Swift.Pattern.length_of_accepts hp ht]
    exact hr
  pos := Nat.sub_pos_of_lt r.start_lt_stop
  mem_class j hj := by
    obtain ⟨hlen, hhas⟩ := List.forall₂_iff_get.1 ((Swift.Pattern.accepts_iff_forall₂ hp t).1 ht)
    have hk : r.start + j < p.classes.length := by
      rw [Swift.Pattern.length_classes]
      omega
    have hc : r.start + j < t.length := hlen ▸ hk
    have hchar : t[r.start + j]? = some t[r.start + j] := List.getElem?_eq_getElem hc
    exact ⟨p.classes[r.start + j], t[r.start + j], List.getElem?_eq_getElem hk, hchar,
      (getElem?_slice hj).trans hchar, hhas _ hk hc⟩

end Range

/-- The fields of a structure are in place in every account number that it accepts. -/
theorem Layout.inPlace_of_accepts {row : Row} {l : Layout} (hl : row.layout = .ok l) {t : Text}
    (ht : l.accepts t = true) {f : Field} {r : Range} (hr : l.range f = some r) : r.InPlace l.pattern t := by
  obtain ⟨hpattern, -, -, -, -, -, -, hexceeding⟩ := Row.layout_eq_ok_iff.1 hl
  exact Range.inPlace_of_accepts hpattern (exceeding?_eq_none_iff.1 hexceeding f r hr) ht

end PaymentIdentifiers.Bban
