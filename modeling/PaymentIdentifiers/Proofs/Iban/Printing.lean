import PaymentIdentifiers.Proofs.Iban.Parts
import PaymentIdentifiers.Proofs.Text.Joined

/-!
# Account numbers in print

In print an account number has a space behind every four characters, except at the end. The spaces are blanks, so the
printed form is read like the account number itself.
-/
namespace PaymentIdentifiers

namespace Iban

/-- A text of groups of four characters, the last one possibly shorter, with one space between them. Without the
spaces it is the other text. -/
structure PrintedAs (t s : Text) : Prop where
  groups : ∃ gs g, Text.cut ' ' s = gs ++ [g] ∧ (∀ h ∈ gs, h.length = 4) ∧ 1 ≤ g.length ∧ g.length ≤ 4
  leading : s.head? ≠ some ' '
  trailing : s.getLast? ≠ some ' '
  doubled : ¬ [' ', ' '] <:+: s
  deleted : s.filter (fun c => c != ' ') = t

/-- Every group but the last is full. -/
theorem exists_inFours_eq {t : Text} (h : t ≠ []) :
    ∃ gs g, inFours t = gs ++ [g] ∧ (∀ u ∈ gs, u.length = 4) ∧ 1 ≤ g.length ∧ g.length ≤ 4 := by
  fun_induction inFours t with
  | case1 a b c d rest ih =>
    by_cases hrest : rest = []
    · rw [hrest]
      exact ⟨[], [a, b, c, d], rfl, List.forall_mem_nil _, by simp⟩
    · obtain ⟨gs, g, heq, hgs, hg⟩ := ih hrest
      exact ⟨[a, b, c, d] :: gs, g, by rw [heq, List.cons_append], List.forall_mem_cons.2 ⟨rfl, hgs⟩, hg⟩
  | case2 => exact absurd rfl h
  | case3 rest hfull _ =>
    refine ⟨[], rest, rfl, List.forall_mem_nil _, List.length_pos_of_ne_nil h, ?_⟩
    rcases rest with _ | ⟨a, _ | ⟨b, _ | ⟨c, _ | ⟨d, u⟩⟩⟩⟩
    · simp
    · simp
    · simp
    · simp
    · exact absurd rfl (hfull a b c d u)

theorem printedAs_printable {v : Text} {x : Iban} (h : parse v = .ok x) : PrintedAs x.text x.printable := by
  have hspace : ' ' ∉ x.text := fun hmem => absurd (isUpperOrDigit_of_parse h ' ' hmem) (by decide)
  have hne : x.text ≠ [] := by
    obtain ⟨htext, l, hl⟩ := parse_eq_ok_iff.1 h
    have hfour := four_le_length_of_wellFormed hl.formed
    rw [htext]
    exact List.ne_nil_of_length_pos (by omega)
  obtain ⟨gs, g, heq, hgs, hg⟩ := exists_inFours_eq hne
  have hcut : Text.cut ' ' x.printable = inFours x.text := by
    apply Text.cut_joined
    · rw [heq]
      exact List.append_ne_nil_of_right_ne_nil gs (List.cons_ne_nil g [])
    · intro u hu hmem
      exact hspace (flatten_inFours x.text ▸ List.mem_flatten.2 ⟨u, hu, hmem⟩)
  have hnil : [] ∉ Text.cut ' ' x.printable := by
    rw [hcut, heq, List.mem_append, List.mem_singleton]
    rintro (hmem | rfl)
    · exact absurd (hgs [] hmem) (by decide)
    · exact absurd hg.1 (by decide)
  obtain ⟨hleading, htrailing, hdoubled⟩ := Text.separated_of_nil_not_mem_cut hnil
  refine ⟨⟨gs, g, hcut.trans heq, hgs, hg⟩, hleading, htrailing, hdoubled, ?_⟩
  have hsep : ∀ c ∈ " ".toList, (c != ' ') = false := List.forall_mem_singleton.2 rfl
  rw [printable, Text.filter_joined hsep, flatten_inFours, List.filter_eq_self]
  intro c hc
  exact bne_iff_ne.2 fun heq => hspace (heq ▸ hc)

theorem canonical_printable (x : Iban) : x.printable.canonical = x.text.canonical := by
  have hspace : ∀ c ∈ " ".toList, Text.isBlank c = true := List.forall_mem_singleton.2 (by decide)
  rw [Text.canonical, printable, Text.deleteBlanks_joined hspace, flatten_inFours, Text.canonical]

theorem mem_printable {x : Iban} {c : Char} (h : c ∈ x.printable) : c = ' ' ∨ c ∈ x.text := by
  rcases Text.mem_joined h with hspace | htext
  · exact .inl (by simpa using hspace)
  · exact .inr (flatten_inFours x.text ▸ htext)

/-- An account number is read from its printed form. -/
theorem parse_printable {x : Iban} (h : parse x.text = .ok x) : parse x.printable = .ok x := by
  rw [parse_eq_ok_iff, canonical_printable]
  exact parse_eq_ok_iff.1 h

/-- The printed form has one line. -/
theorem newline_not_mem_printable {v : Text} {x : Iban} (h : parse v = .ok x) : '\n' ∉ x.printable := by
  intro hmem
  rcases mem_printable hmem with hspace | htext
  · exact absurd hspace (by decide)
  · exact absurd (isUpperOrDigit_of_parse h _ htext) (by decide)

/-- The country of an account number that was read has a format. -/
theorem exists_layout?_of_parse {v : Text} {x : Iban} (h : parse v = .ok x) : ∃ l, x.layout? = some l := by
  obtain ⟨htext, l, hl⟩ := parse_eq_ok_iff.1 h
  refine ⟨l, ?_⟩
  rw [layout?, countryCode, htext]
  exact hl.layout

end Iban
end PaymentIdentifiers
