import PaymentIdentifiers.Proofs.Swift.Matching

/-!
# Joined groups and groups as written

A match runs over joined groups, but its answer is that of the groups as they stand in the expression. It depends on
nothing but the class asked for at each position, so expressions that cut the same classes into other groups match the
same texts.
-/
namespace PaymentIdentifiers

theorem Text.at?_natCast (t : Text) (i : Nat) : t.at? (i : Int) = t[i]? := by
  simp [Text.at?, Text.elementAt?]

namespace Swift

namespace Pattern

/-- Acceptance by every group as written, at every position that it covers. -/
theorem accepts_iff_forall_groups {e : Text} {p : Pattern} (h : compile e = .ok p) (t : Text) :
    p.accepts t = true ↔ t.length = p.length ∧ ∀ g ∈ p.groups, ∀ i : Int, g.start ≤ i → i < g.stop →
      ∃ c, t.at? i = some c ∧ g.charClass.has c = true := by
  rw [accepts_iff_forall₂ h, List.forall₂_iff_get]
  constructor
  · rintro ⟨hlen, hhas⟩
    refine ⟨by rw [← hlen, length_classes], fun g hg i hstart hstop => ?_⟩
    -- A group of a tiling starts at no negative position, so the position is one from the front.
    have hlo := (tiling_groups h).le_start hg
    obtain ⟨n, rfl⟩ := Int.eq_ofNat_of_zero_le (show (0 : Int) ≤ i by omega)
    obtain ⟨hn, hk⟩ := List.getElem?_eq_some_iff.1 ((getElem?_classes h).2 ⟨g, hg, hstart, hstop, rfl⟩)
    have hnt : n < t.length := hlen ▸ hn
    refine ⟨t[n], by rw [Text.at?_natCast, List.getElem?_eq_getElem hnt], ?_⟩
    rw [← hk]
    exact hhas n hn hnt
  · rintro ⟨hlen, hcover⟩
    refine ⟨by rw [length_classes, hlen], fun n hn hnt => ?_⟩
    obtain ⟨g, hg, hstart, hstop, hk⟩ := (getElem?_classes h).1 (List.getElem?_eq_getElem hn)
    obtain ⟨c, hc, hhas⟩ := hcover g hg n hstart hstop
    rw [Text.at?_natCast, List.getElem?_eq_getElem hnt] at hc
    obtain rfl := Option.some.inj hc
    rw [List.get_eq_getElem, List.get_eq_getElem, ← hk]
    exact hhas

/-- A match has no other ground than the classes, position by position. -/
theorem run_congr {e f : Text} {p q : Pattern} (hp : compile e = .ok p) (hq : compile f = .ok q)
    (h : p.classes = q.classes) (t : Text) : p.run t = q.run t := by
  have hlen : p.length = q.length := by rw [← length_classes, h, length_classes]
  rw [run_eq hp, run_eq hq, h, hlen]

/-- Matching over the joined groups never leaves the text, and accepts exactly the texts of the right length whose
characters belong to the class of every group as written, at every position of the group. Two expressions that ask for
the same classes, however they cut them into groups, match the same texts. -/
theorem matching_as_written :
    (∀ (e : Text) (p : Pattern), compile e = .ok p → ∀ t : Text,
      (∃ b, p.run t = some b) ∧
      (p.accepts t = true ↔ t.length = p.length ∧ ∀ g ∈ p.groups, ∀ i : Int, g.start ≤ i → i < g.stop →
        ∃ c, t.at? i = some c ∧ g.charClass.has c = true)) ∧
    (∀ (e f : Text) (p q : Pattern), compile e = .ok p → compile f = .ok q → p.classes = q.classes →
      ∀ t : Text, p.run t = q.run t ∧ p.accepts t = q.accepts t) := by
  refine ⟨fun e p hp t => ⟨⟨_, run_eq hp t⟩, accepts_iff_forall_groups hp t⟩, fun e f p q hp hq h t => ?_⟩
  have hrun := run_congr hp hq h t
  exact ⟨hrun, by rw [accepts, accepts, hrun]⟩

/-- Three groups of digits are joined to one span of ten, which is also what a single group asks for; a letter at the
last position of the second group is refused by both. -/
theorem matching_as_written_digits :
    ∃ p q, compile "3!n5!n2!n4!c" = .ok p ∧ compile "10!n4!c" = .ok q ∧ p.spans.length = 2 ∧ p.groups.length = 4 ∧
      p.classes = q.classes ∧ p.accepts "1234567890aB3D" = true ∧ q.accepts "1234567890aB3D" = true ∧
      p.run "1234567X90aB3D" = some false ∧ q.run "1234567X90aB3D" = some false ∧
      ∀ i : Int, 3 ≤ i → i < 8 → ∃ c, Text.at? "1234567890aB3D" i = some c ∧ c.isDigit = true := by
  obtain ⟨p, hp⟩ : ∃ p, compile "3!n5!n2!n4!c" = .ok p := ⟨_, rfl⟩
  obtain ⟨q, hq⟩ : ∃ q, compile "10!n4!c" = .ok q := ⟨_, rfl⟩
  have hpe := Except.ok.inj (hp.symm.trans rfl)
  have hqe := Except.ok.inj (hq.symm.trans rfl)
  have hclasses : p.classes = q.classes := by
    rw [hpe, hqe]
    decide +kernel
  have haccepts : p.accepts "1234567890aB3D" = true := by
    rw [hpe]
    decide +kernel
  have hrefused : p.run "1234567X90aB3D" = some false := by
    rw [hpe]
    decide +kernel
  obtain ⟨hwritten, hsame⟩ := matching_as_written
  have hcover := ((hwritten _ p hp "1234567890aB3D").2.1 haccepts).2 ⟨.digits, 3, 5⟩ (by rw [hpe]; decide +kernel)
  refine ⟨p, q, hp, hq, by rw [hpe]; rfl, by rw [hpe]; rfl, hclasses, haccepts, ?_, hrefused, ?_, hcover⟩
  · rw [← (hsame _ _ p q hp hq hclasses _).2]
    exact haccepts
  · rw [← (hsame _ _ p q hp hq hclasses _).1]
    exact hrefused

end Pattern
end Swift
end PaymentIdentifiers
