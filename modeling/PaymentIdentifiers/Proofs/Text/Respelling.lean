import PaymentIdentifiers.Proofs.Text.Canonical
import Mathlib

/-!
# Other spellings of a text

A text is respelled by inserting blanks anywhere and by writing ASCII letters in the other case. This keeps the
canonical form, and a text is a respelling of its canonical form. So the texts with a given canonical form are its
respellings.
-/
namespace PaymentIdentifiers.Text

/-- The same character, or the same ASCII letter in either case. -/
def SameLetter (c d : Char) : Prop := d = c ∨ d = c.toUpper ∨ d = c.toLower

/-- A text with blanks inserted anywhere and the case of any ASCII letters changed. -/
inductive Respelled : Text → Text → Prop
  | nil : Respelled [] []
  | blank {s t : Text} {b : Char} (hb : isBlank b = true) (h : Respelled s t) : Respelled s (b :: t)
  | letter {s t : Text} {c d : Char} (hd : SameLetter c d) (h : Respelled s t) : Respelled (c :: s) (d :: t)

variable {c d : Char}

theorem sameLetter_iff : SameLetter c d ↔ d.toUpper = c.toUpper := by
  constructor
  · rintro (rfl | rfl | rfl)
    · rfl
    · exact c.toUpper_toUpper_eq_toUpper
    · exact c.toUpper_toLower_eq_toUpper
  · intro h
    cases hd : d.isLower with
    | false => exact .inr (.inl (by rw [← h, toUpper_of_not_isLower hd]))
    | true =>
      have hlower : d.toLower = d := Char.toLower_eq_of_not_isUpper (Char.not_isUpper_of_isLower hd)
      exact .inr (.inr (by rw [← c.toLower_toUpper_eq_toLower, ← h, d.toLower_toUpper_eq_toLower, hlower]))

theorem isBlank_toUpper_eq (c : Char) : isBlank c.toUpper = isBlank c := by
  cases h : isBlank c with
  | false => exact isBlank_toUpper h
  | true =>
    have hlower : c.isLower = false := by
      rw [Bool.eq_false_iff]
      intro hlower
      rw [isBlank_of_isAlphanum (isAlphanum_iff.2 (.inr (.inl (isLower_iff.1 hlower))))] at h
      cases h
    rw [toUpper_of_not_isLower hlower, h]

theorem canonical_cons_of_isBlank (t : Text) (h : isBlank c = true) : canonical (c :: t) = canonical t := by
  simp [canonical, deleteBlanks, h]

theorem canonical_cons_of_not_isBlank (t : Text) (h : isBlank c = false) :
    canonical (c :: t) = c.toUpper :: canonical t := by
  simp [canonical, deleteBlanks, asciiUpper, h]

theorem Respelled.refl (t : Text) : Respelled t t := by
  induction t with
  | nil => exact .nil
  | cons c t ih => exact .letter (.inl rfl) ih

/-- A respelling keeps the canonical form. -/
theorem Respelled.canonical_eq {s t : Text} (h : Respelled s t) : canonical t = canonical s := by
  induction h with
  | nil => rfl
  | @blank _ t _ hb _ ih => rw [canonical_cons_of_isBlank t hb, ih]
  | @letter s t c d hd _ ih =>
    have hupper := sameLetter_iff.1 hd
    have hblank : isBlank d = isBlank c := by rw [← isBlank_toUpper_eq d, hupper, isBlank_toUpper_eq]
    cases hc : isBlank c with
    | true => rw [canonical_cons_of_isBlank t (hblank.trans hc), canonical_cons_of_isBlank s hc, ih]
    | false => rw [canonical_cons_of_not_isBlank t (hblank.trans hc), canonical_cons_of_not_isBlank s hc, hupper, ih]

/-- Every text is a respelling of its canonical form. -/
theorem respelled_canonical (t : Text) : Respelled (canonical t) t := by
  induction t with
  | nil => exact .nil
  | cons c t ih =>
    cases hc : isBlank c with
    | true =>
      rw [canonical_cons_of_isBlank t hc]
      exact .blank hc ih
    | false =>
      rw [canonical_cons_of_not_isBlank t hc]
      exact .letter (sameLetter_iff.2 c.toUpper_toUpper_eq_toUpper.symm) ih

/-- The texts with a given canonical form are its respellings. -/
theorem respelled_iff {s : Text} (h : IsCanonical s) (t : Text) : Respelled s t ↔ t.canonical = s := by
  constructor
  · intro ht
    rw [ht.canonical_eq, h.canonical_eq]
  · rintro rfl
    exact respelled_canonical t

end PaymentIdentifiers.Text
