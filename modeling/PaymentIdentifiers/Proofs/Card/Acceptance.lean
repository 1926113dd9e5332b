import PaymentIdentifiers.Card
import PaymentIdentifiers.Proofs.Text.Ends

/-!
# Which texts are card numbers

A card number is read by its digits alone. They name the issuer and pass the checksum, and they are read again as the
same number of the same issuer.
-/
namespace PaymentIdentifiers.Card

theorem length_of_issuerOf? {number : Text} {i : Issuer} (h : issuerOf? number = some i) :
    (number.length = 13 ∨ number.length = 16) ∧ ∀ c ∈ number, c.isDigit = true := by
  unfold issuerOf? at h
  split at h
  · contradiction
  · rename_i hdigits
    refine ⟨?_, by simpa using hdigits⟩
    split at h
    · split at h
      · assumption
      · contradiction
    · split at h
      · rename_i hlen
        exact .inr hlen.2.2
      · contradiction
    · contradiction

theorem isSeparator_of_isDigit {c : Char} (h : c.isDigit = true) : isSeparator c = false := by
  have hblank := Text.isBlank_of_isAlphanum (Text.isAlphanum_of_isDigit h)
  have hhyphen : c ≠ '-' := by
    rintro rfl
    exact absurd h (by decide)
  simp [isSeparator, hblank, hhyphen]

theorem compact_eq_self {t : Text} (h : ∀ c ∈ t, c.isDigit = true) : compact t = t :=
  List.filter_eq_self.2 fun c hc => by simp [isSeparator_of_isDigit (h c hc)]

@[simp] theorem compact_trim (t : Text) : compact t.trim = compact t :=
  Text.filter_trim (fun c hc => by simp [isSeparator, hc]) t

/-- The exits of reading a card number: one for each check that can fail, and the number behind both. -/
inductive Reads (v : Text) : Except Rejection Card → Prop
  | notWellFormed (h : issuerOf? (compact v) = none) : Reads v (.error ⟨.cardNumber, v, .notWellFormed⟩)
  | incorrectCheckDigit (i : Issuer) (hi : issuerOf? (compact v) = some i) (h : Luhn.isValid (compact v) = false) :
      Reads v (.error ⟨.cardNumber, v, .incorrectCheckDigit⟩)
  | accepted (i : Issuer) (hi : issuerOf? (compact v) = some i) (h : Luhn.isValid (compact v) = true) :
      Reads v (.ok ⟨compact v, i⟩)

theorem reads_parse (v : Text) : Reads v (parse v) := by
  fun_cases parse v with
  | case1 _ hi => exact .notWellFormed hi
  | case2 _ i hi hl => exact .incorrectCheckDigit i hi (by simpa using hl)
  | case3 _ i hi hl => exact .accepted i hi (by simpa using hl)

theorem parse_eq_ok_iff {v : Text} {x : Card} :
    parse v = .ok x ↔
      x.number = compact v ∧ issuerOf? (compact v) = some x.issuer ∧ Luhn.isValid (compact v) = true := by
  have hreads := reads_parse v
  generalize parse v = r at hreads
  constructor
  · rintro rfl
    cases hreads with
    | accepted i hi hl => exact ⟨rfl, hi, hl⟩
  · rintro ⟨hnumber, hissuer, hvalid⟩
    cases hreads with
    | notWellFormed hi => simp [hi] at hissuer
    | incorrectCheckDigit i hi hl => simp [hvalid] at hl
    | accepted i hi hl =>
      obtain rfl := Option.some.inj (hi.symm.trans hissuer)
      rw [← hnumber]

theorem isDigit_of_parse {v : Text} {x : Card} (h : parse v = .ok x) : ∀ c ∈ x.number, c.isDigit = true := by
  obtain ⟨hnumber, hissuer, -⟩ := parse_eq_ok_iff.1 h
  rw [hnumber]
  exact (length_of_issuerOf? hissuer).2

theorem issuerOf?_of_parse {v : Text} {x : Card} (h : parse v = .ok x) : issuerOf? x.number = some x.issuer := by
  obtain ⟨hnumber, hissuer, -⟩ := parse_eq_ok_iff.1 h
  rw [hnumber, hissuer]

/-- A card that was read is read from its own number. -/
theorem parse_number_of_parse {v : Text} {x : Card} (h : parse v = .ok x) : parse x.number = .ok x := by
  obtain ⟨hnumber, hissuer, hvalid⟩ := parse_eq_ok_iff.1 h
  rw [parse_eq_ok_iff, compact_eq_self (isDigit_of_parse h), hnumber]
  exact ⟨rfl, hissuer, hvalid⟩

end PaymentIdentifiers.Card
