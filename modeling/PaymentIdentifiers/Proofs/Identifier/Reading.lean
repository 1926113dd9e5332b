import PaymentIdentifiers.Identifier
import PaymentIdentifiers.Proofs.Bic.Acceptance
import PaymentIdentifiers.Proofs.Card.Acceptance
import PaymentIdentifiers.Proofs.CreditorIdentifier.Acceptance
import PaymentIdentifiers.Proofs.Iban.Acceptance

/-!
# Reading an identifier of any kind

Every kind goes by some of the characters of a text only. Texts with the same significant characters are read alike, so
outer blanks never matter, and what was read is read again from its own text.
-/
namespace PaymentIdentifiers

section
variable {ε ε' α β : Type} {r : Except ε α}

theorem map_eq_ok_iff {f : α → β} {y : β} : r.map f = .ok y ↔ ∃ x, r = .ok x ∧ f x = y := by
  cases r <;> simp [Except.map]

theorem mapError_eq_ok_iff {f : ε → ε'} {x : α} : r.mapError f = .ok x ↔ r = .ok x := by
  cases r <;> simp [Except.mapError]

theorem map_mapError (f : α → β) (g : ε → ε') : (r.mapError g).map f = (r.map f).mapError g := by
  cases r <;> rfl

end

/-- The same rejection of another text. -/
def Rejection.about (v : Text) (r : Rejection) : Rejection := { r with input := v }

section
variable {v w : Text}

theorem Iban.parse_congr (h : v.canonical = w.canonical) : parse v = (parse w).mapError (Rejection.about v) := by
  rw [parse, parse, h]
  split
  · rfl
  · split
    · rfl
    · cases Bban.layoutOf (w.canonical.take 2) with
      | none => rfl
      | some l =>
        dsimp only
        split
        · rfl
        · split <;> rfl

theorem CreditorIdentifier.parse_congr (h : v.canonical = w.canonical) :
    parse v = (parse w).mapError (Rejection.about v) := by
  rw [parse, parse, h]
  split
  · rfl
  · cases countryFault? (w.canonical.take 2) with
    | some cause => rfl
    | none =>
      dsimp only
      split <;> rfl

theorem Bic.parse_congr (h : v.trim.asciiUpper = w.trim.asciiUpper) :
    parse v = (parse w).mapError (Rejection.about v) := by
  rw [parse, parse, h]
  split
  · rfl
  · split <;> rfl

theorem Card.parse_congr (h : compact v = compact w) : parse v = (parse w).mapError (Rejection.about v) := by
  rw [parse, parse, h]
  cases issuerOf? (compact w) with
  | none => rfl
  | some i =>
    dsimp only
    split <;> rfl

end

namespace Kind

/-- The characters that reading goes by, letters in upper case. -/
def significant : Kind → Text → Text
  | iban, t => t.canonical
  | bic, t => t.trim.asciiUpper
  | creditorIdentifier, t => t.canonical
  | card, t => Card.compact t

@[simp] theorem significant_trim (k : Kind) (t : Text) : k.significant t.trim = k.significant t := by
  cases k <;> simp [significant]

variable {k : Kind} {v w : Text} {x : Identifier}

theorem parse_congr (h : k.significant v = k.significant w) :
    k.parse v = (k.parse w).mapError (Rejection.about v) := by
  cases k with
  | iban => rw [parse, parse, Iban.parse_congr h, map_mapError]
  | bic => rw [parse, parse, Bic.parse_congr h, map_mapError]
  | creditorIdentifier => rw [parse, parse, CreditorIdentifier.parse_congr h, map_mapError]
  | card => rw [parse, parse, Card.parse_congr h, map_mapError]

/-- Outer blanks change nothing but the quoted text of a rejection. -/
theorem parse_trim (k : Kind) (v : Text) : k.parse v.trim = (k.parse v).mapError (Rejection.about v.trim) :=
  parse_congr (k.significant_trim v)

theorem parse_iban_of_parse {y : Iban} (h : Iban.parse v = .ok y) : Kind.iban.parse v = .ok (.iban y) :=
  map_eq_ok_iff.2 ⟨y, h, rfl⟩

theorem kind_of_parse (h : k.parse v = .ok x) : x.kind = k := by
  cases k <;>
  · obtain ⟨y, -, rfl⟩ := map_eq_ok_iff.1 h
    rfl

end Kind

/-- An identifier in canonical form: it has upper-case letters and digits only, and is read from its own text. -/
structure Identifier.IsCanonical (x : Identifier) : Prop where
  isUpperOrDigit : ∀ c ∈ x.text, Text.isUpperOrDigit c = true
  rereads : x.kind.parse x.text = .ok x

theorem Kind.isCanonical_of_parse {k : Kind} {v : Text} {x : Identifier} (h : k.parse v = .ok x) :
    x.IsCanonical := by
  cases k with
  | iban =>
    obtain ⟨y, hy, rfl⟩ := map_eq_ok_iff.1 h
    exact ⟨Iban.isUpperOrDigit_of_parse hy, map_eq_ok_iff.2 ⟨y, Iban.parse_text_of_parse hy, rfl⟩⟩
  | bic =>
    obtain ⟨y, hy, rfl⟩ := map_eq_ok_iff.1 h
    exact ⟨Bic.isUpperOrDigit_of_parse hy, map_eq_ok_iff.2 ⟨y, Bic.parse_text_of_parse hy, rfl⟩⟩
  | creditorIdentifier =>
    obtain ⟨y, hy, rfl⟩ := map_eq_ok_iff.1 h
    exact ⟨CreditorIdentifier.isUpperOrDigit_of_parse hy,
      map_eq_ok_iff.2 ⟨y, CreditorIdentifier.parse_text_of_parse hy, rfl⟩⟩
  | card =>
    obtain ⟨y, hy, rfl⟩ := map_eq_ok_iff.1 h
    have hdigits (c : Char) (hc : c ∈ y.number) : Text.isUpperOrDigit c = true := by
      simp [Text.isUpperOrDigit, Card.isDigit_of_parse hy c hc]
    exact ⟨hdigits, map_eq_ok_iff.2 ⟨y, Card.parse_number_of_parse hy, rfl⟩⟩

namespace Kind

theorem construct_text (k : Kind) (v : Text) : k.construct (.text v) = (k.parse v).mapError .rejected := rfl

theorem construct_text_eq_ok_iff {k : Kind} {v : Text} {x : Identifier} :
    k.construct (.text v) = .ok x ↔ k.parse v = .ok x := by
  rw [construct_text, mapError_eq_ok_iff]

theorem construct_text_eq_rejected_iff {k : Kind} {v : Text} {r : Rejection} :
    k.construct (.text v) = .error (.rejected r) ↔ k.parse v = .error r := by
  rw [construct_text]
  cases k.parse v <;> simp [Except.mapError]

/-- Only a text is made an identifier of. -/
theorem exists_text_of_construct {k : Kind} {d : Datum} {x : Identifier} (h : k.construct d = .ok x) :
    ∃ v, d = .text v ∧ k.parse v = .ok x := by
  cases d with
  | text v => exact ⟨v, rfl, construct_text_eq_ok_iff.1 h⟩
  | _ => cases h

end Kind

theorem Iban.ofArguments_text_eq_ok_iff {c b : Text} {x : Iban} :
    ofArguments (.datum (.text c)) (.text b) = .ok x ↔ fromParts (.code c) b = .ok x := by
  have harguments : ofArguments (.datum (.text c)) (.text b) = (fromParts (.code c) b).mapError .rejected := rfl
  rw [harguments, mapError_eq_ok_iff]

theorem CreditorIdentifier.ofArguments_text_eq_ok_iff {c business n : Text} {x : CreditorIdentifier} :
    ofArguments (.datum (.text c)) (.text business) (.text n) = .ok x ↔ fromParts (.code c) business n = .ok x := by
  have harguments : ofArguments (.datum (.text c)) (.text business) (.text n) =
      (fromParts (.code c) business n).mapError .rejected := rfl
  rw [harguments, mapError_eq_ok_iff]

end PaymentIdentifiers
