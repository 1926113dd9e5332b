import PaymentIdentifiers.Proofs.CreditorIdentifier.Parts
import PaymentIdentifiers.Proofs.Iban.Parts
import PaymentIdentifiers.Proofs.Identifier.Reading
import PaymentIdentifiers.Sampling
import PaymentIdentifiers.Session.Run

/-!
# Where identifiers come from

An identifier is read, built from parts, drawn at random, made the test code of another one, or restored from storage.
Each of these ways ends in a text that reading accepts and keeps, so the form of an identifier does not tell its origin.
-/
namespace PaymentIdentifiers

theorem Iban.exists_fromParts_of_ofArguments {country : CountryArgument} {bban : Datum} {x : Iban}
    (h : ofArguments country bban = .ok x) : ∃ c b, fromParts c b = .ok x := by
  unfold ofArguments at h
  split at h
  · cases h
  · split at h
    · cases h
    · rename_i b _
      split at h
      · cases h
      · rename_i c _
        exact ⟨c, b, mapError_eq_ok_iff.1 h⟩

theorem Iban.exists_fromParts_of_sample {countries : List CountryArgument} {d : Draws} {x : Iban}
    (h : sample countries d = .ok x) : ∃ c b, fromParts c b = .ok x := by
  unfold sample at h
  split at h
  · cases h
  · exact ⟨_, _, mapError_eq_ok_iff.1 h⟩

theorem Bic.exists_parse_of_sample {countries : List CountryArgument} {test : Bool} {d : Draws} {x : Bic}
    (h : sample countries test d = .ok x) : ∃ v, parse v = .ok x := by
  unfold sample at h
  split at h
  · cases h
  · exact ⟨_, mapError_eq_ok_iff.1 h⟩

theorem CreditorIdentifier.exists_fromParts_of_ofArguments {country : CountryArgument}
    {businessCode nationalId : Datum} {x : CreditorIdentifier}
    (h : ofArguments country businessCode nationalId = .ok x) : ∃ c b n, fromParts c b n = .ok x := by
  revert h
  fun_cases ofArguments country businessCode nationalId with
  | case1 _ e => nofun
  | case2 _ c b n => exact fun h => ⟨c, b, n, mapError_eq_ok_iff.1 h⟩

/-- The identifiers that are obtained in any number of steps, whatever is passed in and whatever is drawn. -/
inductive Obtained : Identifier → Prop
  | read (k : Kind) (d : Datum) {x : Identifier} (h : k.construct d = .ok x) : Obtained x
  | ibanBuilt (country : CountryArgument) (bban : Datum) {x : Iban} (h : Iban.ofArguments country bban = .ok x) :
      Obtained (.iban x)
  | ibanDrawn (countries : List CountryArgument) (d : Draws) {x : Iban} (h : Iban.sample countries d = .ok x) :
      Obtained (.iban x)
  | creditorBuilt (country : CountryArgument) (businessCode nationalId : Datum) {x : CreditorIdentifier}
      (h : CreditorIdentifier.ofArguments country businessCode nationalId = .ok x) : Obtained (.creditorIdentifier x)
  | bicDrawn (countries : List CountryArgument) (test : Bool) (d : Draws) {x : Bic}
      (h : Bic.sample countries test d = .ok x) : Obtained (.bic x)
  | testCode {x y : Bic} (hx : Obtained (.bic x)) (h : x.asTest = .ok y) : Obtained (.bic y)
  | restored {x y : Identifier} (hx : Obtained x) (h : x.restored = .ok y) : Obtained y

namespace Identifier

theorem isCanonical_of_ibanFromParts {c : CountryRef} {b : Text} {x : Iban} (h : Iban.fromParts c b = .ok x) :
    (iban x).IsCanonical :=
  Kind.isCanonical_of_parse (k := .iban) (map_eq_ok_iff.2 ⟨x, Iban.parse_text_of_fromParts h, rfl⟩)

theorem isCanonical_of_creditorFromParts {c : CountryRef} {b n : Text} {x : CreditorIdentifier}
    (h : CreditorIdentifier.fromParts c b n = .ok x) : (creditorIdentifier x).IsCanonical :=
  Kind.isCanonical_of_parse (k := .creditorIdentifier)
    (map_eq_ok_iff.2 ⟨x, CreditorIdentifier.parse_text_of_fromParts h, rfl⟩)

theorem isCanonical_of_bicParse {v : Text} {x : Bic} (h : Bic.parse v = .ok x) : (bic x).IsCanonical :=
  Kind.isCanonical_of_parse (k := .bic) (map_eq_ok_iff.2 ⟨x, h, rfl⟩)

/-- A test code is the code itself or read from an edited text. -/
theorem isCanonical_of_asTest {x y : Bic} (hx : (bic x).IsCanonical) (h : x.asTest = .ok y) : (bic y).IsCanonical := by
  unfold Bic.asTest at h
  split at h
  · obtain rfl := Except.ok.inj h
    exact hx
  · exact isCanonical_of_bicParse h

/-- Storage gives back the same identifier. -/
theorem IsCanonical.restored_eq {x : Identifier} (h : x.IsCanonical) : x.restored = .ok x := h.rereads

end Identifier

/-- Whatever the way, the outcome is in canonical form. The induction is on the ways one after another, since test codes
and copies are made of identifiers that were obtained before. -/
theorem Obtained.isCanonical {x : Identifier} (h : Obtained x) : x.IsCanonical := by
  induction h with
  | read k d h =>
    obtain ⟨v, -, hv⟩ := Kind.exists_text_of_construct h
    exact Kind.isCanonical_of_parse hv
  | ibanBuilt country bban h =>
    obtain ⟨c, b, hparts⟩ := Iban.exists_fromParts_of_ofArguments h
    exact Identifier.isCanonical_of_ibanFromParts hparts
  | ibanDrawn countries d h =>
    obtain ⟨c, b, hparts⟩ := Iban.exists_fromParts_of_sample h
    exact Identifier.isCanonical_of_ibanFromParts hparts
  | creditorBuilt country businessCode nationalId h =>
    obtain ⟨c, b, n, hparts⟩ := CreditorIdentifier.exists_fromParts_of_ofArguments h
    exact Identifier.isCanonical_of_creditorFromParts hparts
  | bicDrawn countries test d h =>
    obtain ⟨v, hv⟩ := Bic.exists_parse_of_sample h
    exact Identifier.isCanonical_of_bicParse hv
  | testCode hx h ih => exact Identifier.isCanonical_of_asTest ih h
  | restored hx h ih =>
    obtain rfl := Except.ok.inj (ih.restored_eq.symm.trans h)
    exact ih

theorem Iban.parse_text_of_obtained {x : Iban} (h : Obtained (.iban x)) : parse x.text = .ok x := by
  obtain ⟨y, hy, heq⟩ := map_eq_ok_iff.1 h.isCanonical.rereads
  obtain rfl := Identifier.iban.inj heq
  exact hy

theorem CreditorIdentifier.parse_text_of_obtained {x : CreditorIdentifier} (h : Obtained (.creditorIdentifier x)) :
    parse x.text = .ok x := by
  obtain ⟨y, hy, heq⟩ := map_eq_ok_iff.1 h.isCanonical.rereads
  obtain rfl := Identifier.creditorIdentifier.inj heq
  exact hy

theorem Identifier.IsCanonical.construct_eq {x : Identifier} (h : x.IsCanonical) :
    x.kind.construct (.text x.text) = .ok x :=
  Kind.construct_text_eq_ok_iff.2 h.rereads

theorem Identifier.IsCanonical.isValid_eq {x : Identifier} (h : x.IsCanonical) :
    x.kind.isValid (.text x.text) = .quiet true := by
  rw [Kind.isValid, h.construct_eq]

end PaymentIdentifiers
