import PaymentIdentifiers.Text.Basic

/-!
# Why a text is no identifier

A rejection keeps the text it is about, unchanged, and one cause. Its message never depends on anything else.
-/
namespace PaymentIdentifiers

/-- The kinds of defect, in the order in which the checks run. -/
inductive Reason where
  | notWellFormed
  | unknownCountry
  | unsupportedCountry
  | invalidStructure
  | incorrectCheckDigit
deriving DecidableEq, Repr

namespace Reason

def all : List Reason :=
  [notWellFormed, unknownCountry, unsupportedCountry, invalidStructure, incorrectCheckDigit]

def name : Reason → Text
  | notWellFormed => "not_well_formed"
  | unknownCountry => "unknown_country"
  | unsupportedCountry => "unsupported_country"
  | invalidStructure => "invalid_structure"
  | incorrectCheckDigit => "incorrect_check_digit"

/-- The place of a reason in the order of the checks. -/
def rank (r : Reason) : Nat := all.idxOf r

end Reason

/-- What the text was supposed to be. -/
inductive Subject where
  | identifier
  | iban
  | bic
  | creditorIdentifier
  | cardNumber
deriving DecidableEq, Repr

def Subject.name : Subject → Text
  | identifier => "identifier"
  | iban => "IBAN"
  | bic => "BIC"
  | creditorIdentifier => "creditor identifier"
  | cardNumber => "card number"

def Subject.article : Subject → Text
  | identifier | iban => "an"
  | bic | creditorIdentifier | cardNumber => "a"

/-- A defect with the country it refers to. -/
inductive Cause where
  | notWellFormed
  | unknownCountry
  | unsupportedCountry (country : Text)
  | invalidStructure (country : Text)
  | incorrectCheckDigit
deriving DecidableEq, Repr

def Cause.reason : Cause → Reason
  | notWellFormed => .notWellFormed
  | unknownCountry => .unknownCountry
  | unsupportedCountry _ => .unsupportedCountry
  | invalidStructure _ => .invalidStructure
  | incorrectCheckDigit => .incorrectCheckDigit

structure Rejection where
  subject : Subject
  input : Text
  cause : Cause
deriving DecidableEq, Repr

namespace Rejection

def reason (r : Rejection) : Reason := r.cause.reason

def message (r : Rejection) : Text :=
  match r.cause with
  | .notWellFormed =>
    r.input.quoted ++ " format is not appropriate for " ++ r.subject.article ++ " " ++ r.subject.name
  | .unknownCountry => r.input.quoted ++ " country code is not an ISO 3166-1-alpha-2 code"
  | .unsupportedCountry country => country.quoted ++ " country does not support " ++ r.subject.name
  | .invalidStructure country =>
    r.input.quoted ++ " structure is not valid against the " ++ r.subject.name ++ " structure used in " ++ country
  | .incorrectCheckDigit => r.input.quoted ++ " check digits are incorrect"

end Rejection
end PaymentIdentifiers
