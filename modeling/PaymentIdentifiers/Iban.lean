import PaymentIdentifiers.Bban.Registry
import PaymentIdentifiers.CheckDigits
import PaymentIdentifiers.Rejection

/-!
# International bank account numbers

An IBAN is a country code, two check digits and a national account number in the format of the country. It is
either read from a text, with blanks anywhere and letters in either case, or built from a country and an account
number, for which the check digits are computed. Both ways lead to the canonical text.
-/
namespace PaymentIdentifiers

/-- An international bank account number by its canonical text. -/
structure Iban where
  text : Text
deriving DecidableEq, Repr

namespace Iban

/-- Two upper-case letters, two digits and at least one upper-case letter or digit. -/
def wellFormed (t : Text) : Bool :=
  Text.fits Text.isUpperOrDigit [Char.isUpper, Char.isUpper, Char.isDigit, Char.isDigit] t && 5 ≤ t.length

/-- The expression of the quick test for texts without blanks, which looks neither at the country nor at the check
digits. Its bounds are those of the account numbers of all countries. -/
def shapeExpression : Text := "[A-Za-z]\x7b2\x7d[0-9]\x7b2\x7d[A-Za-z0-9]\x7b11,30\x7d"

/-- Whether a text matches the expression of the quick test. -/
def hasShape (t : Text) : Bool :=
  Text.fits Char.isAlphanum [Char.isAlpha, Char.isAlpha, Char.isDigit, Char.isDigit] t && Text.lengthIn 15 34 t

def reject (input : Text) (cause : Cause) : Except Rejection Iban := .error ⟨.iban, input, cause⟩

/-- Reads an account number; the checks run in the order of `Reason`. -/
def parse (input : Text) : Except Rejection Iban :=
  let t := input.canonical
  let code := t.take 2
  if !wellFormed t then reject input .notWellFormed
  else if (Country.ofAlpha2? code).isNone then reject input .unknownCountry
  else match Bban.layoutOf code with
    | none => reject input (.unsupportedCountry code)
    | some layout =>
      if !layout.accepts (t.drop 4) then reject input (.invalidStructure layout.country)
      else if !CheckDigits.validate t then reject input .incorrectCheckDigit
      else .ok ⟨t⟩

/-- Builds the account number of a country, with its check digits. -/
def fromParts (country : CountryRef) (bban : Text) : Except Rejection Iban :=
  let code := country.alpha2
  if (Country.ofAlpha2? code).isNone then reject code .unknownCountry
  else match Bban.layoutOf code with
    | none => reject bban (.unsupportedCountry code)
    | some layout =>
      let t := bban.canonical
      if !layout.accepts t then reject bban (.invalidStructure layout.country)
      else .ok ⟨code ++ CheckDigits.digitsFor (code ++ "00" ++ t) ++ t⟩

def countryCode (x : Iban) : Text := x.text.take 2
def checkDigits (x : Iban) : Text := x.text.slice 2 4
def bban (x : Iban) : Text := x.text.drop 4
def layout? (x : Iban) : Option Bban.Layout := Bban.layoutOf x.countryCode

/-- A sub-field of the account number, if the country's format has it. -/
def field? (x : Iban) (f : Bban.Field) : Option Text :=
  match x.layout? with
  | some layout => (layout.range f).map fun r => r.slice x.bban
  | none => none

/-- Cuts a text into pieces of four characters, the last one possibly shorter. -/
def inFours : Text → List Text
  | a :: b :: c :: d :: rest => [a, b, c, d] :: inFours rest
  | [] => []
  | rest => [rest]

/-- The account number in groups of four characters with a space between them. -/
def printable (x : Iban) : Text := Text.joined " " (inFours x.text)

def debugText (x : Iban) : Text := "Iban(" ++ x.text.quoted ++ ")"

theorem flatten_inFours (t : Text) : (inFours t).flatten = t := by
  fun_induction inFours t <;> simp_all

end Iban
end PaymentIdentifiers
