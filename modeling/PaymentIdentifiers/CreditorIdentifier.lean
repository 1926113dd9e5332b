import PaymentIdentifiers.Agreement
import PaymentIdentifiers.CheckDigits
import PaymentIdentifiers.Rejection

/-!
# Creditor identifiers

A creditor of the single euro payments area is named by a country code, two check digits, a business code of
three characters and a national identifier. The business code is the creditor's own choice and does not enter
the check digits.
-/
namespace PaymentIdentifiers

/-- A creditor identifier by its canonical text. -/
structure CreditorIdentifier where
  text : Text
deriving DecidableEq, Repr

namespace CreditorIdentifier

def defaultBusinessCode : Text := "ZZZ"

/-- The expression of the test of a form, with the business code between the check digits and the national part. -/
def shapeExpression : Text :=
  "[A-Za-z]\x7b2\x7d[0-9]\x7b2\x7d[A-Za-z0-9]\x7b3\x7d[A-Za-z0-9]\x7b1,28\x7d"

/-- Two letters, two digits and four to thirty-one letters or digits, all of either case. -/
def hasShape (t : Text) : Bool :=
  Text.fits Char.isAlphanum [Char.isAlpha, Char.isAlpha, Char.isDigit, Char.isDigit] t && Text.lengthIn 8 35 t

def isBusinessCode (t : Text) : Bool := t.length == 3 && t.all Text.isUpperOrDigit

/-- The characters that the check digits are computed from. -/
def withoutBusinessCode (t : Text) : Text := t.take 4 ++ t.drop 7

/-- What is wrong with a country, if anything. -/
def countryFault? (code : Text) : Option Cause :=
  if (Country.ofAlpha2? code).isNone then some .unknownCountry
  else if !Agreement.singleEuroPaymentsArea.includes (.code code) then some (.unsupportedCountry code)
  else none

def reject (input : Text) (cause : Cause) : Except Rejection CreditorIdentifier :=
  .error ⟨.creditorIdentifier, input, cause⟩

/-- Reads an identifier, with blanks anywhere and letters in either case. -/
def parse (input : Text) : Except Rejection CreditorIdentifier :=
  let t := input.canonical
  if !hasShape t then reject input .notWellFormed
  else match countryFault? (t.take 2) with
    | some cause => reject input cause
    | none =>
      if !CheckDigits.validate (withoutBusinessCode t) then reject input .incorrectCheckDigit
      else .ok ⟨t⟩

/-- Builds an identifier with its check digits. -/
def fromParts (country : CountryRef) (businessCode nationalId : Text) : Except Rejection CreditorIdentifier :=
  let code := country.alpha2
  let business := businessCode.canonical
  let national := nationalId.canonical
  let assembled := code ++ "00" ++ business ++ national
  if !isBusinessCode business then reject businessCode .notWellFormed
  else if !hasShape assembled then reject nationalId .notWellFormed
  else match countryFault? code with
    | some cause => reject nationalId cause
    | none => .ok ⟨code ++ CheckDigits.digitsFor (withoutBusinessCode assembled) ++ business ++ national⟩

def countryCode (x : CreditorIdentifier) : Text := x.text.take 2
def checkDigits (x : CreditorIdentifier) : Text := x.text.slice 2 4
def businessCode (x : CreditorIdentifier) : Text := x.text.slice 4 7
def nationalId (x : CreditorIdentifier) : Text := x.text.drop 7

def debugText (x : CreditorIdentifier) : Text := "CreditorIdentifier(" ++ x.text.quoted ++ ")"

end CreditorIdentifier
end PaymentIdentifiers
