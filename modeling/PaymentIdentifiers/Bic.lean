import PaymentIdentifiers.Country
import PaymentIdentifiers.Rejection
import PaymentIdentifiers.Text.Basic

/-!
# Business identifier codes

A BIC names an institution by four letters, its country, a place of two characters and a branch of three. The
branch may be left out for the primary office and is then completed with `XXX`.
-/
namespace PaymentIdentifiers

/-- A business identifier code by its eleven characters. -/
structure Bic where
  text : Text
deriving DecidableEq, Repr

namespace Bic

def primaryOffice : Text := "XXX"

/-- The expression of the test of a form; the three characters of the branch may be left out. -/
def shapeExpression : Text :=
  "[A-Za-z]\x7b4\x7d[A-Za-z]\x7b2\x7d[A-Za-z0-9]\x7b2\x7d([A-Za-z0-9]\x7b3\x7d)?"

/-- Six letters and two or five further letters or digits, all of either case. -/
def hasShape (t : Text) : Bool :=
  Text.fits Char.isAlphanum (List.replicate 6 Char.isAlpha) t && (t.length == 8 || t.length == 11)

def reject (input : Text) (cause : Cause) : Except Rejection Bic := .error ⟨.bic, input, cause⟩

/-- Reads a code; blanks are allowed at both ends only. -/
def parse (input : Text) : Except Rejection Bic :=
  let t := input.trim.asciiUpper
  if !hasShape t then reject input .notWellFormed
  else if (Country.ofAlpha2? (t.slice 4 6)).isNone then reject input .unknownCountry
  else .ok ⟨if t.length = 8 then t ++ primaryOffice else t⟩

def institution (x : Bic) : Text := x.text.take 4
def countryCode (x : Bic) : Text := x.text.slice 4 6
def location (x : Bic) : Text := x.text.slice 6 8
def branch (x : Bic) : Text := x.text.slice 8 11
def isPrimaryOffice (x : Bic) : Bool := x.branch == primaryOffice

/-- A test code has the digit 0 as the second character of its location. -/
def isTest (x : Bic) : Bool := x.text[7]? == some '0'

def isLive (x : Bic) : Bool := !x.isTest

/-- The code with the test mark in its location. -/
def testText (x : Bic) : Text := x.text.take 7 ++ '0' :: x.text.drop 8

/-- The test code that belongs to a code; a test code belongs to itself. -/
def asTest (x : Bic) : Except Rejection Bic := if x.isTest then .ok x else parse x.testText

def debugText (x : Bic) : Text := "Bic(" ++ x.text.quoted ++ ")"

end Bic
end PaymentIdentifiers
