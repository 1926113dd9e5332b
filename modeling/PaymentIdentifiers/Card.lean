import PaymentIdentifiers.Luhn
import PaymentIdentifiers.Rejection
import PaymentIdentifiers.Text.Basic

/-!
# Payment cards

A card number tells its issuer by its first digits and its length: a Visa number has 13 or 16 digits and begins
with 4, a Mastercard number has 16 and begins with 51 to 55. Blanks and hyphens are only for reading and are
dropped. A number is accepted when it also passes the Luhn checksum.
-/
namespace PaymentIdentifiers

inductive Issuer where
  | visa
  | mastercard
deriving DecidableEq, Repr

def Issuer.name : Issuer → Text
  | visa => "Visa"
  | mastercard => "Mastercard"

structure Card where
  number : Text
  issuer : Issuer
deriving DecidableEq, Repr

namespace Card

/-- A character that only separates groups of digits. -/
def isSeparator (c : Char) : Bool := Text.isBlank c || c == '-'

def compact (t : Text) : Text := t.filter fun c => !isSeparator c

/-- The issuer of a compact number from its beginning and its length, without the checksum. -/
def issuerOf? (number : Text) : Option Issuer :=
  if !number.all Char.isDigit then none
  else match number with
    | '4' :: _ => if number.length = 13 ∨ number.length = 16 then some .visa else none
    | '5' :: d :: _ => if '1' ≤ d ∧ d ≤ '5' ∧ number.length = 16 then some .mastercard else none
    | _ => none

/-- The issuer of a number with separators. -/
def issuerFor? (t : Text) : Option Issuer := issuerOf? (compact t)

def reject (input : Text) (cause : Cause) : Except Rejection Card := .error ⟨.cardNumber, input, cause⟩

def parse (input : Text) : Except Rejection Card :=
  let number := compact input
  match issuerOf? number with
  | none => reject input .notWellFormed
  | some issuer =>
    if !Luhn.isValid number then reject input .incorrectCheckDigit else .ok ⟨number, issuer⟩

/-- Shows the issuer and the last four digits, never the whole number. -/
def debugText (x : Card) : Text :=
  "CreditCard(" ++ x.issuer.name ++ ", " ++ Text.quoted ("..." ++ x.number.takeEnd 4) ++ ")"

end Card
end PaymentIdentifiers
