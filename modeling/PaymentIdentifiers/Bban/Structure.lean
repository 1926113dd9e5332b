import PaymentIdentifiers.Bban.Range
import PaymentIdentifiers.Swift.Pattern
import PaymentIdentifiers.Country

/-!
# Structures of national account numbers

A structure is the pattern of a country's account numbers with the places of their sub-fields. It is built from
a row of plain data; of several defects of a row the first in this order is reported: the expression, the four
ranges, then a range that ends behind the pattern.
-/
namespace PaymentIdentifiers.Bban

inductive Field where
  | bank
  | branch
  | nationalCheck
  | account
deriving DecidableEq, Repr

def Field.all : List Field := [bank, branch, nationalCheck, account]

def Field.name : Field → Text
  | bank => "bank_identifier"
  | branch => "branch_identifier"
  | nationalCheck => "national_check_digit"
  | account => "account_number"

structure Layout where
  country : Text
  pattern : Swift.Pattern
  subdivisions : List Text
  bank : Option Range
  branch : Option Range
  nationalCheck : Option Range
  account : Option Range
deriving DecidableEq, Repr

/-- The data of a structure before any check; a range is a pair of bounds. -/
structure Row where
  country : Text
  expression : Text
  bank : Option (Int × Int)
  branch : Option (Int × Int)
  nationalCheck : Option (Int × Int)
  account : Option (Int × Int)
  subdivisions : List Text
deriving DecidableEq, Repr

inductive LayoutError where
  | expression (e : Swift.ExpressionError)
  | range (e : RangeError)
  | exceeds (country : Text) (field : Field) (range : Range) (length : Nat)
  | duplicate (code : Text)
deriving DecidableEq, Repr

def LayoutError.message : LayoutError → Text
  | expression e => e.message
  | range e => e.message
  | exceeds country field r n =>
    country ++ ": " ++ field.name ++ " " ++ r.text ++ " exceeds BBAN length " ++ Text.ofNat n
  | duplicate code => "duplicate BBAN structure for " ++ code

namespace Layout

def range (l : Layout) : Field → Option Range
  | .bank => l.bank
  | .branch => l.branch
  | .nationalCheck => l.nationalCheck
  | .account => l.account

def bbanLength (l : Layout) : Nat := l.pattern.length

/-- Country letters and check digits come before the account number. -/
def ibanLength (l : Layout) : Nat := 2 + 2 + l.pattern.length

def accepts (l : Layout) (bban : Text) : Bool := l.pattern.accepts bban

/-- The test of an arbitrary value: a missing one is an error, any other that is no text is not accepted. -/
def acceptsDatum (l : Layout) : Datum → Except ArgumentError Bool
  | .missing => .error (.required "bban")
  | .text t => .ok (l.accepts t)
  | _ => .ok false

/-- The first field whose range ends behind the pattern. -/
def exceeding? (l : Layout) : Option (Field × Range) :=
  Field.all.findSome? fun f =>
    match l.range f with
    | some r => if l.pattern.length < r.stop then some (f, r) else none
    | none => none

end Layout

/-- An optional range from optional bounds. -/
def rangeOf? : Option (Int × Int) → Except LayoutError (Option Range)
  | none => .ok none
  | some (start, stop) =>
    match Range.ofBounds start stop with
    | .ok r => .ok (some r)
    | .error e => .error (.range e)

/-- Builds the structure of a row; the subdivisions are kept in ascending order. -/
def Row.layout (row : Row) : Except LayoutError Layout :=
  match Swift.Pattern.compile row.expression with
  | .error e => .error (.expression e)
  | .ok pattern => do
    let bank ← rangeOf? row.bank
    let branch ← rangeOf? row.branch
    let nationalCheck ← rangeOf? row.nationalCheck
    let account ← rangeOf? row.account
    let l : Layout :=
      ⟨row.country, pattern, Text.sortDistinct row.subdivisions, bank, branch, nationalCheck, account⟩
    match l.exceeding? with
    | some (f, r) => .error (.exceeds row.country f r pattern.length)
    | none => .ok l

/-- The codes a row is registered under. -/
def Row.codes (row : Row) : List Text := row.country :: row.subdivisions

end PaymentIdentifiers.Bban
