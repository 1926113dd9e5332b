import PaymentIdentifiers.Datum
import PaymentIdentifiers.Decimal.Binary

/-!
# Plain values as numbers

Truth values, whole numbers and floating-point numbers are compared by their exact value. Equal numbers have equal
residues, which are what a set is organised by.
-/
namespace PaymentIdentifiers.Session

inductive Number where
  | finite (q : Rat)
  | infinite (negative : Bool)
  | notANumber
deriving DecidableEq

namespace Number

def ofInt (n : Int) : Number := .finite n

/-- The number that a plain value stands for; truth values count as 1 and 0. -/
def ofDatum? : Datum → Option Number
  | .truth b => some (.ofInt (if b then 1 else 0))
  | .whole n => some (.ofInt n)
  | .real x =>
    match Decimal.Binary.ofFloat x with
    | .infinite negative => some (.infinite negative)
    | b => some ((b.rational?.map .finite).getD .notANumber)
  | _ => none

/-- Whether two numbers are equal; what is not a number equals nothing. -/
def equal : Number → Number → Bool
  | finite p, finite q => p == q
  | infinite m, infinite n => m == n
  | _, _ => false

/-- Whether the first of two numbers is smaller. -/
def below : Number → Number → Bool
  | finite p, finite q => p < q
  | infinite m, infinite n => m && !n
  | finite _, infinite n => !n
  | infinite m, finite _ => m
  | _, _ => false

/-- Residues are taken modulo the prime `2 ^ 61 - 1`. -/
def modulus : Nat := 2305843009213693951

/-- The residue of a magnitude; division by two is multiplication by `2 ^ 60`. -/
def magnitudeResidue (q : Rat) : Nat :=
  q.num.natAbs % modulus * Nat.pow 2 (61 - q.den.log2 % 61) % modulus

/-- The residue of a number with its sign; -1 stands for a failure, and -2 takes its place. -/
def residue : Number → Int
  | finite q =>
    let n : Int := if q < 0 then -(magnitudeResidue q : Int) else magnitudeResidue q
    if n = -1 then -2 else n
  | infinite negative => if negative then -314159 else 314159
  | notANumber => 0

end Number
end PaymentIdentifiers.Session
