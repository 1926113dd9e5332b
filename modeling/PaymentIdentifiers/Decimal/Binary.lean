/-!
# Floating-point numbers as exact fractions

A finite 64-bit number is its sign and a natural number times a power of two. The fraction and the interval of
reals that are rounded to it are kept in exact arithmetic; `Binary.nearest` is the way back.
-/
namespace PaymentIdentifiers.Decimal

/-- A non-negative fraction; the denominator is never zero. -/
structure Fraction where
  num : Nat
  den : Nat
deriving DecidableEq, Repr

namespace Fraction

/-- The fraction `n * 2 ^ e`. -/
def scaled (n : Nat) (e : Int) : Fraction :=
  if 0 ≤ e then ⟨n * Nat.pow 2 e.toNat, 1⟩ else ⟨n, Nat.pow 2 (-e).toNat⟩

/-- The fraction multiplied by a power of ten. -/
def shift (f : Fraction) (e : Int) : Fraction :=
  if 0 ≤ e then ⟨f.num * Nat.pow 10 e.toNat, f.den⟩ else ⟨f.num, f.den * Nat.pow 10 (-e).toNat⟩

/-- The fraction multiplied by a power of two. -/
def shiftBits (f : Fraction) (e : Int) : Fraction :=
  if 0 ≤ e then ⟨f.num * Nat.pow 2 e.toNat, f.den⟩ else ⟨f.num, f.den * Nat.pow 2 (-e).toNat⟩

/-- The quotient of the fraction, rounded to the nearest natural number, a half to the even neighbour. -/
def round (f : Fraction) : Nat :=
  let q := f.num / f.den
  let twice := 2 * (f.num % f.den)
  if twice < f.den then q
  else if twice = f.den then q + q % 2
  else q + 1

/-- The exponent of the leading binary digit of a positive fraction. -/
def leadingBit (f : Fraction) : Int :=
  let e : Int := (f.num.log2 : Int) - f.den.log2
  let g := f.shiftBits (-e)
  if g.den ≤ g.num then e else e - 1

/-- The exponent of the leading decimal digit of a positive fraction. -/
def leadingExponent (f : Fraction) : Int :=
  if f.den ≤ f.num then (Nat.toDigits 10 (f.num / f.den)).length - 1
  else -((Nat.toDigits 10 ((f.den + f.num - 1) / f.num - 1)).length : Int)

end Fraction

inductive Binary where
  | notANumber
  | infinite (negative : Bool)
  /-- The number `mantissa * 2 ^ exponent` with its sign. -/
  | finite (negative : Bool) (mantissa : Nat) (exponent : Int)
deriving DecidableEq, Repr

namespace Binary

/-- Reads the sign, the exponent and the fraction from 64 bits. -/
def ofBits (bits : Nat) : Binary :=
  let negative : Bool := bits / Nat.pow 2 63 % 2 == 1
  let biased : Nat := bits / Nat.pow 2 52 % Nat.pow 2 11
  let fraction : Nat := bits % Nat.pow 2 52
  if biased = 2047 then if fraction = 0 then .infinite negative else .notANumber
  else if biased = 0 then .finite negative fraction (-1074)
  else .finite negative (Nat.pow 2 52 + fraction) ((biased : Int) - 1075)

def ofFloat (x : Float) : Binary := .ofBits x.toBits.toNat

/-- The 64 bits of a number whose mantissa and exponent are those of `ofBits`. -/
def toBits : Binary → Nat
  | notANumber => 2047 * Nat.pow 2 52 + Nat.pow 2 51
  | infinite negative => negative.toNat * Nat.pow 2 63 + 2047 * Nat.pow 2 52
  | finite negative m e =>
    negative.toNat * Nat.pow 2 63 +
      if m < Nat.pow 2 52 then m else (e + 1075).toNat * Nat.pow 2 52 + (m - Nat.pow 2 52)

def toFloat (b : Binary) : Float := Float.ofBits b.toBits.toUInt64

/-- The number nearest to a fraction, a half to the even mantissa; it is infinite from half a step above the greatest
finite number on. -/
def nearest (negative : Bool) (f : Fraction) : Binary :=
  if f.num = 0 then .finite negative 0 (-1074)
  else
    let e := max (f.leadingBit - 52) (-1074)
    let m := (f.shiftBits (-e)).round
    let (m, e) := if m = Nat.pow 2 53 then (Nat.pow 2 52, e + 1) else (m, e)
    if 971 < e then .infinite negative else .finite negative m e

/-- The number nearest to a whole number. -/
def ofInt (n : Int) : Binary := nearest (n < 0) ⟨n.natAbs, 1⟩

/-- The number nearest to `n * 10 ^ e`. -/
def ofDecimal (negative : Bool) (n : Nat) (e : Int) : Binary := nearest negative (Fraction.shift ⟨n, 1⟩ e)

/-- The exact value of a number; there is none for numbers that are not finite. -/
def rational? : Binary → Option Rat
  | finite negative m e =>
    let f := Fraction.scaled m e
    some (if negative then -mkRat f.num f.den else mkRat f.num f.den)
  | _ => none

end Binary
end PaymentIdentifiers.Decimal
