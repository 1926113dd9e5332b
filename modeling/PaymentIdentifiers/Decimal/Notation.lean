import PaymentIdentifiers.Decimal.Binary
import PaymentIdentifiers.Text.Basic

/-!
# Numbers in decimal notation

A magnitude is given by its decimal digits and the exponent of the first one. It is written in positional notation or
with one digit before the point and an exponent. `shortest` writes the fewest digits that are read back as the same
number, in positional notation from 1e-4 up to 1e16 and with an exponent otherwise. A `Rounding` writes the exact value
rounded to so many places behind the point, or to so many digits, a half to the even neighbour.
-/
namespace PaymentIdentifiers.Decimal

/-- Puts the point between the whole and the fractional digits; without the latter it is written only on demand. -/
def pointed (keepPoint : Bool) (whole fraction : Text) : Text :=
  whole ++ if fraction.isEmpty && !keepPoint then [] else '.' :: fraction

/-- The digits before and behind the point, filled up with zeros; `lead` is the exponent of the first digit. -/
def atPoint (digits : Text) (lead : Int) : Text × Text :=
  if lead < 0 then (['0'], List.replicate (-lead - 1).toNat '0' ++ digits)
  else (digits.take (lead.toNat + 1) ++ List.replicate (lead.toNat + 1 - digits.length) '0',
    digits.drop (lead.toNat + 1))

/-- Positional notation. -/
def positional (keepPoint : Bool) (digits : Text) (lead : Int) : Text :=
  pointed keepPoint (atPoint digits lead).1 (atPoint digits lead).2

/-- One digit before the point and an exponent of at least two digits. -/
def scientific (keepPoint : Bool) (digits : Text) (lead : Int) : Text :=
  pointed keepPoint (digits.take 1) (digits.drop 1) ++
    (if lead < 0 then ['e', '-'] else ['e', '+']) ++ (Text.ofNat lead.natAbs).leftpad 2 '0'

/-- The digits without zeros at the end. -/
def trimZeros (digits : Text) : Text := (digits.reverse.dropWhile (· == '0')).reverse

def sign (negative : Bool) : Text := if negative then ['-'] else []

/-! ### The shortest text -/

/-- The reals that are rounded to a number, by their ends; the ends belong to them when `closed` is true. -/
structure Interval where
  low : Fraction
  high : Fraction
  closed : Bool

/-- The interval of `m * 2 ^ q`; the gap below a power of two is half as wide. -/
def interval (m : Nat) (q : Int) : Interval :=
  let below := if m = Nat.pow 2 52 ∧ -1074 < q then 1 else 2
  ⟨.scaled (4 * m - below) (q - 2), .scaled (4 * m + 2) (q - 2), m % 2 == 0⟩

/-- Whether `k * 10 ^ e` lies in the interval. -/
def Interval.contains (i : Interval) (k : Nat) (e : Int) : Bool :=
  let x := Fraction.shift ⟨k, 1⟩ e
  let l := i.low.num * x.den
  let r := x.num * i.low.den
  let l' := x.num * i.high.den
  let r' := i.high.num * x.den
  if i.closed then l ≤ r && l' ≤ r' else l < r && l' < r'

/-- Of the two neighbours with `n` digits, the one in the interval; of two the nearer. -/
def neighbour? (v : Fraction) (i : Interval) (lead : Int) (n : Nat) : Option (Nat × Int) :=
  let e := lead - n + 1
  let x := v.shift (-e)
  let k := x.num / x.den
  match i.contains k e, i.contains (k + 1) e with
  | true, true => some (x.round, e)
  | true, false => some (k, e)
  | false, true => some (k + 1, e)
  | false, false => none

/-- The shortest decimal `k * 10 ^ e` for a positive number; seventeen digits always suffice. -/
def shortestDigits (m : Nat) (q : Int) : Nat × Int :=
  let v := Fraction.scaled m q
  let lead := v.leadingExponent
  let i := interval m q
  ((List.range 17).findSome? fun n => neighbour? v i lead (n + 1)).getD (m, q)

def shortestMagnitude (m : Nat) (q : Int) : Text :=
  if m = 0 then "0.0"
  else
    let (k, e) := shortestDigits m q
    let digits := Text.ofNat k
    let lead := e + digits.length - 1
    let digits := trimZeros digits
    if -4 ≤ lead ∧ lead < 16 then
      let (whole, fraction) := atPoint digits lead
      pointed true whole (if fraction.isEmpty then ['0'] else fraction)
    else scientific false digits lead

/-- The shortest text that is read back as the same number. -/
def shortest (x : Float) : Text :=
  match Binary.ofFloat x with
  | .notANumber => "nan"
  | .infinite negative => sign negative ++ "inf".toList
  | .finite negative m q => sign negative ++ shortestMagnitude m q

/-! ### Texts of a given length -/

inductive Style where
  /-- So many places behind the point. -/
  | fixed
  /-- One digit before the point, so many places behind it, and an exponent. -/
  | exponential
  /-- So many digits; positional unless the exponent is below -4 or reaches that number. Zeros at the end go. -/
  | general
deriving DecidableEq, Repr

/-- How a number is rounded and written; `keepPoint` keeps the point and the zeros that could go. -/
structure Rounding where
  style : Style
  places : Nat
  keepPoint : Bool
deriving DecidableEq, Repr

/-- A magnitude rounded to `n` digits, with the exponent of the first one. -/
def significant (n m : Nat) (q : Int) : Text × Int :=
  if m = 0 then (List.replicate n '0', 0)
  else
    let v := Fraction.scaled m q
    let lead := v.leadingExponent
    let digits := Text.ofNat (v.shift (n - 1 - lead)).round
    if n < digits.length then (digits.take n, lead + 1) else (digits, lead)

namespace Rounding

def fixedMagnitude (r : Rounding) (m : Nat) (q : Int) : Text :=
  let digits := (Text.ofNat ((Fraction.scaled m q).shift r.places).round).leftpad (r.places + 1) '0'
  let whole := digits.length - r.places
  pointed r.keepPoint (digits.take whole) (digits.drop whole)

def exponentialMagnitude (r : Rounding) (m : Nat) (q : Int) : Text :=
  let (digits, lead) := significant (r.places + 1) m q
  scientific r.keepPoint digits lead

def generalMagnitude (r : Rounding) (m : Nat) (q : Int) : Text :=
  let length := max r.places 1
  let (digits, lead) := significant length m q
  let digits := if r.keepPoint then digits else trimZeros digits
  if -4 ≤ lead ∧ lead < length then positional r.keepPoint digits lead else scientific r.keepPoint digits lead

def magnitude (r : Rounding) (m : Nat) (q : Int) : Text :=
  match r.style with
  | .fixed => r.fixedMagnitude m q
  | .exponential => r.exponentialMagnitude m q
  | .general => r.generalMagnitude m q

/-- The text of a number. -/
def text (r : Rounding) : Binary → Text
  | .notANumber => "nan"
  | .infinite negative => sign negative ++ "inf".toList
  | .finite negative m q => sign negative ++ r.magnitude m q

end Rounding

end PaymentIdentifiers.Decimal
