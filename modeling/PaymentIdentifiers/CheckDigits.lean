import PaymentIdentifiers.Text.Basic

/-!
# Check digits modulo 97

A value has two country letters, two check digits and a body. Its number is read from the body followed by the
first four characters, a letter standing for its two-digit value from 10 to 35, and has to leave the remainder
one modulo 97. The running total is reduced as soon as it has more than nine digits, so it stays small for
values of any length. The pairs 00, 01 and 99 have the remainders of 97, 98 and 02 and are never in use.
-/
namespace PaymentIdentifiers.CheckDigits

/-- The value of an ASCII letter or digit in base 36, letters of either case alike. -/
def digitValue (c : Char) : Nat :=
  if c.isDigit then c.toNat - 48 else if c.isUpper then c.toNat - 55 else c.toNat - 87

/-- The largest total that is kept without reduction. -/
def maxTotal : Nat := 999999999

/-- Appends the decimal digits of a character to the total. -/
def extend (total : Nat) (c : Char) : Nat :=
  total * (if 9 < digitValue c then 100 else 10) + digitValue c

def absorb (total : Nat) (c : Char) : Nat :=
  if maxTotal < extend total c then extend total c % 97 else extend total c

/-- The order in which the characters enter the number: the body first. -/
def rotate (value : Text) : Text := value.drop 4 ++ value.take 4

/-- The remainder of the number of a value. -/
def remainder (value : Text) : Nat := (rotate value).foldl absorb 0 % 97

/-- The first character, in reading order, that is no ASCII letter or digit. -/
def foreign? (value : Text) : Option Char := (rotate value).find? fun c => !c.isAlphanum

def reserved : List Text := ["00", "01", "99"]

/-- Whether a value carries the check digits that belong to it. -/
def validate (value : Text) : Bool :=
  4 < value.length && !reserved.contains (value.slice 2 4) && (foreign? value).isNone && remainder value == 1

/-- The value with 00 in the place of its check digits. -/
def blankOut (value : Text) : Text := value.take 2 ++ "00" ++ value.drop 4

/-- A number below 100 with two digits. -/
def twoDigits (n : Nat) : Text := (Text.ofNat n).leftpad 2 '0'

/-- The check digits for the country letters and the body of a value. -/
def digitsFor (value : Text) : Text := twoDigits (98 - remainder (blankOut value))

inductive Fault where
  | tooShort
  | notAlphanumeric (c : Char)
deriving DecidableEq, Repr

def Fault.message : Fault → Text
  | .tooShort => "the value argument size must be greater than 4"
  | .notAlphanumeric c => Text.quoted [c] ++ " is not an alphanumeric character"

/-- The check digits of a value; the characters in their place are ignored. -/
def calculate (value : Text) : Except Fault Text :=
  if value.length ≤ 4 then .error .tooShort
  else match foreign? (blankOut value) with
    | some c => .error (.notAlphanumeric c)
    | none => .ok (digitsFor value)

theorem digitValue_lt {c : Char} (h : c.isAlphanum = true) : digitValue c < 36 := by
  have ha := Text.isAlphanum_iff.1 h
  by_cases hd : c.isDigit = true
  · have := Text.isDigit_iff.1 hd
    simp only [digitValue, if_pos hd]
    omega
  · by_cases hu : c.isUpper = true
    · have := Text.isUpper_iff.1 hu
      simp only [digitValue, if_neg hd, if_pos hu]
      omega
    · simp only [digitValue, if_neg hd, if_neg hu]
      rw [Text.isDigit_iff] at hd
      rw [Text.isUpper_iff] at hu
      omega

theorem absorb_le (total : Nat) (c : Char) : absorb total c ≤ maxTotal := by
  unfold absorb
  split
  · have := Nat.mod_lt (extend total c) (show 0 < 97 by decide)
    simp only [maxTotal]
    omega
  · omega

theorem absorb_mod (total : Nat) (c : Char) : absorb total c % 97 = extend total c % 97 := by
  unfold absorb
  split <;> simp

end PaymentIdentifiers.CheckDigits
