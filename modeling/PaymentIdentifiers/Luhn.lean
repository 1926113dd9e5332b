import PaymentIdentifiers.Text.Basic

/-!
# The Luhn checksum

Counted from the right, every second digit is doubled, and a two-digit double counts as the sum of its digits.
A number passes when the total is a multiple of ten.
-/
namespace PaymentIdentifiers.Luhn

def digit (c : Char) : Nat := c.toNat - 48

/-- What a doubled digit adds to the total. -/
def doubled (n : Nat) : Nat := if 9 < 2 * n then 2 * n - 9 else 2 * n

/-- The total of digits listed from the right; `twice` says whether the first of them is doubled. -/
def total : Bool → List Nat → Nat
  | _, [] => 0
  | twice, n :: ns => (if twice then doubled n else n) + total (!twice) ns

/-- Whether a text is a row of ASCII digits that passes the checksum. -/
def isValid (t : Text) : Bool :=
  !t.isEmpty && t.all Char.isDigit && total false (t.reverse.map digit) % 10 == 0

theorem total_append (twice : Bool) (ms ns : List Nat) :
    total twice (ms ++ ns) = total twice ms + total (if ms.length % 2 = 0 then twice else !twice) ns := by
  induction ms generalizing twice with
  | nil => simp [total]
  | cons m ms ih =>
    rcases Nat.mod_two_eq_zero_or_one ms.length with h | h
    · have hs : (ms.length + 1) % 2 = 1 := by omega
      cases twice <;> simp [total, ih, h, hs, Nat.add_assoc]
    · have hs : (ms.length + 1) % 2 = 0 := by omega
      cases twice <;> simp [total, ih, h, hs, Nat.add_assoc]

end PaymentIdentifiers.Luhn
