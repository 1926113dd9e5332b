import PaymentIdentifiers.Proofs.Text.Decimal
import Mathlib.Computability.RegularExpressions

/-!
# Regular expressions over characters

A class of characters as an expression, and a row of characters of one class. Both are given by a list of the members.
-/
namespace PaymentIdentifiers.Text

variable {cs t : Text} {c : Char}

/-- One character of a class. -/
def oneOf (cs : Text) : RegularExpression Char := (cs.map .char).sum

theorem mem_oneOf_iff : t ∈ (oneOf cs).matches' ↔ ∃ c ∈ cs, t = [c] := by
  induction cs with
  | nil => simp [oneOf]
  | cons d cs ih =>
    have hcons : oneOf (d :: cs) = .char d + oneOf cs := List.sum_cons
    rw [hcons, RegularExpression.matches'_add, Language.mem_add, ih, RegularExpression.matches'_char]
    simp only [List.mem_cons, exists_eq_or_imp]
    rfl

theorem mem_oneOf_pow_iff {n : Nat} : t ∈ (oneOf cs ^ n).matches' ↔ t.length = n ∧ ∀ c ∈ t, c ∈ cs := by
  rw [RegularExpression.matches'_pow]
  induction n generalizing t with
  | zero =>
    rw [pow_zero, Language.mem_one, List.length_eq_zero_iff]
    exact ⟨fun h => ⟨h, by simp [h]⟩, And.left⟩
  | succ n ih =>
    simp only [pow_succ', Language.mem_mul, mem_oneOf_iff, ih]
    constructor
    · rintro ⟨_, ⟨c, hc, rfl⟩, u, ⟨rfl, hu⟩, rfl⟩
      exact ⟨rfl, List.forall_mem_cons.2 ⟨hc, hu⟩⟩
    · rintro ⟨hlen, hall⟩
      cases t with
      | nil => contradiction
      | cons c u =>
        obtain ⟨hc, hu⟩ := List.forall_mem_cons.1 hall
        exact ⟨[c], ⟨c, hc, rfl⟩, u, ⟨Nat.succ.inj hlen, hu⟩, rfl⟩

theorem mem_char_mul_iff {d : Char} {r : RegularExpression Char} :
    t ∈ (.char d * r : RegularExpression Char).matches' ↔ ∃ u ∈ r.matches', t = d :: u := by
  rw [RegularExpression.matches'_mul, Language.mem_mul, RegularExpression.matches'_char]
  constructor
  · rintro ⟨_, rfl, u, hu, rfl⟩
    exact ⟨u, hu, rfl⟩
  · rintro ⟨u, hu, rfl⟩
    exact ⟨[d], rfl, u, hu, rfl⟩

/-- A class whose members follow one another. -/
theorem mem_iff_of_toNat {first n : Nat} (h : cs.map Char.toNat = List.range' first n) :
    c ∈ cs ↔ first ≤ c.toNat ∧ c.toNat < first + n := by
  rw [← List.mem_range'_1, ← h, List.mem_map_of_injective fun _ _ => Char.toNat_inj.1]

def decimals : Text := "0123456789"

theorem mem_decimals_iff : c ∈ decimals ↔ c.isDigit = true := by
  have hcodes : decimals.map Char.toNat = List.range' 48 10 := by decide
  rw [mem_iff_of_toNat hcodes, isDigit_iff]
  omega

theorem mem_decimals_pow_iff {n : Nat} : t ∈ (oneOf decimals ^ n).matches' ↔ t.length = n ∧ AllDigits t := by
  rw [mem_oneOf_pow_iff, AllDigits]
  simp only [mem_decimals_iff]

end PaymentIdentifiers.Text
