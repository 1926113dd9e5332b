import PaymentIdentifiers.Text.Basic

/-!
# Character classes of account number formats

A format letter stands for a class of ASCII characters: `n` for digits, `a` for upper-case letters, `c` for
letters and digits, `e` for the space. The members of a class are exactly the characters of its alphabet.
-/
namespace PaymentIdentifiers.Swift

inductive CharClass where
  | digits
  | upperLetters
  | alphanumerics
  | spaces
deriving DecidableEq, Repr

namespace CharClass

def qualifier : CharClass → Char
  | digits => 'n'
  | upperLetters => 'a'
  | alphanumerics => 'c'
  | spaces => 'e'

def ofQualifier? : Char → Option CharClass
  | 'n' => some digits
  | 'a' => some upperLetters
  | 'c' => some alphanumerics
  | 'e' => some spaces
  | _ => none

@[simp] theorem ofQualifier?_qualifier (k : CharClass) : ofQualifier? k.qualifier = some k := by
  cases k <;> rfl

def digitChars : Text := "0123456789"
def lowerChars : Text := "abcdefghijklmnopqrstuvwxyz"
def upperChars : Text := "ABCDEFGHIJKLMNOPQRSTUVWXYZ"

/-- The members of a class in the order in which random choices number them. -/
def alphabet : CharClass → Text
  | digits => digitChars
  | upperLetters => upperChars
  | alphanumerics => digitChars ++ lowerChars ++ upperChars
  | spaces => " "

/-- The class written as a bracket expression. -/
def bracket : CharClass → Text
  | digits => "[0-9]"
  | upperLetters => "[A-Z]"
  | alphanumerics => "[A-Za-z0-9]"
  | spaces => "[ ]"

def has : CharClass → Char → Bool
  | digits, c => c.isDigit
  | upperLetters, c => c.isUpper
  | alphanumerics, c => c.isAlphanum
  | spaces, c => c == ' '

theorem has_of_mem_alphabet {k : CharClass} {c : Char} (h : c ∈ k.alphabet) : k.has c = true := by
  have hall : k.alphabet.all k.has = true := by
    cases k <;> decide +kernel
  exact List.all_eq_true.1 hall c h

end CharClass
end PaymentIdentifiers.Swift
