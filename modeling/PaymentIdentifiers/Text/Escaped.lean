import PaymentIdentifiers.Text.PrintableTable

/-!
# Texts written with quotes and escapes

A text inside a list or a record is shown between quotes, double ones if it holds single quotes only, with
backslashes, the quote itself and characters that cannot be shown written as escapes.
-/
namespace PaymentIdentifiers.Text

/-- A number in hexadecimal notation with at least `width` digits. -/
def hex (width n : Nat) : Text := (Nat.toDigits 16 n).leftpad width '0'

/-- The quote that stands around a text. -/
def quoteFor (t : Text) : Char := if t.contains '\'' && !t.contains '"' then '"' else '\''

/-- The escape with the number of a character. -/
def numberEscape (c : Char) : Text :=
  if c.toNat ≤ 0xFF then "\\x" ++ hex 2 c.toNat
  else if c.toNat ≤ 0xFFFF then "\\u" ++ hex 4 c.toNat
  else "\\U" ++ hex 8 c.toNat

def escapeChar (quote c : Char) : Text :=
  if c == quote || c == '\\' then ['\\', c]
  else if c == '\n' then "\\n"
  else if c == '\r' then "\\r"
  else if c == '\t' then "\\t"
  else if isPrintable c then [c]
  else numberEscape c

def escaped (t : Text) : Text :=
  let q := quoteFor t
  q :: t.flatMap (escapeChar q) ++ [q]

/-- A text with escapes for all characters outside ASCII. -/
def asciiOnly (t : Text) : Text := t.flatMap fun c => if c.toNat < 128 then [c] else numberEscape c

end PaymentIdentifiers.Text
