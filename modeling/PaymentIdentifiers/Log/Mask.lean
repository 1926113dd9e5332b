import PaymentIdentifiers.Datum
import PaymentIdentifiers.Text.Basic
import PaymentIdentifiers.Text.Word

/-!
# Masking

Words that look like account numbers or card numbers keep only their first and last four characters. Account
words are masked first, then card words in what that leaves.
-/
namespace PaymentIdentifiers.Log

/-- Replaces all but the first and last four characters by asterisks; a text below eight characters stays. -/
def maskEnds (t : Text) : Text :=
  if t.length < 8 then t else t.take 4 ++ List.replicate (t.length - 8) '*' ++ t.takeEnd 4

theorem length_maskEnds (t : Text) : (maskEnds t).length = t.length := by
  unfold maskEnds
  split
  · rfl
  · simp [Text.takeEnd]
    omega

/-- An ASCII letter or a decimal digit of any script. -/
def isAccountChar (c : Char) : Bool := c.isAlpha || Text.isDecimalDigit c

/-- Two letters, two digits and at least eight more letters or digits. -/
def isAccountWord (w : Text) : Bool :=
  Text.fits isAccountChar [Char.isAlpha, Char.isAlpha, Text.isDecimalDigit, Text.isDecimalDigit] w &&
    12 ≤ w.length

/-- Thirteen to nineteen digits. -/
def isCardWord (w : Text) : Bool := Text.lengthIn 13 19 w && w.all Text.isDecimalDigit

/-- Masks the words that pass a test. -/
def maskWords (test : Text → Bool) (t : Text) : Text := Text.mapWords (fun w => if test w then maskEnds w else w) t

def maskText (t : Text) : Text := maskWords isCardWord (maskWords isAccountWord t)

/-- What masking its ends makes of any value: a short list or record stays as it is, and no text is made of a long one. -/
def maskEndsDatum : Datum → Except ArgumentError Datum
  | .text t => .ok (.text (maskEnds t))
  | .list ds => if ds.length < 8 then .ok (.list ds) else .error .notAppendable
  | .record fs => if fs.length < 8 then .ok (.record fs) else .error (.notHashable "slice")
  | d => .error (.notCountable d.kindName)

end PaymentIdentifiers.Log
