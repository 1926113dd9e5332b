import PaymentIdentifiers.Text.Basic
import PaymentIdentifiers.Text.CaseTable

/-!
# Lower case

Full Unicode lower-casing. One letter, the dotted capital I, becomes two characters; a capital sigma takes its
final form behind a letter and before none, where marks and the like are skipped on both sides.
-/
namespace PaymentIdentifiers.Text

/-- The partner of a letter in a run, if the letter belongs to it. -/
def CaseRun.partner? (r : CaseRun) (n : Nat) : Option Char :=
  if r.first ≤ n ∧ n ≤ r.last ∧ (n - r.first) % r.step = 0 then some (Char.ofNat (n + r.shift).toNat) else none

/-- The lower case of a character by itself. -/
def lowerChar (c : Char) : Text :=
  if c.toNat < 128 then [c.toLower]
  else if c == '\u0130' then ['i', '\u0307']
  else [(upperRuns.findSome? fun r => (caseRun r).partner? c.toNat).getD c]

/-- A letter that has a case. -/
def isCased (c : Char) : Bool := if c.toNat < 128 then c.isAlpha else inRanges foreignCased c

/-- A character that is skipped when the surroundings of a letter are looked at. -/
def isSkipped (c : Char) : Bool :=
  if c.toNat < 128 then "'.:^`".toList.contains c else inRanges foreignSkipped c

/-- Whether the first character that is not skipped has a case. -/
def startsCased (t : Text) : Bool :=
  match t.dropWhile isSkipped with
  | [] => false
  | c :: _ => isCased c

/-- Lower-cases a text; `before` is what stands before it, in reverse. -/
def lowerAfter (before : Text) : Text → Text
  | [] => []
  | c :: t =>
    (if c == 'Σ' then [if startsCased before && !startsCased t then 'ς' else 'σ'] else lowerChar c) ++
      lowerAfter (c :: before) t

def lower (t : Text) : Text := lowerAfter [] t

/-- The form in which column names are compared. -/
def folded (t : Text) : Text := lower (trim t)

end PaymentIdentifiers.Text
