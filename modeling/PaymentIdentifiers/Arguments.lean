import PaymentIdentifiers.Bban.Range
import PaymentIdentifiers.Card
import PaymentIdentifiers.CheckDigits
import PaymentIdentifiers.Datum
import PaymentIdentifiers.Swift.Pattern

/-!
# Operations on arguments of any kind

Tests answer no to a value that is no text, and compilers report it.
-/
namespace PaymentIdentifiers

namespace Swift

/-- The class of a format letter; any other value stands for none. -/
def CharClass.ofDatum? : Datum → Option CharClass
  | .text [c] => ofQualifier? c
  | _ => none

/-- Whether a value is a member; a text of another length than one never is. -/
def CharClass.hasDatum (k : CharClass) : Datum → Except ArgumentError Bool
  | .text [c] => .ok (k.has c)
  | .list ds => .error (.notHashable (Datum.list ds).kindName)
  | .record fs => .error (.notHashable (Datum.record fs).kindName)
  | _ => .ok false

/-- A group from any value in the place of the format letter; one without a class cannot be looked at. -/
def Group.ofArguments (qualifier : Datum) (start length : Int) : Except ArgumentError Group :=
  match CharClass.ofDatum? qualifier with
  | some k => .ok ⟨k, start, length⟩
  | none => .error (.lacks (Datum.kindName .missing) "qualifier")

/-- Why positions of a value cannot be tested. -/
inductive PositionError where
  | outsideText
  | outsideList
  /-- A record has no field whose name is a number. -/
  | noField (i : Int)
  | argument (e : ArgumentError)
deriving DecidableEq, Repr

def PositionError.message : PositionError → Text
  | outsideText => "string index out of range"
  | outsideList => "list index out of range"
  | noField i => Text.ofInt i
  | argument e => e.message

/-- Tests `n` elements of a list from `i` on. -/
def Group.scanList (k : CharClass) (ds : List Datum) : Nat → Int → Except PositionError Bool
  | 0, _ => .ok true
  | n + 1, i =>
    match Text.elementAt? ds i with
    | none => .error .outsideList
    | some d => do
      if ← (k.hasDatum d).mapError .argument then scanList k ds n (i + 1) else return false

/-- Whether a value has members of the class at all positions of the group. -/
def Group.runDatum (g : Group) (d : Datum) : Except PositionError Bool :=
  match d with
  | .text t => (g.run t).elim (.error .outsideText) .ok
  | .list ds => scanList g.charClass ds g.length.toNat g.start
  | .record _ => if g.length ≤ 0 then .ok true else .error (.noField g.start)
  | d => if g.length ≤ 0 then .ok true else .error (.argument (.notSubscriptable d.kindName))

inductive CompileError where
  | argument (e : ArgumentError)
  | expression (e : ExpressionError)
deriving DecidableEq, Repr

def Pattern.ofDatum : Datum → Except CompileError Pattern
  | .text t => (compile t).mapError .expression
  | _ => .error (.argument (.textExpected "expression"))

def Pattern.acceptsDatum (p : Pattern) : Datum → Bool
  | .text t => p.accepts t
  | _ => false

end Swift

/-- The part of a value in a range; only texts and lists have parts. -/
def Bban.Range.sliceDatum (r : Range) : Datum → Except ArgumentError Datum
  | .text t => .ok (.text (r.slice t))
  | .list ds => .ok (.list ((ds.take r.stop).drop r.start))
  | .record _ => .error (.notHashable "slice")
  | d => .error (.notSubscriptable d.kindName)

/-- Upper-cases the ASCII letters of a text. -/
def Text.asciiUpperDatum : Datum → Except ArgumentError Text
  | .text t => .ok t.asciiUpper
  | d => .error (.lacks d.kindName "translate")

namespace CheckDigits

inductive CalculateError where
  | argument (e : ArgumentError)
  | fault (f : Fault)
deriving DecidableEq, Repr

def validateDatum : Datum → Bool
  | .text t => validate t
  | _ => false

def calculateDatum : Datum → Except CalculateError Text
  | .text t => (calculate t).mapError .fault
  | _ => .error (.argument (.textExpected "value"))

end CheckDigits

def Luhn.isValidDatum : Datum → Bool
  | .text t => isValid t
  | _ => false

def Card.issuerForDatum? : Datum → Option Issuer
  | .text t => issuerFor? t
  | _ => none

end PaymentIdentifiers
