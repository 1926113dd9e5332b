import PaymentIdentifiers.Arguments
import PaymentIdentifiers.Datum
import PaymentIdentifiers.Identifier

/-!
# Items of a session

A session works on identifiers, patterns, ranges, groups, structures and plain values. An item is written as its
canonical text if it has one, and as its kind with all its fields otherwise.
-/
namespace PaymentIdentifiers.Session

/-- A record of fields, each with its name and its value. -/
def fieldsText (kind : Text) (fields : List (Text × Text)) : Text :=
  kind ++ "(" ++ Text.joined ", " (fields.map fun f => f.1 ++ "=" ++ f.2) ++ ")"

def rangeText (r : Bban.Range) : Text :=
  fieldsText "Range" [("start", Text.ofNat r.start), ("end", Text.ofNat r.stop)]

def className : Swift.CharClass → Text
  | .digits => "DIGITS"
  | .upperLetters => "UPPER_CASE_LETTERS"
  | .alphanumerics => "ALPHANUMERICS"
  | .spaces => "SPACES"

def classText (k : Swift.CharClass) : Text :=
  "<CharacterClass." ++ className k ++ ": (" ++
    Text.joined ", " [Text.quoted [k.qualifier], k.bracket.quoted, k.alphabet.quoted] ++ ")>"

def groupText (g : Swift.Group) : Text :=
  fieldsText "PatternGroup"
    [("characters", classText g.charClass), ("start", Text.ofInt g.start), ("length", Text.ofInt g.length)]

/-- The elements of a set; an empty set is written without braces. -/
def setText (ts : List Text) : Text :=
  if ts.isEmpty then "frozenset()".toList
  else "frozenset(\x7b" ++ Text.joined ", " (ts.map Text.escaped) ++ "\x7d)"

def layoutText (l : Bban.Layout) : Text :=
  let places := Bban.Field.all.map fun f => (f.name, ((l.range f).map rangeText).getD (Datum.shown .missing))
  fieldsText "BbanStructure" <|
    ("country", l.country.escaped) :: ("pattern", l.pattern.debugText) ::
      ("subdivisions", setText l.subdivisions) :: places

inductive Item where
  | identifier (x : Identifier)
  | pattern (p : Swift.Pattern)
  | range (r : Bban.Range)
  | group (g : Swift.Group)
  | layout (l : Bban.Layout)
  | plain (d : Datum)

namespace Item

def kindName : Item → Text
  | identifier (.iban _) => "Iban"
  | identifier (.bic _) => "Bic"
  | identifier (.creditorIdentifier _) => "CreditorIdentifier"
  | identifier (.card _) => "CreditCard"
  | pattern _ => "Pattern"
  | range _ => "Range"
  | group _ => "PatternGroup"
  | layout _ => "BbanStructure"
  | plain d => d.kindName

def text : Item → Text
  | identifier x => x.text
  | pattern p => p.expression
  | range r => rangeText r
  | group g => groupText g
  | layout l => layoutText l
  | plain d => d.display

end Item

/-- What makes an item the same as another one, and not only equal to it. -/
inductive Identity where
  /-- The item of a single step. -/
  | made (n : Nat)
  /-- Patterns are shared by their expression. -/
  | compiled (expression : Text)
  /-- Structures are shared by the registry. -/
  | registered (country : Text)
  /-- A plain value that exists once. -/
  | single (name : Text)
  /-- A plain value that belongs to one mention of it. -/
  | unshared
deriving DecidableEq, Repr

def Identity.same (a b : Identity) : Bool := a == b && a != .unshared

/-- Plain values that exist once: the missing value, truth values, small numbers, and short texts. -/
def existsOnce : Datum → Bool
  | .missing | .truth _ => true
  | .whole n => -5 ≤ n && n ≤ 256
  | .text [] => true
  | .text [c] => c.toNat < 256
  | _ => false

/-- The identity of a plain value as it is mentioned in a step. -/
def Identity.ofPlain (d : Datum) : Identity := if existsOnce d then .single d.shown else .unshared

end PaymentIdentifiers.Session
