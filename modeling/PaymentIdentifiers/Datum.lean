import PaymentIdentifiers.Decimal.Notation
import PaymentIdentifiers.Text.Escaped

/-!
# Argument values

Entry points that are called with arbitrary values take a `Datum`. An argument of the wrong kind is an
`ArgumentError`, which is kept apart from the rejection of a text. `Datum.shown` writes a value so that its kind is
visible, and `Datum.display` does the same but writes a text as it is.
-/
namespace PaymentIdentifiers

inductive Datum where
  | missing
  | truth (b : Bool)
  | whole (n : Int)
  | real (x : Float)
  | text (t : Text)
  | list (ds : List Datum)
  | record (fields : List (Text × Datum))
deriving Inhabited

/-- The word for the kind of a value in messages. -/
def Datum.kindName : Datum → Text
  | missing => "NoneType"
  | truth _ => "bool"
  | whole _ => "int"
  | real _ => "float"
  | text _ => "str"
  | list _ => "list"
  | record _ => "dict"

inductive ArgumentError where
  /-- A required argument is missing. -/
  | required (argument : Text)
  /-- An argument has to be a text; the kind of value is reported. -/
  | notText (argument : Text) (kind : Text)
  /-- An argument has to be a text, and the kind of value is not reported. -/
  | textExpected (argument : Text)
  | notCountry (kind : Text)
  /-- Only a text can be searched for blanks. -/
  | notSearchable (kind : Text)
  /-- Values of a kind do not have an operation. -/
  | lacks (kind operation : Text)
  /-- Lists and records are members of no set. -/
  | notHashable (kind : Text)
  /-- Only texts and lists have positions. -/
  | notSubscriptable (kind : Text)
  /-- Only texts, lists and records have a length. -/
  | notCountable (kind : Text)
  /-- A text cannot be appended to a list. -/
  | notAppendable
  /-- A path has to be a text. -/
  | notPath (kind : Text)
deriving DecidableEq, Repr

def ArgumentError.message : ArgumentError → Text
  | required a => "the " ++ a ++ " argument cannot be None"
  | notText a k => "the " ++ a ++ " argument must be a string, got " ++ k
  | textExpected a => "the " ++ a ++ " argument must be a string"
  | notCountry k => "expected an iso3166.Country or an alpha-2 code, got " ++ k
  | notSearchable k => "expected string or bytes-like object, got " ++ k.quoted
  | lacks k operation => k.quoted ++ " object has no attribute " ++ operation.quoted
  | notSubscriptable k => k.quoted ++ " object is not subscriptable"
  | notCountable k => "object of type " ++ k.quoted ++ " has no len()"
  | notAppendable => "can only concatenate list (not " ++ ['"'] ++ "str" ++ ['"'] ++ ") to list"
  | notPath k => "expected str, bytes or os.PathLike object, not " ++ k
  | notHashable k => "unhashable type: " ++ k.quoted

namespace Datum

/-- The text of a required text argument. -/
def requireText (argument : Text) : Datum → Except ArgumentError Text
  | missing => .error (.required argument)
  | text t => .ok t
  | d => .error (.notText argument d.kindName)

/-- The text of an argument that is searched for blanks. -/
def searchable : Datum → Except ArgumentError Text
  | text t => .ok t
  | d => .error (.notSearchable d.kindName)

def isMissing : Datum → Bool
  | missing => true
  | _ => false

mutual

/-- The text of a value that shows its kind: texts in quotes, lists in brackets, records in braces. -/
def shown : Datum → Text
  | missing => "None"
  | truth b => if b then "True" else "False"
  | whole n => Text.ofInt n
  | real x => Decimal.shortest x
  | text t => t.escaped
  | list ds => '[' :: Text.joined ", " (shownAll ds) ++ [']']
  | record fs => '\x7b' :: Text.joined ", " (shownFields fs) ++ ['\x7d']

def shownAll : List Datum → List Text
  | [] => []
  | d :: ds => d.shown :: shownAll ds

def shownFields : List (Text × Datum) → List Text
  | [] => []
  | (k, d) :: fs => (k.escaped ++ ": " ++ d.shown) :: shownFields fs

end

/-- The text of a value, which for a text is the text as it is. -/
def display : Datum → Text
  | text t => t
  | d => d.shown

end Datum
end PaymentIdentifiers
