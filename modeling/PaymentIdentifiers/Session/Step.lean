import PaymentIdentifiers.Session.Comparison

/-!
# Steps of a session

A step makes an item under a name, or looks at items by name: shows, compares, sorts or counts them. Changing an item
can be asked for as well, and is always refused.
-/
namespace PaymentIdentifiers.Session

inductive Operand where
  | variable (name : Text)
  | literal (d : Datum)

/-- How an item is made. -/
inductive Making where
  | identifier (k : Kind) (d : Datum)
  | pattern (d : Datum)
  | range (start stop : Int)
  | group (qualifier : Datum) (start length : Int)
  | layout (country : CountryArgument)
  | iban (country : CountryArgument) (bban : Datum)
  | creditorIdentifier (country : CountryArgument) (businessCode nationalId : Datum)
  /-- The test code of a BIC. -/
  | testBic (of : Operand)
  /-- A copy that went through storage. -/
  | copy (of : Operand)
  | merge (a b : Operand)

inductive Step where
  | make (m : Making) (name : Text)
  | look (of : Operand)
  | compare (r : Relation) (a b : Operand)
  | sameHash (a b : Operand)
  | same (a b : Operand)
  | sort (of : List Operand) (down : Bool)
  | distinct (of : List Operand)
  | assign (of : Operand) (field : Text) (value : Datum)
  | delete (of : Operand) (field : Text)

inductive StepError where
  | unknownVariable (name : Text)
  | refusal (r : Refusal)
  | compile (e : Swift.CompileError)
  | range (e : Bban.RangeError)
  | argument (e : ArgumentError)
  | noOrder (e : NoOrder)
  /-- Items of this kind cannot be changed at all. -/
  | immutable (kind : Text)
  | cannotAssign (field : Text)
  | cannotDelete (field : Text)
  | noField (kind field : Text)
  /-- An operation of a kind of values cannot be replaced. -/
  | fixedOperation (kind field : Text)
  | fixedPart (kind field : Text)
  /-- The kind of a value cannot become another value. -/
  | notKind (kind : Text)
  | kindStays
deriving DecidableEq, Repr

def StepError.message : StepError → Text
  | unknownVariable name => name.escaped
  | refusal r => r.message
  | compile (.argument e) => e.message
  | compile (.expression e) => e.message
  | range e => e.message
  | argument e => e.message
  | noOrder e => e.message
  | immutable kind => kind ++ " is immutable"
  | cannotAssign field => "cannot assign to field " ++ field.escaped
  | cannotDelete field => "cannot delete field " ++ field.escaped
  | noField kind field => kind.quoted ++ " object has no attribute " ++ field.quoted
  | fixedOperation kind field => kind.quoted ++ " object attribute " ++ field.quoted ++ " is read-only"
  | fixedPart kind field => "attribute " ++ field.quoted ++ " of " ++ kind.quoted ++ " objects is not writable"
  | notKind kind => "__class__ must be set to a class, not " ++ kind.quoted ++ " object"
  | kindStays => "can't delete __class__ attribute"

inductive Outcome where
  | item (i : Item)
  | truth (b : Bool)
  | texts (ts : List Text)
  | count (n : Nat)

end PaymentIdentifiers.Session
