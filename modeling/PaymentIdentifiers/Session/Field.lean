import PaymentIdentifiers.Datum

/-!
# Fields of plain values

Plain values have fields that belong to their kind, and none of their own. None of them can be changed, and the reason
depends on what the field is.
-/
namespace PaymentIdentifiers.Session

/-- What a field of a plain value is. -/
inductive FieldRole where
  | unknown
  /-- An operation of all values of the kind. -/
  | operation
  /-- A part of a number, which is defined for the numbers of a kind. -/
  | part (kind : Text)
  /-- The kind of the value. -/
  | ownKind
deriving DecidableEq, Repr

/-- The words of some rows. -/
def wordsOf (rows : List String) : List Text := rows.flatMap fun r => Text.cut ' ' r.toList

/-- Operations of all values. -/
def commonFields : List Text := wordsOf
  ["__delattr__ __dir__ __doc__ __eq__ __format__ __ge__ __getattribute__ __getstate__ __gt__ __hash__ __init__",
    "__init_subclass__ __le__ __lt__ __ne__ __new__ __reduce__ __reduce_ex__ __repr__ __setattr__ __sizeof__ __str__",
    "__subclasshook__"]

/-- Operations of all numbers. -/
def numberFields : List Text := wordsOf
  ["__abs__ __add__ __bool__ __ceil__ __divmod__ __float__ __floor__ __floordiv__ __getnewargs__ __int__ __mod__",
    "__mul__ __neg__ __pos__ __pow__ __radd__ __rdivmod__ __rfloordiv__ __rmod__ __rmul__ __round__ __rpow__ __rsub__",
    "__rtruediv__ __sub__ __truediv__ __trunc__ as_integer_ratio conjugate"]

def wholeFields : List Text := wordsOf
  ["__and__ __index__ __invert__ __lshift__ __or__ __rand__ __rlshift__ __ror__ __rrshift__ __rshift__ __rxor__ __xor__",
    "bit_count bit_length from_bytes to_bytes"]

def realFields : List Text := wordsOf ["__getformat__ fromhex hex is_integer"]

def textFields : List Text := wordsOf
  ["__add__ __contains__ __getitem__ __getnewargs__ __iter__ __len__ __mod__ __mul__ __rmod__ __rmul__ capitalize",
    "casefold center count encode endswith expandtabs find format format_map index isalnum isalpha isascii isdecimal",
    "isdigit isidentifier islower isnumeric isprintable isspace istitle isupper join ljust lower lstrip maketrans",
    "partition removeprefix removesuffix replace rfind rindex rjust rpartition rsplit rstrip split splitlines startswith",
    "strip swapcase title translate upper zfill"]

def listFields : List Text := wordsOf
  ["__add__ __class_getitem__ __contains__ __delitem__ __getitem__ __iadd__ __imul__ __iter__ __len__ __mul__",
    "__reversed__ __rmul__ __setitem__ append clear copy count extend index insert pop remove reverse sort"]

def recordFields : List Text := wordsOf
  ["__class_getitem__ __contains__ __delitem__ __getitem__ __ior__ __iter__ __len__ __or__ __reversed__ __ror__",
    "__setitem__ clear copy fromkeys get items keys pop popitem setdefault update values"]

/-- Parts of a whole number; truth values have them as well. -/
def wholeParts : List Text := wordsOf ["denominator imag numerator real"]

def realParts : List Text := wordsOf ["imag real"]

/-- The operations of the kind of a value that not all kinds have. -/
def operationsOf : Datum → List Text
  | .missing => wordsOf ["__bool__"]
  | .truth _ | .whole _ => numberFields ++ wholeFields
  | .real _ => numberFields ++ realFields
  | .text _ => textFields
  | .list _ => listFields
  | .record _ => recordFields

/-- The part of a number that a field is, by the kind it is defined for. -/
def partOf? : Datum → Text → Option Text
  | .truth _, field | .whole _, field => if wholeParts.contains field then some (Datum.whole 0).kindName else none
  | .real x, field => if realParts.contains field then some (Datum.real x).kindName else none
  | _, _ => none

def FieldRole.of (d : Datum) (field : Text) : FieldRole :=
  match partOf? d field with
  | some kind => .part kind
  | none =>
    if field = "__class__".toList then .ownKind
    else if commonFields.contains field || (operationsOf d).contains field then .operation
    else .unknown

end PaymentIdentifiers.Session
