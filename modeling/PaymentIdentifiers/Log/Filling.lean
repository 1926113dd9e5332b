import PaymentIdentifiers.Datum
import PaymentIdentifiers.Decimal.Notation
import PaymentIdentifiers.Log.Conversion

/-!
# Messages from templates and values

A conversion takes its value from a list, from left to right, or by name from a record; a width or a number of places
that is asked for takes a value as well, before the one that is written. `Form` is a conversion whose measures are
known, and `Form.write` writes a value in it. The conversions of a template are filled in from left to right. The first
one that cannot be filled in is reported, and after the last one a value that is left over from a list.
-/
namespace PaymentIdentifiers.Log

inductive Arguments where
  | positional (ds : List Datum)
  | named (fields : List (Text × Datum))

/-- A single record that is not empty names its fields; any other list is taken by position. -/
def Arguments.ofList : List Datum → Arguments
  | [.record (f :: fs)] => .named (f :: fs)
  | ds => .positional ds

def Arguments.isEmpty : Arguments → Bool
  | .positional ds => ds.isEmpty
  | .named fs => fs.isEmpty

inductive FormatError where
  | tooFewArguments
  | tooManyArguments
  | recordExpected
  | unknownName (name : Text)
  /-- A conversion to a whole number met a value of another kind. -/
  | numberExpected (conversion : Char) (kind : Text)
  /-- A conversion to another base met a value that is not whole. -/
  | wholeExpected (conversion : Char) (kind : Text)
  /-- A conversion to a number with places met a value of another kind. -/
  | realExpected (kind : Text)
  | characterExpected
  /-- A number that no character has. -/
  | noCharacter
  /-- A width or a number of places was taken from a value that is not whole. -/
  | measureExpected
  | widthTooBig
  | placesTooBig
  /-- More digits than a whole number can be filled up to. -/
  | digitsTooMany
  | askedWidthTooBig
  | askedPlacesTooBig
  /-- A whole number beyond all floating-point numbers. -/
  | beyondReals
  | infiniteNumber
  | notANumber
  | unsupported (conversion : Char) (position : Nat)
  | incomplete
  | incompleteName
deriving DecidableEq, Repr

/-- A character as it is shown in a message: only those of printed ASCII, and the last control character, stay. -/
def shownLetter (c : Char) : Char := if 31 ≤ c.toNat ∧ c.toNat ≤ 126 then c else '?'

def FormatError.message : FormatError → Text
  | tooFewArguments => "not enough arguments for format string"
  | tooManyArguments => "not all arguments converted during string formatting"
  | recordExpected => "format requires a mapping"
  | unknownName name => name.escaped
  | numberExpected c kind => '%' :: c :: (" format: a real number is required, not " ++ kind)
  | wholeExpected c kind => '%' :: c :: (" format: an integer is required, not " ++ kind)
  | realExpected kind => "must be real number, not " ++ kind
  | characterExpected => "%c requires int or char"
  | noCharacter => "%c arg not in range(0x110000)"
  | measureExpected => "* wants int"
  | widthTooBig => "width too big"
  | placesTooBig => "precision too big"
  | digitsTooMany => "precision too large"
  | askedWidthTooBig => "Python int too large to convert to C ssize_t"
  | askedPlacesTooBig => "Python int too large to convert to C int"
  | beyondReals => "int too large to convert to float"
  | infiniteNumber => "cannot convert float infinity to integer"
  | notANumber => "cannot convert float NaN to integer"
  | unsupported c n =>
    "unsupported format character '" ++ shownLetter c :: "' (0x" ++ Nat.toDigits 16 c.toNat ++ ") at index " ++
      Text.ofNat n
  | incomplete => "incomplete format"
  | incompleteName => "incomplete format key"

/-- The classes of errors that a caller of the formatter tells apart. -/
inductive ErrorClass where
  | lookup
  | value
  | overflow
  | type
deriving DecidableEq, Repr

def FormatError.errorClass : FormatError → ErrorClass
  | unknownName _ => .lookup
  | widthTooBig | placesTooBig | notANumber | unsupported _ _ | incomplete | incompleteName => .value
  | noCharacter | digitsTooMany | askedWidthTooBig | askedPlacesTooBig | beyondReals | infiniteNumber => .overflow
  | tooFewArguments | tooManyArguments | recordExpected | numberExpected _ _ | wholeExpected _ _ | realExpected _
  | characterExpected | measureExpected => .type

/-- The values that are still to be filled in. A record offers itself to the first conversion without a name, and the
field that was looked up last to the conversion that named it. -/
inductive Supply where
  | values (ds : List Datum)
  | fields (fs : List (Text × Datum)) (pending : Option Datum)

namespace Supply

def ofArguments : Arguments → Supply
  | .positional ds => .values ds
  | .named fs => .fields fs (some (.record fs))

/-- The next value, and what is left. -/
def next : Supply → Except FormatError (Datum × Supply)
  | values [] => .error .tooFewArguments
  | values (d :: ds) => .ok (d, .values ds)
  | fields _ none => .error .tooFewArguments
  | fields fs (some d) => .ok (d, .fields fs none)

/-- Looks up a field. -/
def select (s : Supply) (name : Text) : Except FormatError Supply :=
  match s with
  | values _ => .error .recordExpected
  | fields fs _ =>
    match fs.lookup name with
    | none => .error (.unknownName name)
    | some d => .ok (.fields fs (some d))

/-- The next value, which has to be whole. -/
def nextWhole (s : Supply) : Except FormatError (Int × Supply) :=
  match s.next with
  | .error e => .error e
  | .ok (.truth b, rest) => .ok (if b then 1 else 0, rest)
  | .ok (.whole n, rest) => .ok (n, rest)
  | .ok _ => .error .measureExpected

end Supply

/-- A conversion whose measures are known. -/
structure Form where
  left : Bool
  zeros : Bool
  plus : Bool
  blank : Bool
  full : Bool
  width : Nat
  places : Option Nat
deriving DecidableEq, Repr

namespace Form

def maxWidth : Nat := 9223372036854775807
def maxPlaces : Nat := 2147483647

/-- The most digits that a whole number is filled up to. -/
def maxDigits : Nat := 2147483644

/-- Takes the width; one below zero stands for its magnitude, filled up at the right. -/
def withWidth (f : Form) (s : Supply) : Measure → Except FormatError (Form × Supply)
  | .absent => .ok (f, s)
  | .given n => if maxWidth < n then .error .widthTooBig else .ok ({ f with width := n }, s)
  | .asked => do
    let (n, s) ← s.nextWhole
    if n < -maxWidth - 1 ∨ maxWidth < n then throw .askedWidthTooBig
    return ({ f with width := n.natAbs, left := f.left || n < 0 }, s)

/-- Takes the number of places; one below zero counts as zero. -/
def withPlaces (f : Form) (s : Supply) : Measure → Except FormatError (Form × Supply)
  | .absent => .ok (f, s)
  | .given n => if maxPlaces < n then .error .placesTooBig else .ok ({ f with places := some n }, s)
  | .asked => do
    let (n, s) ← s.nextWhole
    if n < -maxPlaces - 1 ∨ maxPlaces < n then throw .askedPlacesTooBig
    return ({ f with places := some n.toNat }, s)

/-- The form of a conversion, and the values left for it. -/
def ofConversion (h : Conversion) (s : Supply) : Except FormatError (Form × Supply) := do
  let s ← match h.name with
    | none => .ok s
    | some k => s.select k
  let (f, s) ← withWidth ⟨h.left, h.zeros, h.plus, h.blank, h.full, 0, none⟩ s h.width
  f.withPlaces s h.places

/-- Fills a text up to the width. -/
def pad (f : Form) (t : Text) : Text :=
  let missing := List.replicate (f.width - t.length) ' '
  if f.left then t ++ missing else missing ++ t

/-- Cuts a text to the places. -/
def cut (f : Form) (t : Text) : Text :=
  match f.places with
  | some n => t.take n
  | none => t

/-- Fills a number up to the width, zeros going behind its sign and the mark of its base. -/
def padNumber (f : Form) (mark t : Text) : Text :=
  let (sign, digits) := match t with
    | '-' :: digits => (['-'], digits)
    | digits => (if f.plus then ['+'] else if f.blank then [' '] else [], digits)
  let front := sign ++ mark
  if f.zeros && !f.left then front ++ List.replicate (f.width - (front.length + digits.length)) '0' ++ digits
  else f.pad (front ++ digits)

/-- A whole number in a base, with at least as many digits as there are places. -/
def wholeText (f : Form) (base : Nat) (n : Int) : Text :=
  (if n < 0 then ['-'] else []) ++ (Nat.toDigits base n.natAbs).leftpad (f.places.getD 0) '0'

def writeWhole (f : Form) (base : Nat) (mark : Text) (n : Int) : Except FormatError Text :=
  if maxDigits < f.places.getD 0 then .error .digitsTooMany
  else .ok (f.padNumber (if f.full then mark else []) (f.wholeText base n))

/-- The whole number that a value is cut to. -/
def wholeOf (letter : Char) : Datum → Except FormatError Int
  | .truth b => .ok (if b then 1 else 0)
  | .whole n => .ok n
  | .real x =>
    match Decimal.Binary.ofFloat x with
    | .finite negative m q =>
      let f := Decimal.Fraction.scaled m q
      .ok (if negative then -((f.num / f.den : Nat) : Int) else (f.num / f.den : Nat))
    | .infinite _ => .error .infiniteNumber
    | .notANumber => .error .notANumber
  | d => .error (.numberExpected letter d.kindName)

/-- The whole number that is written in another base. -/
def exactWholeOf (letter : Char) : Datum → Except FormatError Int
  | .truth b => .ok (if b then 1 else 0)
  | .whole n => .ok n
  | d => .error (.wholeExpected letter d.kindName)

/-- The floating-point number that a value is read as. -/
def realOf : Datum → Except FormatError Decimal.Binary
  | .truth b => .ok (.ofInt (if b then 1 else 0))
  | .whole n =>
    match Decimal.Binary.ofInt n with
    | .infinite _ => .error .beyondReals
    | x => .ok x
  | .real x => .ok (.ofFloat x)
  | d => .error (.realExpected d.kindName)

/-- The character that a value stands for, itself or by its number. -/
def characterOf : Datum → Except FormatError Char
  | .truth b => .ok (Char.ofNat (if b then 1 else 0))
  | .whole n => if n < 0 ∨ 0x10FFFF < n then .error .noCharacter else .ok (Char.ofNat n.toNat)
  | .text [c] => .ok c
  | _ => .error .characterExpected

def styleOf (letter : Char) : Decimal.Style :=
  if letter = 'e' then .exponential else if letter = 'f' then .fixed else .general

def writeReal (f : Form) (letter : Char) (x : Decimal.Binary) : Text :=
  f.padNumber [] ((Decimal.Rounding.mk (styleOf letter) (f.places.getD 6) f.full).text x)

/-- Writes a value as a letter says; capital letters write a number in capitals. -/
def write (f : Form) (letter : Char) (position : Nat) (d : Datum) : Except FormatError Text :=
  match letter with
  | 's' => .ok (f.pad (f.cut d.display))
  | 'r' => .ok (f.pad (f.cut d.shown))
  | 'a' => .ok (f.pad (f.cut d.shown.asciiOnly))
  | 'c' => (characterOf d).map fun c => f.pad [c]
  | 'd' | 'i' | 'u' => (wholeOf letter d).bind (f.writeWhole 10 [])
  | 'o' => (exactWholeOf letter d).bind (f.writeWhole 8 ['0', 'o'])
  | 'x' => (exactWholeOf letter d).bind (f.writeWhole 16 ['0', 'x'])
  | 'X' => ((exactWholeOf letter d).bind (f.writeWhole 16 ['0', 'x'])).map Text.asciiUpper
  | 'e' | 'f' | 'g' => (realOf d).map (f.writeReal letter)
  | 'E' | 'F' | 'G' => (realOf d).map fun x => (f.writeReal letter.toLower x).asciiUpper
  | _ => .error (.unsupported letter position)

end Form

/-! ### Templates -/

/-- The text in the place of a conversion, and the values left behind it. -/
def Conversion.fill (h : Conversion) (letter : Option (Char × Nat)) (s : Supply) :
    Except FormatError (Text × Supply) := do
  let (f, s) ← Form.ofConversion h s
  match letter with
  | none => throw .incomplete
  | some (c, position) =>
    let (d, s) ← s.next
    return (← f.write c position d, s)

/-- Fills in the parts from left to right. -/
def fillParts (s : Supply) : List Part → Except FormatError Text
  | [] =>
    match s with
    | .values (_ :: _) => .error .tooManyArguments
    | _ => .ok []
  | .char c :: ps => do return c :: (← fillParts s ps)
  | .openName :: _ =>
    match s with
    | .values _ => .error .recordExpected
    | .fields _ _ => .error .incompleteName
  | .hole h letter :: ps => do
    let (t, rest) ← h.fill letter s
    return t ++ (← fillParts rest ps)

/-- The template with its values; without arguments it stands as it is. -/
def format (template : Text) (arguments : Arguments) : Except FormatError Text :=
  if arguments.isEmpty then .ok template else fillParts (.ofArguments arguments) (parts template)

end PaymentIdentifiers.Log
