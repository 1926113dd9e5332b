import PaymentIdentifiers.Sheet.Dialect

/-!
# Detecting the dialect

The dialect is taken from the beginning of a text: from its quoted cells if they show a delimiter, and otherwise
from the number of delimiters in its lines. Without a delimiter the standard dialect is used. A quoted cell shows the
quote, and the characters beside it show the delimiter. Four shapes of a quoted cell are looked for, one after the
other: between two equal separators, at the beginning of a line, at the end of a line, and alone on a line. The first
shape that occurs gives the hints, and the most frequent characters win.
-/
namespace PaymentIdentifiers.Sheet

def isQuote (c : Char) : Bool := c == '"' || c == '\''

/-- A character that may stand beside a quoted cell. -/
def isSeparator (c : Char) : Bool := !Text.isWordChar c && c != '\n' && !isQuote c

/-- A quoted cell that was found, with the separator beside it if its shape has one. -/
structure Sighting where
  quote : Char
  separator : Option Char
  spaced : Bool
deriving DecidableEq, Repr

inductive Shape where
  | between
  | lineStart
  | lineEnd
  | alone
deriving DecidableEq, Repr

def Shape.all : List Shape := [.between, .lineStart, .lineEnd, .alone]

/-- A separator, perhaps a space, and a quote, with what follows them. -/
def openAfterSeparator? : Text → Option (Char × Bool × Char × Text)
  | d :: ' ' :: q :: t => if isSeparator d && isQuote q then some (d, true, q, t) else none
  | d :: q :: t => if isSeparator d && isQuote q then some (d, false, q, t) else none
  | _ => none

/-- A quote at the beginning of a line, with what follows it; `before` is the character before it. -/
def openAtLine? (before : Option Char) : Text → Option (Char × Text)
  | q :: t => if isQuote q && (before == none || before == some '\n') then some (q, t) else none
  | [] => none

/-- Looks for the first quote that is followed as it should be. -/
def close? {α : Type} (quote : Char) (accept : Text → Option α) : Text → Option α
  | [] => none
  | c :: t =>
    if c = quote then
      match accept t with
      | some a => some a
      | none => close? quote accept t
    else close? quote accept t

/-- After the quote the line ends; the end itself is left over. -/
def atLineEnd? : Text → Option Text
  | [] => some []
  | c :: t => if c = '\n' then some (c :: t) else none

def atChar? (d : Char) : Text → Option Text
  | [] => none
  | c :: t => if c = d then some t else none

/-- After the quote comes a separator and perhaps a space. -/
def atSeparator? : Text → Option (Char × Bool × Text)
  | d :: ' ' :: t => if isSeparator d then some (d, true, t) else none
  | d :: t => if isSeparator d then some (d, false, t) else none
  | [] => none

/-- A quoted cell of a shape that begins at the head of the text, and what follows it. -/
def Shape.match? (shape : Shape) (before : Option Char) (t : Text) : Option (Sighting × Text) :=
  match shape with
  | .between => do
    let (d, spaced, q, rest) ← openAfterSeparator? t
    let rest ← close? q (atChar? d) rest
    return (⟨q, some d, spaced⟩, rest)
  | .lineStart => do
    let (q, rest) ← openAtLine? before t
    let (d, spaced, rest) ← close? q atSeparator? rest
    return (⟨q, some d, spaced⟩, rest)
  | .lineEnd => do
    let (d, spaced, q, rest) ← openAfterSeparator? t
    let rest ← close? q atLineEnd? rest
    return (⟨q, some d, spaced⟩, rest)
  | .alone => do
    let (q, rest) ← openAtLine? before t
    let rest ← close? q atLineEnd? rest
    return (⟨q, none, false⟩, rest)

/-- All quoted cells of a shape from left to right; `skip` characters belong to the last one found. -/
def Shape.sightings (shape : Shape) (skip : Nat) (before : Option Char) : Text → List Sighting
  | [] => []
  | c :: t =>
    if skip = 0 then
      match shape.match? before (c :: t) with
      | some (s, rest) => s :: sightings shape (t.length - rest.length) (some c) t
      | none => sightings shape 0 (some c) t
    else sightings shape (skip - 1) (some c) t

/-- The sightings of the first shape that occurs. -/
def sightingsIn (t : Text) : List Sighting :=
  ((Shape.all.map fun shape => shape.sightings 0 none t).find? fun ss => !ss.isEmpty).getD []

/-- The most frequent element; of equally frequent ones the first. -/
def mostFrequent? {α : Type} [BEq α] (xs : List α) : Option α :=
  xs.foldl (fun best x =>
    match best with
    | none => some x
    | some b => if xs.count b < xs.count x then some x else some b) none

structure QuoteHint where
  quote : Char
  delimiter : Option Char
  skipSpace : Bool
deriving DecidableEq, Repr

/-- The hints of the sightings. Spaces are dropped if as many separators of any kind are followed by one as
there are delimiters. -/
def quoteHint? (t : Text) : Option QuoteHint :=
  let found := sightingsIn t
  match mostFrequent? (found.map Sighting.quote) with
  | none => none
  | some quote =>
    let seen := (found.filterMap Sighting.separator).filter delimiters.contains
    match mostFrequent? seen with
    | none => some ⟨quote, none, false⟩
    | some d => some ⟨quote, some d, seen.count d == found.countP Sighting.spaced⟩

/-- How much of a cell with a quote inside has been read: what comes before the first quote, and one, two or three
quotes. Several of these can hold at once. -/
structure Progress where
  started : Bool
  one : Bool
  two : Bool
  three : Bool
deriving DecidableEq, Repr

/-- Whether the text may begin or end a cell at this character. -/
def isBorder (delimiter : Option Char) (c : Char) : Bool := c == '\n' || delimiter == some c

def Progress.step (delimiter : Option Char) (quote : Char) (p : Progress) (c : Char) : Progress :=
  let inner := !isBorder delimiter c
  let outer := !Text.isWordChar c
  ⟨(p.started && outer) || isBorder delimiter c || delimiter.isNone,
    (p.started && c == quote) || (p.one && inner),
    (p.one && c == quote) || (p.two && inner),
    (p.two && c == quote) || (p.three && outer)⟩

/-- Whether some cell holds three quotes with nothing but its borders around them. -/
def doublesFrom (delimiter : Option Char) (quote : Char) (p : Progress) : Text → Bool
  | [] => p.three
  | c :: t =>
    (p.three && (delimiter.isNone || isBorder delimiter c)) ||
      doublesFrom delimiter quote (p.step delimiter quote c) t

def doublesQuote (delimiter : Option Char) (quote : Char) (t : Text) : Bool :=
  doublesFrom delimiter quote ⟨true, false, false, false⟩ t

/-- How many characters are looked at. -/
def sampleSize : Nat := 2048

def Dialect.ofSample (sample : Text) : Dialect :=
  match quoteHint? sample with
  | some hint =>
    let doubled := doublesQuote hint.delimiter hint.quote sample
    match hint.delimiter, delimiterHint? sample with
    | some d, _ => ⟨d, hint.quote, doubled, hint.skipSpace⟩
    | none, some (d, spaced) => ⟨d, hint.quote, doubled, spaced⟩
    | none, none => .standard
  | none =>
    match delimiterHint? sample with
    | some (d, spaced) => ⟨d, '"', false, spaced⟩
    | none => .standard

def Dialect.detect (t : Text) : Dialect := .ofSample (t.take sampleSize)

end PaymentIdentifiers.Sheet
