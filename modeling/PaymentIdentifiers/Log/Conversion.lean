import PaymentIdentifiers.Text.Basic

/-!
# Conversions in a message template

A template holds conversions, such as `%s`, `%05d`, `%-*.2f` or `%(name)s`: a percent sign, a name in balanced
parentheses, flags, a width, a number of places, a size letter without meaning, and the letter that says how the
value is written. A percent sign is written twice. `parts` cuts a template into characters and conversions.
-/
namespace PaymentIdentifiers.Log

/-- A width or a number of places: left out, written in the template, or taken from the values. -/
inductive Measure where
  | absent
  | given (n : Nat)
  | asked
deriving DecidableEq, Repr

/-- Appends a digit. -/
def Measure.push (m : Measure) (c : Char) : Measure :=
  match m with
  | given n => .given (10 * n + (c.toNat - '0'.toNat))
  | _ => .given (c.toNat - '0'.toNat)

/-- What stands between the percent sign and the letter of a conversion. -/
structure Conversion where
  name : Option Text
  left : Bool
  zeros : Bool
  plus : Bool
  blank : Bool
  /-- Whether the base of a number and its point are written in any case. -/
  full : Bool
  width : Measure
  places : Measure
deriving DecidableEq, Repr

def Conversion.plain : Conversion := ⟨none, false, false, false, false, false, .absent, .absent⟩

/-- A part of a template: a character, a conversion with its letter and the position of the letter, if the template does
not end before it, or a conversion whose name is not closed. -/
inductive Part where
  | char (c : Char)
  | hole (h : Conversion) (letter : Option (Char × Nat))
  | openName
deriving DecidableEq, Repr

/-- How far a conversion has been read. -/
inductive Stage where
  | opening
  /-- Inside the name, at a depth of parentheses that counts from zero. -/
  | name (depth : Nat)
  | flags
  | width
  | behindWidth
  | point
  | places
  | behindPlaces
  | size
deriving DecidableEq, Repr

namespace Stage

def stepSize (h : Conversion) (c : Char) : Option (Stage × Conversion) :=
  if c = 'h' ∨ c = 'l' ∨ c = 'L' then some (.size, h) else none

def stepPoint (h : Conversion) (c : Char) : Option (Stage × Conversion) :=
  if c = '.' then some (.point, { h with places := .given 0 }) else stepSize h c

def stepPlaces (h : Conversion) (c : Char) : Option (Stage × Conversion) :=
  if c.isDigit then some (.places, { h with places := h.places.push c }) else stepSize h c

def stepWidth (h : Conversion) (c : Char) : Option (Stage × Conversion) :=
  if c.isDigit then some (.width, { h with width := h.width.push c }) else stepPoint h c

def stepFlags (h : Conversion) (c : Char) : Option (Stage × Conversion) :=
  if c = '-' then some (.flags, { h with left := true })
  else if c = '0' then some (.flags, { h with zeros := true })
  else if c = '+' then some (.flags, { h with plus := true })
  else if c = ' ' then some (.flags, { h with blank := true })
  else if c = '#' then some (.flags, { h with full := true })
  else if c = '*' then some (.behindWidth, { h with width := .asked })
  else stepWidth h c

def stepName (depth : Nat) (h : Conversion) (c : Char) : Stage × Conversion :=
  let longer := { h with name := h.name.map (· ++ [c]) }
  if c = '(' then (.name (depth + 1), longer)
  else if c = ')' then
    match depth with
    | 0 => (.flags, h)
    | d + 1 => (.name d, longer)
  else (.name depth, longer)

/-- Takes one more character into a conversion, unless the character is its letter. -/
def step (s : Stage) (h : Conversion) (c : Char) : Option (Stage × Conversion) :=
  match s with
  | opening => if c = '(' then some (.name 0, { h with name := some [] }) else stepFlags h c
  | name depth => some (stepName depth h c)
  | flags => stepFlags h c
  | width => stepWidth h c
  | behindWidth => stepPoint h c
  | point => if c = '*' then some (.behindPlaces, { h with places := .asked }) else stepPlaces h c
  | places => stepPlaces h c
  | behindPlaces => stepSize h c
  | size => none

/-- The part that a template ends with when a conversion is read up to here. -/
def unfinished (s : Stage) (h : Conversion) : Part :=
  match s with
  | name _ => .openName
  | _ => .hole h none

end Stage

/-- Cuts a template into parts; `open?` is the conversion that is being read, `position` the place in the template. -/
def partsFrom (open? : Option (Stage × Conversion)) (position : Nat) : Text → List Part
  | [] =>
    match open? with
    | none => []
    | some (stage, h) => [stage.unfinished h]
  | c :: t =>
    match open? with
    | none =>
      if c = '%' then partsFrom (some (.opening, .plain)) (position + 1) t
      else .char c :: partsFrom none (position + 1) t
    | some (stage, h) =>
      if stage = .opening ∧ c = '%' then .char '%' :: partsFrom none (position + 1) t
      else match stage.step h c with
        | some next => partsFrom (some next) (position + 1) t
        | none => .hole h (some (c, position)) :: partsFrom none (position + 1) t

def parts (template : Text) : List Part := partsFrom none 0 template

end PaymentIdentifiers.Log
