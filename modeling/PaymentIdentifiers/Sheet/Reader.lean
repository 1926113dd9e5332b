import PaymentIdentifiers.Sheet.Dialect

/-!
# Reading files

The bytes of a file are read as UTF-8 without the byte order mark they may begin with. If they are no UTF-8, each byte
stands for the character with its number. The text is read character by character; its lines end behind each line
feed. A record ends with its line unless a quoted cell is open, and a cell that is still open at the end of the text is
closed there. Reading stops at the first fault, but the records before it stand.
-/
namespace PaymentIdentifiers.Sheet

def byteOrderMark : Char := '\ufeff'

/-- Drops one byte order mark at the beginning. -/
def dropMark : Text → Text
  | [] => []
  | c :: t => if c = byteOrderMark then t else c :: t

/-- One character for each byte. -/
def latin (bytes : ByteArray) : Text := bytes.data.toList.map fun b => Char.ofNat b.toNat

def decode (bytes : ByteArray) : Text :=
  match String.fromUTF8? bytes with
  | some s => dropMark s.toList
  | none => latin bytes

abbrev Record := List Text

inductive Fault where
  /-- A character follows a carriage return in the same line. -/
  | strayNewline
  | fieldTooLong
deriving DecidableEq, Repr

def maxField : Nat := 131072

def Fault.message : Fault → Text
  | strayNewline =>
    "new-line character seen in unquoted field - do you need to open the file in universal-newline mode?"
  | fieldTooLong => "field larger than field limit (" ++ Text.ofNat maxField ++ ")"

inductive State where
  | recordStart
  | fieldStart
  | inField
  | inQuotes
  | quoteInQuotes
  | lineEnd
deriving DecidableEq, Repr

/-- The state with the cells of the record so far and the characters of the current cell, both in reverse. -/
structure Cursor where
  state : State
  cells : List Text
  cell : Text
  size : Nat
deriving DecidableEq, Repr

namespace Cursor

def start : Cursor := ⟨.recordStart, [], [], 0⟩

/-- Ends the current cell. -/
def save (k : Cursor) (state : State) : Cursor := ⟨state, k.cell.reverse :: k.cells, [], 0⟩

def add (k : Cursor) (c : Char) (state : State) : Except Fault Cursor :=
  if maxField ≤ k.size then .error .fieldTooLong else .ok ⟨state, k.cells, c :: k.cell, k.size + 1⟩

def isNewline (c : Char) : Bool := c == '\n' || c == '\r'

/-- Reads the first character of a cell. -/
def stepFieldStart (d : Dialect) (k : Cursor) (c : Char) : Except Fault Cursor :=
  if isNewline c then .ok (k.save .lineEnd)
  else if c == d.quote then .ok { k with state := .inQuotes }
  else if c == ' ' && d.skipSpace then .ok { k with state := .fieldStart }
  else if c == d.delimiter then .ok (k.save .fieldStart)
  else k.add c .inField

def step (d : Dialect) (k : Cursor) (c : Char) : Except Fault Cursor :=
  match k.state with
  | .recordStart => if isNewline c then .ok { k with state := .lineEnd } else stepFieldStart d k c
  | .fieldStart => stepFieldStart d k c
  | .inField =>
    if isNewline c then .ok (k.save .lineEnd)
    else if c == d.delimiter then .ok (k.save .fieldStart)
    else k.add c .inField
  | .inQuotes =>
    if c == d.quote then .ok { k with state := if d.doubleQuote then .quoteInQuotes else .inField }
    else k.add c .inQuotes
  | .quoteInQuotes =>
    if c == d.quote then k.add c .inQuotes
    else if c == d.delimiter then .ok (k.save .fieldStart)
    else if isNewline c then .ok (k.save .lineEnd)
    else k.add c .inField
  | .lineEnd => if isNewline c then .ok k else .error .strayNewline

/-- The end of a line; the state is then the start of a record unless a quoted cell is open. -/
def endLine (k : Cursor) : Cursor :=
  match k.state with
  | .recordStart | .lineEnd => { k with state := .recordStart }
  | .inQuotes => k
  | .fieldStart | .inField | .quoteInQuotes => k.save .recordStart

def record (k : Cursor) : Record := k.cells.reverse

end Cursor

/-- The records that were read, and the fault that ended the reading, if one did. -/
structure Reading where
  records : List Record
  fault : Option Fault
deriving DecidableEq, Repr

def Reading.cons (r : Record) (x : Reading) : Reading := { x with records := r :: x.records }

/-- Reads on; `fresh` says whether the text stands at the beginning of a line. -/
def readFrom (d : Dialect) (k : Cursor) (fresh : Bool) : Text → Reading
  | [] =>
    let ended := if fresh then k else k.endLine
    if ended.state == .inQuotes then ⟨[(ended.save .recordStart).record], none⟩
    else if fresh then ⟨[], none⟩
    else ⟨[ended.record], none⟩
  | c :: t =>
    match k.step d c with
    | .error fault => ⟨[], some fault⟩
    | .ok next =>
      if c = '\n' then
        let ended := next.endLine
        if ended.state == .inQuotes then readFrom d ended true t
        else (readFrom d .start true t).cons ended.record
      else readFrom d next false t

def read (d : Dialect) (t : Text) : Reading := readFrom d .start true t

end PaymentIdentifiers.Sheet
