import PaymentIdentifiers.Text.Word

/-!
# Dialects of tables

A dialect says which character separates cells, which one quotes them, whether a quote inside a quoted cell is
written twice, and whether spaces before a cell are dropped. A delimiter occurs equally often in most lines: the first
ten lines are looked at, then ten more, and so on; in each step the demands fall from all lines agreeing to the agreeing
ones outnumbering the others by nine tenths of all.
-/
namespace PaymentIdentifiers.Sheet

structure Dialect where
  delimiter : Char
  quote : Char
  doubleQuote : Bool
  skipSpace : Bool
deriving DecidableEq, Repr

/-- The dialect of a table that gives no hint. -/
def Dialect.standard : Dialect := ⟨',', '"', true, false⟩

/-- The delimiters that are looked for, the preferred ones first. -/
def delimiters : List Char := [',', '\t', ';']

/-- How many lines agree on the most common positive number of occurrences of a character. -/
def support (c : Char) (ls : List Text) : Nat :=
  let counts := ls.map fun l => l.count c
  (((counts.filter (0 < ·)).eraseDups).map fun n => counts.count n).foldl max 0

/-- Whether the agreeing lines outnumber the others by `percent` of all lines. -/
def agrees (percent lines agreeing : Nat) : Bool := (100 + percent) * lines ≤ 200 * agreeing

/-- The demands in falling order. -/
def demands : List Nat := (List.range 10).map fun k => 100 - k

/-- How many lines are looked at in each step. -/
def steps (lines : Nat) : List Nat := (List.range ((lines + 9) / 10)).map fun k => min (10 * (k + 1)) lines

/-- The preferred delimiter among those that meet the highest demand met by any. -/
def guessIn (ls : List Text) : Option Char :=
  let supports := delimiters.map fun c => (c, support c ls)
  demands.findSome? fun percent => (supports.find? fun s => agrees percent ls.length s.2).map Prod.fst

def guess? (ls : List Text) : Option Char := (steps ls.length).findSome? fun n => guessIn (ls.take n)

/-- How often a character is followed by a space. -/
def spacedCount (d : Char) : Text → Nat
  | c :: ' ' :: t => (if c = d then 1 else 0) + spacedCount d (' ' :: t)
  | _ :: t => spacedCount d t
  | [] => 0

/-- Whether every delimiter of the line is followed by a space. -/
def alwaysSpaced (d : Char) (line : Text) : Bool := line.count d == spacedCount d line

/-- The lines of a text that are not empty. -/
def fullLines (t : Text) : List Text := (Text.cut '\n' t).filter fun l => !l.isEmpty

/-- The guessed delimiter, and whether spaces after it are dropped. -/
def delimiterHint? (t : Text) : Option (Char × Bool) :=
  let ls := fullLines t
  (guess? ls).map fun d => (d, alwaysSpaced d (ls.headD []))

end PaymentIdentifiers.Sheet
