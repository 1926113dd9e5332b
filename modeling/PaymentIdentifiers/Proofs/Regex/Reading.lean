import PaymentIdentifiers.Proofs.Text.Decimal

/-!
# Reading regular expressions

The common notation of regular expressions, as far as formats and shapes are written in it: anchors, characters, sets in
brackets, groups, and repetition within bounds. The reader goes through an expression character by character, with a stack
of the groups that are still open. It takes nothing that has another meaning in the notation, such as alternatives, escapes,
complements and reluctant repetition, and nothing that the notation forbids, such as the repetition of an anchor.
-/
namespace PaymentIdentifiers

/-- Regular expressions. A set is a list of ranges of code points, both ends included. -/
inductive Regex where
  | empty
  | textStart
  | textEnd
  | oneOf (ranges : List (Nat × Nat))
  | append (r s : Regex)
  | group (r : Regex)
  | repeated (r : Regex) (least most : Nat)
deriving DecidableEq, Repr

namespace Regex

/-- The expressions one after the other. -/
def inRow (rs : List Regex) : Regex := rs.foldr append empty

@[simp] theorem inRow_nil : inRow [] = empty := rfl

@[simp] theorem inRow_cons (r : Regex) (rs : List Regex) : inRow (r :: rs) = r.append (inRow rs) := rfl

/-- A set or a group can be repeated. -/
def isAtom : Regex → Bool
  | oneOf _ => true
  | group _ => true
  | _ => false

/-- Where a reader stands: between two items, or within a set or a pair of bounds. -/
inductive Place where
  | between
  | set (ranges : List (Nat × Nat))
  /-- Behind a member of a set that may begin a range. -/
  | member (ranges : List (Nat × Nat)) (first : Char)
  /-- Behind the hyphen of a range. -/
  | range (ranges : List (Nat × Nat)) (first : Char)
  /-- In the digits of a bound, with those of the lower bound before it. -/
  | bound (least : Option Text) (digits : Text)
deriving DecidableEq, Repr

/-- What was read so far. Rows are reversed, and `outer` has the rows around the open group, the innermost first. -/
structure Reader where
  place : Place
  outer : List (List Regex)
  row : List Regex
deriving DecidableEq, Repr

namespace Reader

def start : Reader := ⟨.between, [], []⟩

def goTo (s : Reader) (p : Place) : Reader := { s with place := p }

def push (s : Reader) (r : Regex) : Reader := ⟨.between, s.outer, r :: s.row⟩

def openGroup (s : Reader) : Reader := ⟨.between, s.row :: s.outer, []⟩

def closeGroup? (s : Reader) : Option Reader :=
  match s.outer with
  | [] => none
  | row :: outer => some ⟨.between, outer, group (inRow s.row.reverse) :: row⟩

def repeatLast? (s : Reader) (least most : Nat) : Option Reader :=
  match s.row with
  | [] => none
  | r :: row => if r.isAtom && least ≤ most then some ⟨.between, s.outer, repeated r least most :: row⟩ else none

/-- Characters that stand for themselves neither between items nor in a set. -/
def reserved : Text := ".*+|\\]\x7d".toList

def reservedInSet : Text := "\\[]^-".toList

/-- The set of a single character. -/
def single (c : Char) : Nat × Nat := (c.toNat, c.toNat)

def stepBetween (s : Reader) : Char → Option Reader
  | '^' => some (s.push textStart)
  | '$' => some (s.push textEnd)
  | '(' => some s.openGroup
  | ')' => s.closeGroup?
  | '[' => some (s.goTo (.set []))
  | '\x7b' => some (s.goTo (.bound none []))
  | '?' => s.repeatLast? 0 1
  | c => if reserved.contains c then none else some (s.push (oneOf [single c]))

def stepBound (s : Reader) (least : Option Text) (digits : Text) (c : Char) : Option Reader :=
  if c.isDigit then some (s.goTo (.bound least (digits ++ [c])))
  else if digits.isEmpty then none
  else match c, least with
    | ',', none => some (s.goTo (.bound (some digits) []))
    | '\x7d', none => s.repeatLast? (Text.toNat digits) (Text.toNat digits)
    | '\x7d', some lower => s.repeatLast? (Text.toNat lower) (Text.toNat digits)
    | _, _ => none

/-- Reads one character. -/
def step (s : Reader) (c : Char) : Option Reader :=
  match s.place with
  | .between => s.stepBetween c
  | .set ranges =>
    if c = ']' then if ranges.isEmpty then none else some (s.push (oneOf ranges))
    else if reservedInSet.contains c then none
    else some (s.goTo (.member ranges c))
  | .member ranges first =>
    if c = '-' then some (s.goTo (.range ranges first))
    else if c = ']' then some (s.push (oneOf (ranges ++ [single first])))
    else if reservedInSet.contains c then none
    else some (s.goTo (.member (ranges ++ [single first]) c))
  | .range ranges first =>
    if reservedInSet.contains c || c < first then none
    else some (s.goTo (.set (ranges ++ [(first.toNat, c.toNat)])))
  | .bound least digits => s.stepBound least digits c

/-- The expression, if the reader does not stop within an item or a group. -/
def finish? (s : Reader) : Option Regex :=
  if s.place = .between ∧ s.outer = [] then some (inRow s.row.reverse) else none

/-- Reads a text from where the reader stands. -/
def run (s : Reader) (t : Text) : Option Reader := t.foldlM step s

end Reader

/-- The expression that is written in a text. -/
def read? (t : Text) : Option Regex := (Reader.start.run t).bind Reader.finish?

example : read? "^(a[b-dx]?)\x7b2,3\x7d$" = some (inRow [textStart,
    repeated (group (inRow [oneOf [(97, 97)], repeated (oneOf [(98, 100), (120, 120)]) 0 1])) 2 3, textEnd]) ∧
    read? "a**" = none ∧ read? "(a" = none ∧ read? "[z-a]" = none ∧ read? "a\x7b3,2\x7d" = none := by
  decide

namespace Reader

theorem run_append (s : Reader) (t u : Text) : s.run (t ++ u) = (s.run t).bind fun r => r.run u :=
  List.foldlM_append

@[simp] theorem run_nil (s : Reader) : s.run [] = some s := rfl

theorem run_cons (s : Reader) (c : Char) (t : Text) : s.run (c :: t) = (s.step c).bind fun r => r.run t := rfl

/-- The digits of a bound are collected. -/
theorem run_digits (s : Reader) (least : Option Text) (digits : Text) {ds : Text} (h : ∀ c ∈ ds, c.isDigit = true) :
    (s.goTo (.bound least digits)).run ds = some (s.goTo (.bound least (digits ++ ds))) := by
  induction ds generalizing digits with
  | nil => simp
  | cons d ds ih =>
    obtain ⟨hd, hds⟩ := List.forall_mem_cons.1 h
    have hstep : (s.goTo (.bound least digits)).step d = some (s.goTo (.bound least (digits ++ [d]))) :=
      if_pos hd
    rw [run_cons, hstep, Option.bind_some, ih (digits ++ [d]) hds, List.append_assoc]
    rfl

/-- A count between braces repeats the set or group before it. -/
theorem run_count (s : Reader) {r : Regex} (h : r.isAtom = true) (n : Nat) :
    (s.push r).run ("\x7b" ++ Text.ofNat n ++ "\x7d") = some (s.push (repeated r n n)) := by
  have hdigits : ((s.push r).goTo (.bound none [])).run (Text.ofNat n) =
      some ((s.push r).goTo (.bound none (Text.ofNat n))) :=
    run_digits _ none [] (Text.allDigits_ofNat n)
  have hfilled : (Text.ofNat n).isEmpty = false :=
    List.isEmpty_eq_false_iff.2 (List.ne_nil_of_length_pos (Text.length_ofNat_pos n))
  have hclose : ((s.push r).goTo (.bound none (Text.ofNat n))).step '\x7d' = some (s.push (repeated r n n)) := by
    simp [step, goTo, stepBound, hfilled, repeatLast?, push, h]
  calc (s.push r).run ("\x7b" ++ Text.ofNat n ++ "\x7d")
      = ((s.push r).goTo (.bound none [])).run (Text.ofNat n ++ ['\x7d']) := rfl
    _ = some (s.push (repeated r n n)) := by
        rw [run_append, hdigits, Option.bind_some, run_cons, hclose, Option.bind_some, run_nil]

end Reader
end Regex
end PaymentIdentifiers
