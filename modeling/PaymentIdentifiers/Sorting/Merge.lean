/-!
# Merging two ascending runs

The shorter run is kept aside and the other one is read beside it, from the front or, for a merge at the back, both in
reverse. Elements are taken one by one until one of the runs wins so often in succession that leaping over its elements
pays; how often is the patience, which falls while leaps are long and rises when they are not. A leap counts how many
elements at the beginning of a list pass a test, where those that pass come first: the elements at 0, 1, 3, 7, … are
tested until one fails, and the rest is found by halving.
-/
namespace PaymentIdentifiers.Sorting

variable {ε α : Type}

/-- Leaps on while elements pass: the last index that passed and the first one beyond it that is known to fail, or the
length of the list. -/
def leap (test : α → Except ε Bool) (xs : List α) (last next : Nat) : Nat → Except ε (Nat × Nat)
  | 0 => .ok (last, min next xs.length)
  | fuel + 1 =>
    match xs[next]? with
    | none => .ok (last, xs.length)
    | some x => do
      if ← test x then leap test xs next (2 * next + 1) fuel else return (last, next)

/-- Finds the count between two bounds; an even interval is halved at its upper or its lower middle. -/
def halve (upper : Bool) (test : α → Except ε Bool) (xs : List α) (low high : Nat) : Except ε Nat :=
  if _h : low < high then
    let middle := if upper then low + (high - low) / 2 else high - 1 - (high - low) / 2
    match xs[middle]? with
    | none => .ok high
    | some x => do
      if ← test x then halve upper test xs (middle + 1) high else halve upper test xs low middle
  else .ok low
termination_by high - low
decreasing_by all_goals (split <;> omega)

/-- How many elements at the beginning pass. -/
def gallop (upper : Bool) (test : α → Except ε Bool) (xs : List α) : Except ε Nat :=
  match xs with
  | [] => .ok 0
  | x :: _ => do
    if ← test x then
      let (last, next) ← leap test xs 0 1 xs.length
      halve upper test xs (last + 1) next
    else return 0

/-- What is left of two runs, and what was taken from them in reverse. -/
structure Merge (α : Type) where
  taken : List α
  kept : List α
  other : List α

namespace Merge

/-- A merge is over when at most one kept element is left, or none of the other run. -/
def isOver (m : Merge α) : Bool := m.other.isEmpty || m.kept.length ≤ 1

/-- The elements in their final order: what is left of the kept run goes last. -/
def result (m : Merge α) : List α := m.taken.reverse ++ m.other ++ m.kept

def takeKept (n : Nat) (m : Merge α) : Merge α :=
  ⟨(m.kept.take n).reverse ++ m.taken, m.kept.drop n, m.other⟩

def takeOther (n : Nat) (m : Merge α) : Merge α :=
  ⟨(m.other.take n).reverse ++ m.taken, m.kept, m.other.drop n⟩

end Merge

/-- The rule of a merge: whether an element of the other run goes before a kept one, and how leaps are halved. -/
structure MergeRule (ε α : Type) where
  otherFirst : α → α → Except ε Bool
  upper : Bool

/-- A leap counts as long from this length on, and this is the patience at the beginning. -/
def longLeap : Nat := 7

namespace MergeRule

/-- Leaps over the kept elements that go before the next other one, and takes that one; the number of elements leapt
over comes with it. -/
def leapKept (r : MergeRule ε α) (m : Merge α) : Except ε (Merge α × Nat) :=
  match m.isOver, m.other with
  | false, q :: _ => do
    let n ← gallop r.upper (fun p => (r.otherFirst q p).map not) m.kept
    let m := m.takeKept n
    return (if m.isOver then m else m.takeOther 1, n)
  | _, _ => .ok (m, 0)

/-- Leaps over the other elements that go before the next kept one, and takes that one. -/
def leapOther (r : MergeRule ε α) (m : Merge α) : Except ε (Merge α × Nat) :=
  match m.isOver, m.kept with
  | false, p :: _ => do
    let n ← gallop r.upper (fun q => r.otherFirst q p) m.other
    let m := m.takeOther n
    return (if m.isOver then m else m.takeKept 1, n)
  | _, _ => .ok (m, 0)

/-- One leap in each run; a merge from the front begins with the kept run. -/
def leapBoth (r : MergeRule ε α) (m : Merge α) : Except ε (Merge α × Nat) := do
  if r.upper then
    let (m, a) ← r.leapKept m
    let (m, b) ← r.leapOther m
    return (m, max a b)
  else
    let (m, a) ← r.leapOther m
    let (m, b) ← r.leapKept m
    return (m, max a b)

/-- How the next elements are taken: one by one, counting how often each run won in succession, or by leaps. -/
inductive Pace where
  | single (keptWins otherWins : Nat)
  | leaping

/-- Takes the next element, or the next two leaps; the pace and the patience for what follows come with it. -/
def advance (r : MergeRule ε α) (pace : Pace) (patience : Nat) (m : Merge α) : Except ε (Merge α × Pace × Nat) :=
  match pace, m.kept, m.other with
  | .single keptWins otherWins, p :: _, q :: _ => do
    if ← r.otherFirst q p then
      return (m.takeOther 1, if patience ≤ otherWins + 1 then .leaping else .single 0 (otherWins + 1), patience)
    else
      return (m.takeKept 1, if patience ≤ keptWins + 1 then .leaping else .single (keptWins + 1) 0, patience)
  | _, _, _ => do
    let (m, longest) ← r.leapBoth m
    if m.isOver then return (m, .leaping, patience)
    else if longLeap ≤ longest then return (m, .leaping, max (patience - 1) 1)
    else return (m, .single 0 0, patience + 1)

/-- Takes elements until the merge is over; each step takes one, so their number is enough fuel. -/
def run (r : MergeRule ε α) : Nat → Pace → Nat → Merge α → Except ε (List α × Nat)
  | 0, _, patience, m => .ok (m.result, patience)
  | fuel + 1, pace, patience, m => do
    if m.isOver then return (m.result, patience)
    let (m, pace, patience) ← r.advance pace patience m
    r.run fuel pace patience m

/-- Merges a kept run with another one whose first element is known to come first. -/
def merge (r : MergeRule ε α) (patience : Nat) (kept other : List α) : Except ε (List α × Nat) :=
  r.run (kept.length + other.length) (.single 0 0) patience (Merge.takeOther 1 ⟨[], kept, other⟩)

end MergeRule

/-- Merges two neighbouring ascending runs. The elements of the first one that stay at the front and those of the second
one that stay at the back are set aside before. -/
def mergeRuns (below : α → α → Except ε Bool) (patience : Nat) (first second : List α) :
    Except ε (List α × Nat) :=
  match second with
  | [] => .ok (first, patience)
  | y :: _ => do
    let n ← gallop true (fun x => (below y x).map not) first
    let front := first.take n
    let first := first.drop n
    match first.getLast? with
    | none => return (front ++ second, patience)
    | some x =>
      let k ← gallop false (fun z => (below z x).map not) second.reverse
      let back := second.drop (second.length - k)
      let second := second.take (second.length - k)
      let (middle, patience) ←
        if second.isEmpty then pure (first, patience)
        else if first.length ≤ second.length then MergeRule.merge ⟨below, true⟩ patience first second
        else do
          let (m, patience) ← MergeRule.merge ⟨fun q p => below p q, false⟩ patience second.reverse first.reverse
          pure (m.reverse, patience)
      return (front ++ middle ++ back, patience)

end PaymentIdentifiers.Sorting
