import PaymentIdentifiers.Sorting.Merge

/-!
# Sorting by runs

A list is cut into ascending runs; a short run is lengthened by insertion, where the place of each element is found by
halving. The runs are merged in an order that keeps them balanced: each border between two runs has a level in the
binary tree over all positions, and a run is merged before the next one is added behind a border of a higher level.
`sortBy` is stable. Comparisons may fail, and the first failure is the result, so their order matters.
-/
namespace PaymentIdentifiers.Sorting

variable {ε α : Type}

/-- Splits off the elements that do not fall below the one before them. -/
def risingRun (below : α → α → Except ε Bool) (last : α) : List α → Except ε (List α × List α)
  | [] => .ok ([], [])
  | x :: xs => do
    if ← below x last then return ([], x :: xs)
    let (run, rest) ← risingRun below x xs
    return (x :: run, rest)

/-- Splits off the elements that fall below the one before them. -/
def fallingRun (below : α → α → Except ε Bool) (last : α) : List α → Except ε (List α × List α)
  | [] => .ok ([], [])
  | x :: xs => do
    if ← below x last then
      let (run, rest) ← fallingRun below x xs
      return (x :: run, rest)
    else return ([], x :: xs)

/-- Splits off the longest run at the beginning, in ascending order. -/
def firstRun (below : α → α → Except ε Bool) : List α → Except ε (List α × List α)
  | [] => .ok ([], [])
  | [x] => .ok ([x], [])
  | x :: y :: rest => do
    if ← below y x then
      let (run, others) ← fallingRun below y rest
      return ((x :: y :: run).reverse, others)
    else
      let (run, others) ← risingRun below y rest
      return (x :: y :: run, others)

/-- The place for an element in an ascending list between two indices, behind the elements equal to it. -/
def placeBetween (below : α → α → Except ε Bool) (x : α) (xs : List α) (low high : Nat) : Except ε Nat :=
  if _h : low < high then
    match xs[(low + high) / 2]? with
    | none => .ok high
    | some y => do
      if ← below x y then placeBetween below x xs low ((low + high) / 2)
      else placeBetween below x xs ((low + high) / 2 + 1) high
  else .ok low
termination_by high - low

/-- Inserts elements one after the other into an ascending list. -/
def insertEach (below : α → α → Except ε Bool) (sorted : List α) : List α → Except ε (List α)
  | [] => .ok sorted
  | x :: xs => do
    let n ← placeBetween below x sorted 0 sorted.length
    insertEach below (sorted.take n ++ x :: sorted.drop n) xs

/-- The least length of a run but the last one: the length of the list, halved until it is below 64 and rounded up. -/
def minimumRun (n : Nat) : Nat :=
  if _h : 64 ≤ n then
    if n % 2 = 1 then upward (n / 2) else minimumRun (n / 2)
  else n
where
  /-- Once a one has been cut off, the result is rounded up. -/
  upward (n : Nat) : Nat := if _h : 64 ≤ n then upward (n / 2) else n + 1

/-- A run with the index of its first element, and the level of the border behind it once it has a neighbour there. -/
structure Run (α : Type) where
  items : List α
  start : Nat
  level : Nat

/-- The level of the border between two runs: the first binary digit in which their middles differ, as fractions of the
whole length `n`. The middles are given doubled. -/
def borderLevel (n : Nat) : Nat → Nat → Nat → Nat
  | 0, _, _ => 0
  | fuel + 1, a, b =>
    if n ≤ a then borderLevel n fuel (2 * (a - n)) (2 * (b - n)) + 1
    else if n ≤ b then 1
    else borderLevel n fuel (2 * a) (2 * b) + 1

/-- The level of the border between a run and the next one of length `k`. -/
def Run.levelBefore (r : Run α) (n k : Nat) : Nat :=
  let a := 2 * r.start + r.items.length
  borderLevel n (n + 1) a (a + r.items.length + k)

/-- Merges the topmost runs as long as the border between them is of a higher level than the new one. -/
def settle (below : α → α → Except ε Bool) (level patience : Nat) : List (Run α) → Except ε (List (Run α) × Nat)
  | top :: second :: rest =>
    if level < second.level then do
      let (items, patience) ← mergeRuns below patience second.items top.items
      settle below level patience (⟨items, second.start, second.level⟩ :: rest)
    else .ok ({ top with level := level } :: second :: rest, patience)
  | [top] => .ok ([{ top with level := level }], patience)
  | [] => .ok ([], patience)
termination_by runs => runs.length

/-- Merges all runs from the top, a shorter run below before a longer one above. -/
def mergeAll (below : α → α → Except ε Bool) (patience : Nat) : List (Run α) → Except ε (List α)
  | top :: second :: third :: rest =>
    if third.items.length < top.items.length then do
      let (items, patience) ← mergeRuns below patience third.items second.items
      mergeAll below patience (top :: ⟨items, third.start, third.level⟩ :: rest)
    else do
      let (items, patience) ← mergeRuns below patience second.items top.items
      mergeAll below patience (⟨items, second.start, second.level⟩ :: third :: rest)
  | [top, second] => do
    let (items, _) ← mergeRuns below patience second.items top.items
    return items
  | [top] => .ok top.items
  | [] => .ok []
termination_by runs => runs.length

/-- Cuts the rest of a list of length `n` into runs and adds them to those found before, the last one first. Each run
takes an element, so the length of the rest is enough fuel. -/
def sortRest (below : α → α → Except ε Bool) (n : Nat) :
    Nat → Nat → List (Run α) → List α → Except ε (List α)
  | fuel + 1, patience, runs, x :: xs => do
    let (run, rest) ← firstRun below (x :: xs)
    let extra := minimumRun n - run.length
    let items ← insertEach below run (rest.take extra)
    let (runs, patience) ← match runs with
      | [] => pure ([], patience)
      | top :: _ => settle below (top.levelBefore n items.length) patience runs
    sortRest below n fuel patience (⟨items, n - (x :: xs).length, 0⟩ :: runs) (rest.drop extra)
  | _, patience, runs, _ => mergeAll below patience runs

/-- Sorts a list in ascending order; equal elements keep their order. -/
def sortBy (below : α → α → Except ε Bool) (xs : List α) : Except ε (List α) :=
  match xs with
  | [] => .ok []
  | [x] => .ok [x]
  | _ => sortRest below xs.length xs.length longLeap [] xs

/-- Sorts a list in descending order; equal elements keep their order. -/
def sortDownBy (below : α → α → Except ε Bool) (xs : List α) : Except ε (List α) :=
  (sortBy below xs.reverse).map List.reverse

end PaymentIdentifiers.Sorting
