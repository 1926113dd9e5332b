import PaymentIdentifiers.Swift.CharClass

/-!
# Groups of a format

A group asks that every position from `start` on, `length` of them, holds a member of its class. Positions are
read like `Text.at?` does: negative ones count from the end, and one outside the text makes the answer
undefined. A scan stops at the first character outside the class.
-/
namespace PaymentIdentifiers.Swift

structure Group where
  charClass : CharClass
  start : Int
  length : Int
deriving DecidableEq, Repr

namespace Group

/-- The first position behind the group. -/
def stop (g : Group) : Int := g.start + g.length

/-- Tests `n` positions from `i` on; `none` when a position outside the text is reached. -/
def scan (k : CharClass) (t : Text) : Nat → Int → Option Bool
  | 0, _ => some true
  | n + 1, i =>
    match t.at? i with
    | none => none
    | some c => if k.has c then scan k t n (i + 1) else some false

/-- Tests the first `n` characters, which is a scan from position zero on. -/
def scanFront (k : CharClass) : Nat → Text → Option Bool
  | 0, _ => some true
  | _ + 1, [] => none
  | n + 1, c :: t => if k.has c then scanFront k n t else some false

/-- Whether the text has members of the class at all positions of the group. -/
def run (g : Group) (t : Text) : Option Bool :=
  if 0 ≤ g.start then scanFront g.charClass g.length.toNat (t.drop g.start.toNat)
  else scan g.charClass t g.length.toNat g.start

/-- A group can be joined to the group that begins where it stops, if both ask for the same class. -/
def canMerge (g h : Group) : Bool := g.charClass = h.charClass && g.stop == h.start

/-- How many positions a row of groups takes. -/
def totalLength : List Group → Nat
  | [] => 0
  | g :: gs => g.length.toNat + totalLength gs

def merge (g h : Group) : Group := { g with length := g.length + h.length }

/-- Joins a group to the last one of a reversed list if possible, and appends it otherwise. -/
def pushMerged : List Group → Group → List Group
  | [], g => [g]
  | last :: done, g => if last.canMerge g then last.merge g :: done else g :: last :: done

/-- Joins neighbours of one class, from left to right. -/
def mergeAll (gs : List Group) : List Group := (gs.foldl pushMerged []).reverse

@[simp] theorem scan_zero (k : CharClass) (t : Text) (i : Int) : scan k t 0 i = some true := rfl

theorem scan_eq_scanFront (k : CharClass) (t : Text) (n i : Nat) : scan k t n i = scanFront k n (t.drop i) := by
  induction n generalizing i with
  | zero => rfl
  | succ n ih =>
    have hi : t.at? (i : Int) = t[i]? := by simp [Text.at?, Text.elementAt?]
    have hn : ((i : Int) + 1) = ((i + 1 : Nat) : Int) := by omega
    simp only [scan, hi, hn, ih]
    rcases Nat.lt_or_ge i t.length with h | h
    · rw [List.getElem?_eq_getElem h, List.drop_eq_getElem_cons h]
      rfl
    · rw [List.getElem?_eq_none h, List.drop_eq_nil_of_le h]
      rfl

/-- A run is a scan from the start of the group on. -/
theorem run_eq_scan (g : Group) (t : Text) : g.run t = scan g.charClass t g.length.toNat g.start := by
  unfold run
  split
  · rename_i h
    rw [← scan_eq_scanFront, Int.toNat_of_nonneg h]
  · rfl

theorem scan_add (k : CharClass) (t : Text) (m n : Nat) (i : Int) :
    scan k t (m + n) i = (scan k t m i).bind fun ok => if ok then scan k t n (i + m) else some false := by
  induction m generalizing i with
  | zero => simp
  | succ m ih =>
    rw [Nat.succ_add]
    simp only [scan]
    cases t.at? i with
    | none => rfl
    | some c =>
      by_cases hc : k.has c
      · simp only [hc, if_true, ih]
        have h : i + 1 + (m : Int) = i + ((m + 1 : Nat) : Int) := by omega
        rw [h]
      · simp [hc]

end Group
end PaymentIdentifiers.Swift
