import PaymentIdentifiers.Text.Basic

/-!
# Ranges of positions

A range holds at least one position. It is made from two integer bounds, and a pair of bounds that is no range
is kept in the error.
-/
namespace PaymentIdentifiers.Bban

structure Range where
  start : Nat
  stop : Nat
  start_lt_stop : start < stop
deriving DecidableEq, Repr

structure RangeError where
  start : Int
  stop : Int
deriving DecidableEq, Repr

namespace Range

/-- The bounds as they are shown, the upper one open. -/
def boundsText (start stop : Int) : Text := "[" ++ Text.ofInt start ++ ", " ++ Text.ofInt stop ++ ")"

def ofBounds (start stop : Int) : Except RangeError Range :=
  if h : 0 ≤ start ∧ start < stop then .ok ⟨start.toNat, stop.toNat, by omega⟩ else .error ⟨start, stop⟩

/-- The part of a text in the range. -/
def slice (r : Range) (t : Text) : Text := t.slice r.start r.stop

def text (r : Range) : Text := boundsText r.start r.stop

theorem length_slice {r : Range} {t : Text} (h : r.stop ≤ t.length) : (r.slice t).length = r.stop - r.start := by
  simp only [slice, Text.length_slice]
  omega

end Range

def RangeError.message (e : RangeError) : Text := "invalid range " ++ Range.boundsText e.start e.stop

end PaymentIdentifiers.Bban
