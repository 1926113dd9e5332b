import PaymentIdentifiers.Session.Item
import PaymentIdentifiers.Session.Number

/-!
# Comparing items

Items of different kinds are never equal. IBANs, BICs and creditor identifiers are ordered by their texts, each among
their own kind, and so are plain texts; numbers are ordered by value, and lists by their first elements that are not
equal. Nothing else has an order.
-/
namespace PaymentIdentifiers.Session

mutual

/-- Whether two plain values are equal; the order of the fields of a record does not count. -/
def sameValue : Datum → Datum → Bool
  | .missing, .missing => true
  | .text s, .text t => s == t
  | .list xs, .list ys => sameValues xs ys
  | .record fs, .record gs => fs.length == gs.length && allFound fs gs
  | d, e =>
    match Number.ofDatum? d, Number.ofDatum? e with
    | some m, some n => m.equal n
    | _, _ => false

def sameValues : List Datum → List Datum → Bool
  | [], [] => true
  | x :: xs, y :: ys => sameValue x y && sameValues xs ys
  | _, _ => false

/-- Whether each field is found with an equal value. -/
def allFound : List (Text × Datum) → List (Text × Datum) → Bool
  | [], _ => true
  | (k, x) :: fs, gs =>
    (match gs.lookup k with
      | some y => sameValue x y
      | none => false) && allFound fs gs

end

/-- Whether two items are equal. -/
def Item.equal : Item → Item → Bool
  | .identifier (.card x), .identifier (.card y) => x.number == y.number
  | .identifier x, .identifier y => x == y
  | .pattern p, .pattern q => p.expression == q.expression
  | .range r, .range s => r == s
  | .group g, .group h => g == h
  | .layout l, .layout m => l == m
  | .plain d, .plain e => sameValue d e
  | _, _ => false

inductive Relation where
  | equal
  | notEqual
  | below
  | belowOrEqual
  | above
  | aboveOrEqual
deriving DecidableEq, Repr

namespace Relation

def all : List Relation := [equal, notEqual, below, belowOrEqual, above, aboveOrEqual]

def symbol : Relation → Text
  | equal => "=="
  | notEqual => "!="
  | below => "<"
  | belowOrEqual => "<="
  | above => ">"
  | aboveOrEqual => ">="

/-- Whether the relation holds between two things of which one may be smaller than the other. -/
def holds (r : Relation) (firstSmaller secondSmaller : Bool) : Bool :=
  match r with
  | equal => !firstSmaller && !secondSmaller
  | notEqual => firstSmaller || secondSmaller
  | below => firstSmaller
  | belowOrEqual => !secondSmaller
  | above => secondSmaller
  | aboveOrEqual => !firstSmaller

/-- Whether the relation holds between two numbers; none holds for what is not a number. -/
def ofNumbers (r : Relation) (m n : Number) : Bool :=
  m != .notANumber && n != .notANumber && r.holds (m.below n) (n.below m)

end Relation

/-- Two items of these kinds have no order. -/
structure NoOrder where
  relation : Relation
  left : Text
  right : Text
deriving DecidableEq, Repr

def NoOrder.message (e : NoOrder) : Text :=
  e.relation.symbol.quoted ++ " not supported between instances of " ++ e.left.quoted ++ " and " ++ e.right.quoted

mutual

/-- Compares two plain values in an order relation. -/
def Relation.compareValues (r : Relation) : Datum → Datum → Except NoOrder Bool
  | .text s, .text t => .ok (r.holds (Text.before s t) (Text.before t s))
  | .list xs, .list ys => r.compareLists xs ys
  | d, e =>
    match Number.ofDatum? d, Number.ofDatum? e with
    | some m, some n => .ok (r.ofNumbers m n)
    | _, _ => .error ⟨r, d.kindName, e.kindName⟩

/-- Compares two lists in an order relation: at the first elements that are not equal, or else by their lengths. -/
def Relation.compareLists (r : Relation) : List Datum → List Datum → Except NoOrder Bool
  | [], [] => .ok (r.holds false false)
  | [], _ :: _ => .ok (r.holds true false)
  | _ :: _, [] => .ok (r.holds false true)
  | x :: xs, y :: ys => if sameValue x y then r.compareLists xs ys else r.compareValues x y

end

/-- Whether the first of two identifiers is smaller, if they have an order. -/
def smallerIdentifier? : Identifier → Identifier → Option Bool
  | .iban x, .iban y => some (Text.before x.text y.text)
  | .bic x, .bic y => some (Text.before x.text y.text)
  | .creditorIdentifier x, .creditorIdentifier y => some (Text.before x.text y.text)
  | _, _ => none

/-- Compares two items in an order relation. -/
def Relation.order (r : Relation) (a b : Item) : Except NoOrder Bool :=
  match a, b with
  | .plain d, .plain e => r.compareValues d e
  | .identifier x, .identifier y =>
    match smallerIdentifier? x y, smallerIdentifier? y x with
    | some first, some second => .ok (r.holds first second)
    | _, _ => .error ⟨r, a.kindName, b.kindName⟩
  | _, _ => .error ⟨r, a.kindName, b.kindName⟩

/-- Compares two items. -/
def Relation.compare (r : Relation) (a b : Item) : Except NoOrder Bool :=
  match r with
  | equal => .ok (a.equal b)
  | notEqual => .ok (!a.equal b)
  | _ => r.order a b

/-- What the place of an item in a set depends on: two items with different keys are never equal. Numbers go by their
residues, which the empty text shares with zero. -/
inductive HashKey where
  | text (t : Text)
  | number (residue : Int)
  | range (start stop : Int)
  | group (charClass : Swift.CharClass) (start length : Int)
  | layout (l : Bban.Layout)
  | missing
deriving DecidableEq

def HashKey.ofText (t : Text) : HashKey := if t.isEmpty then .number 0 else .text t

def wholeResidue (n : Int) : Int := (Number.ofInt n).residue

/-- The key of an item; lists and records have none. -/
def Item.hashKey : Item → Except ArgumentError HashKey
  | .identifier x => .ok (.ofText x.text)
  | .pattern p => .ok (.ofText p.expression)
  | .range r => .ok (.range (wholeResidue r.start) (wholeResidue r.stop))
  | .group g => .ok (.group g.charClass (wholeResidue g.start) (wholeResidue g.length))
  | .layout l => .ok (.layout l)
  | .plain (.text t) => .ok (.ofText t)
  | .plain .missing => .ok .missing
  | .plain d =>
    match Number.ofDatum? d with
    | some n => .ok (.number n.residue)
    | none => .error (.notHashable d.kindName)

/-- The number of different items; all of them need a key. -/
def countDistinct (seen : List Item) : List Item → Except ArgumentError Nat
  | [] => .ok seen.length
  | x :: xs => do
    let _ ← x.hashKey
    countDistinct (if seen.any x.equal then seen else x :: seen) xs

end PaymentIdentifiers.Session
