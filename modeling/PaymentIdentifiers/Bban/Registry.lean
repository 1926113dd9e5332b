import PaymentIdentifiers.Bban.Table

/-!
# The registry of structures

A registry maps country codes to structures and remembers the order of insertion. It is built row by row; each
code of a row, the country before its subdivisions, may be registered only once.
-/
namespace PaymentIdentifiers.Bban

abbrev Registry := List (Text × Layout)

namespace Registry

def codes (r : Registry) : List Text := r.map Prod.fst

/-- Registers a structure under each of the codes. -/
def insertAll (l : Layout) : List Text → Registry → Except LayoutError Registry
  | [], r => .ok r
  | code :: rest, r => if code ∈ r.codes then .error (.duplicate code) else insertAll l rest (r ++ [(code, l)])

def addRow (r : Registry) (row : Row) : Except LayoutError Registry :=
  match row.layout with
  | .error e => .error e
  | .ok l => insertAll l row.codes r

def addRows (r : Registry) : List Row → Except LayoutError Registry
  | [] => .ok r
  | row :: rows =>
    match r.addRow row with
    | .error e => .error e
    | .ok s => addRows s rows

def build (rows : List Row) : Except LayoutError Registry := addRows [] rows

/-- The structure registered under exactly this code. -/
def find? (r : Registry) (code : Text) : Option Layout := r.lookup code

/-- Appends a structure to a list that does not have it yet. -/
def appendNew (ls : List Layout) (l : Layout) : List Layout := if l ∈ ls then ls else ls ++ [l]

/-- The distinct structures in the order of their first registration. -/
def layouts (r : Registry) : List Layout := (r.map Prod.snd).foldl appendNew []

def supported (r : Registry) : List Text := Text.sortDistinct r.codes

/-- The registry of the table. -/
def standard : Registry := (build tableRows).toOption.getD []

theorem standard_ne_nil : standard ≠ [] := by decide +kernel

theorem foldl_appendNew_ne_nil {ls ms : List Layout} (h : ls ≠ []) : ms.foldl appendNew ls ≠ [] := by
  induction ms generalizing ls with
  | nil => exact h
  | cons m ms ih =>
    apply ih
    unfold appendNew
    split <;> simp [h]

theorem layouts_ne_nil {r : Registry} (h : r ≠ []) : r.layouts ≠ [] := by
  cases r with
  | nil => exact absurd rfl h
  | cons e r =>
    change (r.map Prod.snd).foldl appendNew (appendNew [] e.2) ≠ []
    exact foldl_appendNew_ne_nil (by simp [appendNew])

end Registry

/-- The structure that account numbers of a country follow. -/
def layoutOf (code : Text) : Option Layout := Registry.standard.find? code

/-- The structure for an argument; no country has none. -/
def layoutFor (country : CountryArgument) : Except ArgumentError (Option Layout) :=
  if country.isMissing then .ok none
  else match country.ref with
    | .error e => .error e
    | .ok ref => .ok (layoutOf ref.alpha2)

/-- The test of an account number for a country; a country without a structure has no test. -/
def acceptsFor (country : CountryArgument) (bban : Datum) : Except ArgumentError Bool :=
  match layoutFor country with
  | .error e => .error e
  | .ok none => .error (.lacks (Datum.kindName .missing) "is_bban_valid")
  | .ok (some l) => l.acceptsDatum bban

end PaymentIdentifiers.Bban
