import PaymentIdentifiers.Identifier

/-!
# Random identifiers

Identifiers are drawn from a sequence of numbers: the number of a choice, modulo the count of candidates, tells
which one is taken. The first number chooses the country, each further one a character.
-/
namespace PaymentIdentifiers

/-- The number drawn for each choice, counted from zero. -/
abbrev Draws := Nat → Int

namespace Draws

/-- Repeats a list of numbers for ever; nothing can be drawn from an empty one. -/
def cycle? (ns : List Int) : Option Draws := if ns.isEmpty then none else some fun k => ns.getD (k % ns.length) 0

/-- The draws after the first `k` ones. -/
def skip (d : Draws) (k : Nat) : Draws := fun i => d (k + i)

end Draws

/-- The candidate for a number; a number below zero counts from the end. -/
def choose {α : Type} (n : Int) (candidates : List α) (h : candidates ≠ []) : α :=
  candidates.get ⟨(n % candidates.length).toNat, by
    have := List.length_pos_iff.2 h
    have := Int.emod_nonneg n (b := candidates.length) (by omega)
    have := Int.emod_lt_of_pos n (b := candidates.length) (by omega)
    omega⟩

theorem choose_mem {α : Type} (n : Int) (candidates : List α) (h : candidates ≠ []) :
    choose n candidates h ∈ candidates := List.get_mem _ _

inductive SamplingError where
  | argument (e : ArgumentError)
  /-- There is no number to choose by. -/
  | noDraws
  | noStructure (code : Text)
  | rejected (r : Rejection)
deriving DecidableEq, Repr

def SamplingError.message : SamplingError → Text
  | argument e => e.message
  | noDraws => "integer modulo by zero"
  | noStructure code => "no BBAN structure could be found for country " ++ code.quoted
  | rejected r => r.message

def Draws.ofList (ns : List Int) : Except SamplingError Draws :=
  match Draws.cycle? ns with
  | some d => .ok d
  | none => .error .noDraws

namespace Swift

theorem CharClass.alphabet_ne_nil (k : CharClass) : k.alphabet ≠ [] := by
  cases k <;> decide

def CharClass.sample (k : CharClass) (n : Int) : Char := choose n k.alphabet k.alphabet_ne_nil

/-- One random member of each class, in order. -/
def sampleClasses (d : Draws) : List CharClass → Text
  | [] => []
  | k :: ks => k.sample (d 0) :: sampleClasses (d.skip 1) ks

end Swift

/-- A random account number in the format of a structure, one choice for each position. -/
def Bban.Layout.sample (l : Bban.Layout) (d : Draws) : Text := Swift.sampleClasses d l.pattern.classes

/-- A random account number of a country; a country without a structure has no pattern to follow. -/
def Bban.sampleFor (country : CountryArgument) (ns : List Int) : Except SamplingError Text :=
  match Bban.layoutFor country with
  | .error e => .error (.argument e)
  | .ok none => .error (.argument (.lacks (Datum.kindName .missing) "pattern"))
  | .ok (some l) => (Draws.ofList ns).map l.sample

/-- The code of the country chosen from a list, and the structure in use there. -/
def chooseLayout (countries : List CountryArgument) (n : Int) : Except SamplingError (Text × Bban.Layout) :=
  match countries with
  | [] =>
    let l := choose n Bban.Registry.standard.layouts (Bban.Registry.layouts_ne_nil Bban.Registry.standard_ne_nil)
    .ok (l.country, l)
  | c :: cs =>
    match (choose n (c :: cs) (List.cons_ne_nil c cs)).ref with
    | .error e => .error (.argument e)
    | .ok ref =>
      match Bban.layoutOf ref.alpha2 with
      | none => .error (.noStructure ref.alpha2)
      | some l => .ok (ref.alpha2, l)

/-- A random IBAN of one of the countries, or of any country if none is given. -/
def Iban.sample (countries : List CountryArgument) (d : Draws) : Except SamplingError Iban :=
  match chooseLayout countries (d 0) with
  | .error e => .error e
  | .ok (code, l) => (Iban.fromParts (.code code) (l.sample (d.skip 1))).mapError .rejected

namespace Bic

def sampleLetters : Text := Swift.CharClass.upperChars
def sampleCharacters : Text := Swift.CharClass.upperChars ++ Swift.CharClass.digitChars

theorem sampleLetters_ne_nil : sampleLetters ≠ [] := by decide
theorem sampleCharacters_ne_nil : sampleCharacters ≠ [] := by decide
theorem countryCodes_ne_nil : Country.codes ≠ [] := by decide

def chooseCode (countries : List CountryArgument) (n : Int) : Except ArgumentError Text :=
  match countries with
  | [] => .ok (choose n Country.codes countryCodes_ne_nil)
  | c :: cs => (choose n (c :: cs) (List.cons_ne_nil c cs)).ref.map CountryRef.alpha2

/-- The text of a random code: four letters, the country, and five letters or digits. The second of these is the
digit 0 in a test code. -/
def sampleText (code : Text) (test : Bool) (d : Draws) : Text :=
  let letter k := choose (d k) sampleLetters sampleLetters_ne_nil
  let character k := choose (d k) sampleCharacters sampleCharacters_ne_nil
  [letter 1, letter 2, letter 3, letter 4] ++ code ++
    [character 5, if test then '0' else character 6, character 7, character 8, character 9]

/-- A random code of one of the countries, or of any country if none is given. -/
def sample (countries : List CountryArgument) (test : Bool) (d : Draws) : Except Refusal Bic :=
  match chooseCode countries (d 0) with
  | .error e => .error (.argument e)
  | .ok code => (parse (sampleText code test d)).mapError .rejected

end Bic
end PaymentIdentifiers
