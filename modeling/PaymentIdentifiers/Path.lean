import PaymentIdentifiers.Text.Basic

/-!
# Paths

A path is written with its superfluous slashes and dots left out; two points for the place above stay.
-/
namespace PaymentIdentifiers

structure Path where
  /-- One or two slashes for an absolute path; exactly two are kept, more become one. -/
  root : Text
  steps : List Text
deriving DecidableEq, Repr

namespace Path

def rootOf : Text → Text
  | '/' :: '/' :: '/' :: _ => ['/']
  | '/' :: '/' :: _ => ['/', '/']
  | '/' :: _ => ['/']
  | _ => []

def ofText (t : Text) : Path := ⟨rootOf t, (Text.cut '/' t).filter fun s => s ≠ [] ∧ s ≠ ['.']⟩

def text (p : Path) : Text :=
  let t := p.root ++ Text.joined "/" p.steps
  if t.isEmpty then ['.'] else t

/-- The last step, if there is one. -/
def name (p : Path) : Text := p.steps.getLastD []

/-- The step to the place above. -/
def upward : Text := ['.', '.']

/-- The path up to the first `n` steps. -/
def take (p : Path) (n : Nat) : Path := ⟨p.root, p.steps.take n⟩

/-- No path holds the character zero. -/
def hasZero (p : Path) : Bool := p.text.contains '\x00'

/-- The number of bytes of a text. -/
def byteLength (t : Text) : Nat := t.foldr (fun c n => c.utf8Size + n) 0

def maxName : Nat := 255
def maxPath : Nat := 4095

/-- Whether a name is longer than any file's. -/
def isLongName (s : Text) : Bool := maxName < byteLength s

/-- Whether a path is longer than any that can be looked up. -/
def isLong (p : Path) : Bool := maxPath < byteLength p.text

end Path
end PaymentIdentifiers
