import PaymentIdentifiers.Path.Place

/-!
# Making folders

A folder is made together with those it lies in, from the last one that is there already. Those that were made stay
also if a later one cannot be made.
-/
namespace PaymentIdentifiers

/-- Why a folder was not made. -/
inductive MakingError where
  | zeroCharacter
  | system (e : SystemError) (path : Text)
deriving DecidableEq, Repr

def MakingError.message : MakingError → Text
  | zeroCharacter => "embedded null byte"
  | system e path => e.message path

namespace Folder

/-- The place below the folder that the last steps of a path lead to from another one, unless they leave the folder. -/
def placeBelow? (here : List Text) : List Text → Option (List Text)
  | [] => some here
  | s :: rest =>
    if s = Path.upward then if here.isEmpty then none else placeBelow? here.dropLast rest
    else placeBelow? (here ++ [s]) rest

/-- The folder with a new one in it; one that is made outside is not seen here. -/
def withFolder (f : Folder) (p : Path) : Folder :=
  match p.root, placeBelow? [] p.steps with
  | [], some steps => { f with folders := f.folders ++ [steps] }
  | _, _ => f

/-- Makes a folder in one that is there. -/
def makeOne (f : Folder) (p : Path) : Except MakingError Folder :=
  match f.find p with
  | .folder => .ok f
  | .file _ => .error (.system .alreadyThere p.text)
  | .unreachable e => .error (.system e p.text)
  | .absent =>
    match f.refused p with
    | some e => .error (.system e p.text)
    | none => .ok (f.withFolder p)

/-- Makes folders one in another, up to the first that cannot be made. -/
def makeEach (f : Folder) : List Path → Folder × Option MakingError
  | [] => (f, none)
  | p :: ps =>
    match f.makeOne p with
    | .ok g => g.makeEach ps
    | .error e => (f, some e)

/-- The longest part of a path up to some of its steps that leads anywhere, with what it leads to. -/
def foothold (f : Folder) (p : Path) : Nat → Nat × Place
  | 0 => (0, f.find (p.take 0))
  | n + 1 =>
    match f.find (p.take (n + 1)) with
    | .absent => foothold f p n
    | place => (n + 1, place)

/-- Makes the folder of a path: all that was made, and why it is not all of them. -/
def make (f : Folder) (p : Path) : Folder × Option MakingError :=
  if p.hasZero then (f, some .zeroCharacter)
  else match f.foothold p p.steps.length with
    | (n, .unreachable e) => (f, some (.system e (p.take n).text))
    | (n, .file _) => (f, some (.system (if n = p.steps.length then .alreadyThere else .notFolder) p.text))
    | (n, .folder) | (n, .absent) => f.makeEach ((List.range' (n + 1) (p.steps.length - n)).map p.take)

end Folder
end PaymentIdentifiers
