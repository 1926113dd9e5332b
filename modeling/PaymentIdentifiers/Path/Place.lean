import PaymentIdentifiers.Path
import PaymentIdentifiers.Text.Escaped

/-!
# Places in the file system

A path is looked up in a folder step by step, and what it leads to is read. The system may refuse both. Nothing is
supposed about the places outside the folder: what a path leads to there is part of what is given with it.
-/
namespace PaymentIdentifiers

/-- What the system reports if it does not do what it is asked for. -/
structure SystemError where
  number : Nat
  text : Text
  /-- Whether the path is reported too, which it is not once a file is open. -/
  withPath : Bool
deriving DecidableEq, Repr

namespace SystemError

def denied : SystemError := ⟨13, "Permission denied", true⟩
def alreadyThere : SystemError := ⟨17, "File exists", true⟩
def notFolder : SystemError := ⟨20, "Not a directory", true⟩
def isFolder : SystemError := ⟨21, "Is a directory", true⟩
def nameTooLong : SystemError := ⟨36, "File name too long", true⟩

def message (e : SystemError) (path : Text) : Text :=
  "[Errno " ++ Text.ofNat e.number ++ "] " ++ e.text ++ if e.withPath then ": " ++ path.escaped else []

end SystemError

/-- What a path leads to. -/
inductive Place where
  | file (content : ByteArray)
  | folder
  | absent
  /-- The system does not look there. -/
  | unreachable (e : SystemError)

/-- A folder with what lies below it, and what the system does about it. -/
structure Folder where
  /-- The bytes of the files by their steps. -/
  files : List (List Text × ByteArray)
  /-- The folders, of which those with files need not be listed. -/
  folders : List (List Text)
  /-- Why nothing is looked up in a folder below this one. -/
  closed : List Text → Option SystemError
  /-- What a path leads to that is absolute or leaves the folder. -/
  outside : Path → Place
  /-- Why the file or folder that a path leads to is not read. -/
  barred : Path → Option SystemError
  /-- Why no new folder is made for a path. -/
  refused : Path → Option SystemError

namespace Folder

/-- A folder of files that can all be read, with nothing around it. -/
def ofFiles (files : List (List Text × ByteArray)) : Folder where
  files := files
  folders := []
  closed := fun _ => none
  outside := fun _ => .absent
  barred := fun _ => none
  refused := fun _ => none

def isFolder (f : Folder) (steps : List Text) : Bool :=
  steps.isEmpty || f.folders.any (fun g => steps.isPrefixOf g) || f.files.any (fun g => steps.isPrefixOf g.1)

/-- Follows the last steps of a path from a place in the folder. -/
def walk (f : Folder) (p : Path) (here : List Text) : List Text → Place
  | [] => .folder
  | s :: rest =>
    match f.closed here with
    | some e => .unreachable e
    | none =>
      if s = Path.upward then if here.isEmpty then f.outside p else walk f p here.dropLast rest
      else if Path.isLongName s then .unreachable .nameTooLong
      else match f.files.lookup (here ++ [s]) with
        | some content => if rest.isEmpty then .file content else .absent
        | none => if f.isFolder (here ++ [s]) then walk f p (here ++ [s]) rest else .absent

/-- What a path leads to. -/
def find (f : Folder) (p : Path) : Place :=
  if p.hasZero then .absent
  else if p.isLong then .unreachable .nameTooLong
  else if p.root.isEmpty then f.walk p [] p.steps
  else f.outside p

/-- What comes of reading a path, if it leads anywhere. A folder has no bytes. -/
def read? (f : Folder) (p : Path) : Option (Except SystemError ByteArray) :=
  match f.find p with
  | .absent => none
  | .unreachable e => some (.error e)
  | .folder => some (.error ((f.barred p).getD .isFolder))
  | .file content =>
    match f.barred p with
    | some e => some (.error e)
    | none => some (.ok content)

end Folder
end PaymentIdentifiers
