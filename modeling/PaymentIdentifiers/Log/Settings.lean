import PaymentIdentifiers.Datum
import PaymentIdentifiers.Path.Making
import PaymentIdentifiers.Text.Basic

/-!
# Settings of a log

A log has a console with a threshold, and a file if a folder is named. Both are given as arguments or, if these say
nothing, by the environment. What is wrong with the level is found before there is a console, and what is wrong with the
folder when there is one already.
-/
namespace PaymentIdentifiers.Log

/-- The arguments, and the values of the environment. -/
structure Settings where
  level : Datum
  folder : Datum
  environmentLevel : Datum
  environmentFolder : Datum

/-- Why a value cannot be put into the environment. -/
inductive EnvironmentError where
  | notText (kind : Text)
  | zeroCharacter
deriving DecidableEq, Repr

def EnvironmentError.message : EnvironmentError → Text
  | notText kind => "str expected, not " ++ kind
  | zeroCharacter => MakingError.message .zeroCharacter

/-- The text of a value of the environment; a missing one is no text. -/
def environmentText? : Datum → Except EnvironmentError (Option Text)
  | .missing => .ok none
  | .text t => if t.contains '\x00' then .error .zeroCharacter else .ok (some t)
  | d => .error (.notText d.kindName)

/-- Why there is no console. -/
inductive LevelError where
  /-- The name stands for a line format. -/
  | lineFormat
  /-- The name stands for the table of line styles. -/
  | styleTable
  /-- The level is no text; the kind of value is reported. -/
  | notText (kind : Text)
deriving DecidableEq, Repr

/-- A line style: its sign, the name of its class, and its format. -/
def styleText (s : Text × Text × Text) : Text :=
  s.1.quoted ++ ": (<class 'logging." ++ s.2.1 ++ "'>, " ++ s.2.2.quoted ++ ")"

def lineFormat : Text := "%(levelname)s:%(name)s:%(message)s"

def lineStyles : List (Text × Text × Text) :=
  [("%", "PercentStyle", lineFormat),
    ("\x7b", "StrFormatStyle", "\x7blevelname\x7d:\x7bname\x7d:\x7bmessage\x7d"),
    ("$", "StringTemplateStyle", "$\x7blevelname\x7d:$\x7bname\x7d:$\x7bmessage\x7d")]

def LevelError.message : LevelError → Text
  | lineFormat => "Unknown level: " ++ Log.lineFormat.quoted
  | styleTable =>
    "Level not an integer or a valid string: \x7b" ++ Text.joined ", " (lineStyles.map styleText) ++ ['\x7d']
  | notText kind => kind.quoted ++ " object has no attribute 'upper'"

/-- Why there is no file. -/
inductive FolderError where
  /-- The folder is no text; the kind of value is reported. -/
  | notPath (kind : Text)
  /-- The path begins at the home of somebody unknown. -/
  | noHome
  | making (e : MakingError)
deriving DecidableEq, Repr

def FolderError.message : FolderError → Text
  | notPath kind => "expected str, bytes or os.PathLike object, not " ++ kind
  | noHome => "Could not determine home directory."
  | making e => e.message

/-- The upper case of a character as far as it can be part of a level name; few letters outside ASCII have an upper case
in ASCII. -/
def upperLetter (c : Char) : Text :=
  if c == 'ı' then ['I']
  else if c == 'ſ' then ['S']
  else if c == 'ﬅ' || c == 'ﬆ' then ['S', 'T']
  else [c.toUpper]

def upperName (t : Text) : Text := t.flatMap upperLetter

/-- The weight that a level name stands for; an unknown name stands for INFO. -/
def thresholdOf (name : Text) : Except LevelError Nat :=
  match String.ofList (upperName name) with
  | "CRITICAL" | "FATAL" => .ok 50
  | "ERROR" => .ok 40
  | "WARNING" | "WARN" => .ok 30
  | "DEBUG" => .ok 10
  | "NOTSET" => .ok 0
  | "BASIC_FORMAT" => .error .lineFormat
  | "_STYLES" => .error .styleTable
  | _ => .ok 20

/-- The home that a path begins at: one's own, or that of the administrator. -/
def home? (s : Text) : Option (List Text) :=
  match String.ofList s with
  | "~" | "~root" => some ["root".toList]
  | _ => none

/-- Puts a home in the place of a first step with a tilde. -/
def atHome (p : Path) : Except FolderError Path :=
  match p.root, p.steps with
  | [], ('~' :: s) :: rest =>
    match home? ('~' :: s) with
    | some steps => .ok ⟨['/'], steps ++ rest⟩
    | none => .error (if s.contains '\x00' then .making .zeroCharacter else .noHome)
  | _, _ => .ok p

namespace Settings

/-- Whether an argument says something. -/
def isGiven : Datum → Bool
  | .missing => false
  | .truth b => b
  | .whole n => n != 0
  | .real x => !(x == 0)
  | .text t => !t.isEmpty
  | .list ds => !ds.isEmpty
  | .record fs => !fs.isEmpty

/-- The threshold of the console; the environment may hold a level. -/
def threshold (s : Settings) (environment : Option Text) : Except LevelError Nat :=
  match isGiven s.level, s.level with
  | false, _ => thresholdOf (environment.getD "INFO")
  | true, .text t => thresholdOf t
  | true, d => .error (.notText d.kindName)

/-- The path of the folder for the file, if one is named; the environment may hold it. -/
def path? (s : Settings) (environment : Option Text) : Except FolderError (Option Path) :=
  match isGiven s.folder, s.folder with
  | false, _ =>
    match (environment.getD []).trim with
    | [] => .ok none
    | t => (atHome (.ofText t)).map some
  | true, .text t => (atHome (.ofText t)).map some
  | true, d => .error (.notPath d.kindName)

end Settings
end PaymentIdentifiers.Log
