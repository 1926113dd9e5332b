import PaymentIdentifiers.Log.Record
import PaymentIdentifiers.Log.Settings

/-!
# Where log records go

A sink is set up once: a console with a threshold, and a file if a folder is named and can be made in the working
folder or outside. Each of them masks a record before writing it; the file gets the record as the console left it.
-/
namespace PaymentIdentifiers.Log

structure Sink where
  /-- The least weight that the console writes. -/
  threshold : Nat
  /-- Whether there is a log file. -/
  keepsFile : Bool
  /-- The lines of the file, without the time at their beginning. -/
  fileLines : List Text
deriving DecidableEq, Repr

/-- Why a sink was not set up as it should be. -/
inductive SetupError where
  | environment (e : EnvironmentError)
  | level (e : LevelError)
  | folder (e : FolderError)
deriving DecidableEq, Repr

def SetupError.message : SetupError → Text
  | environment e => e.message
  | level e => e.message
  | folder e => e.message

namespace Sink

/-- A sink with nothing but its console. -/
def console (threshold : Nat) : Sink := ⟨threshold, false, []⟩

/-- Adds the file, unless the folder for it is not named or cannot be made. The folders that were made stay. -/
def withFile (k : Sink) (f : Folder) : Except FolderError (Option Path) → Folder × Sink × Option FolderError
  | .error e => (f, k, some e)
  | .ok none => (f, k, none)
  | .ok (some p) =>
    match f.make p with
    | (f, none) => (f, { k with keepsFile := true }, none)
    | (f, some e) => (f, k, some (.making e))

/-- Sets up the sink; one that exists stays as it is. A sink whose file fails exists with its console. -/
def setUp (f : Folder) (existing : Option Sink) (s : Settings) : Folder × Option Sink × Option SetupError :=
  match environmentText? s.environmentLevel, environmentText? s.environmentFolder with
  | .error e, _ | _, .error e => (f, existing, some (.environment e))
  | .ok level, .ok folder =>
    match existing with
    | some k => (f, some k, none)
    | none =>
      match s.threshold level with
      | .error e => (f, none, some (.level e))
      | .ok n =>
        let (f, k, e) := (console n).withFile f (s.path? folder)
        (f, some k, e.map .folder)

/-- The least weight that the file keeps. -/
def fileThreshold : Nat := Level.debug.weight

/-- The lines of a text. -/
def linesOf (t : Text) : List Text := Text.cut '\n' t

/-- The length of the time at the beginning of a line. -/
def timeWidth : Nat := 20

def consoleText (r : Record) (message : Text) : Text := "[" ++ r.level.name ++ "] " ++ message

/-- The text for the console. -/
def consoleText? (r : Record) : Except FormatError Text := r.message.map (consoleText r)

def fileText (r : Record) (line : Int) (message : Text) : Text :=
  "[" ++ r.level.name ++ "] " ++ r.channel ++ ":" ++ Text.ofInt line ++ " – " ++ message

/-- The text for the file, if the source line is a number. -/
def fileText? (line : Datum) (r : Record) : Except FormatError Text := do
  return fileText r (← Form.wholeOf 'd' line) (← r.message)

/-- The lines for the file; the first one has the time before it, which is not shown. -/
def withoutTime : List Text → List Text
  | [] => []
  | first :: rest => first :: rest.map fun l => l.drop timeWidth

/-- The lines that a handler writes of a record that its filter keeps, and the record as the filter leaves it. What
cannot be formatted is not written. -/
def handle (text? : Record → Except FormatError Text) (r : Record) : List Text × Record :=
  match r.filter with
  | (false, r) => ([], r)
  | (true, r) =>
    match text? r with
    | .error _ => ([], r)
    | .ok t => (linesOf t, r)

/-- Writes a record made at a source line; the answer holds the console's lines. -/
def write (k : Sink) (r : Record) (line : Datum) : Sink × List Text :=
  let (console, r) := if k.threshold ≤ r.level.weight then handle consoleText? r else ([], r)
  let (file, _) := if k.keepsFile ∧ fileThreshold ≤ r.level.weight then handle (fileText? line) r else ([], r)
  ({ k with fileLines := k.fileLines ++ withoutTime file }, console)

end Sink
end PaymentIdentifiers.Log
