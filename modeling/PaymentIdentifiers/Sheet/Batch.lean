import PaymentIdentifiers.Path.Place
import PaymentIdentifiers.Sheet.Reader
import PaymentIdentifiers.Sheet.Detection
import PaymentIdentifiers.Text.Lowercase
import PaymentIdentifiers.Validation

/-!
# Validating a column of a table

Every record behind the header gives one row of the result, numbered from two. The column is found by its header
without regard to case and outer blanks; of several such headers the last one counts. Problems that a user can
mend are listed in the result; a place that is not read, as a folder is not, and a text that is no table are failures.
-/
namespace PaymentIdentifiers.Sheet

structure Row where
  number : Nat
  masked : Text
  valid : Bool
  error : Text
  normalized : Text
deriving DecidableEq, Repr

inductive Problem where
  | unknownKind (name : Text)
  | fileNotFound (path : Text)
  | noHeader
  | noColumn (column : Text) (present : List Text)
deriving DecidableEq, Repr

/-- The names of the kinds in ascending order. -/
def kindNames : List Text := Text.sortDistinct ["iban", "bic", "creditor_id", "card"]

def kindOf? (name : Text) : Option Kind :=
  if name = "iban".toList then some .iban
  else if name = "bic".toList then some .bic
  else if name = "creditor_id".toList then some .creditorIdentifier
  else if name = "card".toList then some .card
  else none

def Problem.message : Problem → Text
  | unknownKind name => "Unbekannter Typ: " ++ name ++ ". Erwartet: " ++ Text.joined ", " kindNames ++ "."
  | fileNotFound path => "CSV-Datei nicht gefunden: " ++ path
  | noHeader => "CSV hat keine Kopfzeile."
  | noColumn column present =>
    "CSV fehlt Spalte " ++ column.quoted ++ ". Vorhanden: " ++ Text.joined ", " present ++ "."

inductive Failure where
  | system (e : SystemError) (path : Text)
  | reading (fault : Fault)
  /-- An argument of the wrong kind. -/
  | argument (e : ArgumentError)
deriving DecidableEq, Repr

def Failure.message : Failure → Text
  | system e path => e.message path
  | reading fault => fault.message
  | argument e => e.message

/-- A finished run: either one problem or the rows. -/
structure Batch where
  problems : List Problem
  rows : List Row
deriving DecidableEq, Repr

namespace Batch

def validCount (b : Batch) : Nat := b.rows.countP Row.valid
def invalidCount (b : Batch) : Nat := b.rows.length - b.validCount

/-- A run that ended before the first row. -/
def ofProblem (p : Problem) : Batch := ⟨[p], []⟩

end Batch

/-- The index of the last header that equals the column without regard to case and outer blanks. -/
def columnIndex? (header : Record) (column : Text) : Option Nat :=
  let folded := header.map Text.folded
  match folded.reverse.idxOf? column.folded with
  | none => none
  | some k => some (header.length - 1 - k)

/-- The cell that is checked; a record that is too short has a blank one. -/
def cellOf (r : Record) (index : Nat) : Text := (r.getD index []).trim

/-- The row for a cell without outer blanks. -/
def rowFor (k : Kind) (number : Nat) (cell : Text) : Log.Logged Row :=
  if cell.isEmpty then .quiet ⟨number, [], false, "Kein Wert angegeben.", []⟩
  else (k.validateText cell).map fun r =>
    ⟨number, r.masked, r.valid, r.error, (r.identifier.map Identifier.text).getD []⟩

/-- The rows for the records that are not empty. -/
def rowsFor (k : Kind) (index : Nat) (number : Nat) : List Record → Log.Logged (List Row)
  | [] => .quiet []
  | r :: rs =>
    if r.isEmpty then rowsFor k index number rs
    else (rowFor k number (cellOf r index)).bind fun row =>
      (rowsFor k index (number + 1) rs).map (row :: ·)

section
variable (k : Kind) (index n : Nat) (rs : List Record)

/-- By induction on the records: the row of a record, and what is said about it, depends on the record and on how many
rows there are before. -/
theorem rowsFor_eq : rowsFor k index n rs =
    ⟨((rs.filter fun r => !r.isEmpty).zipIdx n).map fun p => (rowFor k p.2 (cellOf p.1 index)).value,
      ((rs.filter fun r => !r.isEmpty).zipIdx n).flatMap fun p => (rowFor k p.2 (cellOf p.1 index)).records⟩ := by
  induction rs generalizing n with
  | nil => rfl
  | cons r rs ih =>
    rw [rowsFor]
    split
    · rename_i hempty
      rw [List.filter_cons_of_neg (by simp [hempty]), ih n]
    · rename_i hempty
      rw [List.filter_cons_of_pos (by simpa using hempty), ih (n + 1)]
      rfl

theorem value_rowsFor : (rowsFor k index n rs).value =
    ((rs.filter fun r => !r.isEmpty).zipIdx n).map fun p => (rowFor k p.2 (cellOf p.1 index)).value := by
  rw [rowsFor_eq]

theorem length_rowsFor : (rowsFor k index n rs).value.length = (rs.filter fun r => !r.isEmpty).length := by
  rw [value_rowsFor, List.length_map, List.length_zipIdx]

/-- What holds of all that is said about single rows holds of all that is said about the table. -/
theorem forall_mem_records_rowsFor {P : Log.Record → Prop} (h : ∀ n cell, ∀ r ∈ (rowFor k n cell).records, P r) :
    ∀ r ∈ (rowsFor k index n rs).records, P r := by
  intro r hr
  rw [rowsFor_eq] at hr
  obtain ⟨p, -, hp⟩ := List.mem_flatMap.1 hr
  exact h p.2 _ r hp

end

/-- The closing message of a run. -/
def summary (name : Text) (b : Batch) : Log.Record :=
  ⟨.info, Kind.reportChannel, "CSV validiert: %s | %d gueltig | %d ungueltig",
    .positional [.text name, .whole b.validCount, .whole b.invalidCount]⟩

/-- Checks the column of a table that was read. -/
def checkTable (k : Kind) (name column : Text) (table : Reading) : Log.Logged (Except Failure Batch) :=
  match table.records with
  | [] =>
    match table.fault with
    | some fault => .quiet (.error (.reading fault))
    | none => .quiet (.ok (.ofProblem .noHeader))
  | header :: records =>
    match columnIndex? header column with
    | none => .quiet (.ok (.ofProblem (.noColumn column (Text.sortDistinct (header.map Text.folded)))))
    | some index =>
      let rows := rowsFor k index 2 records
      match table.fault with
      | some fault => rows.map fun _ => .error (.reading fault)
      | none =>
        let batch : Batch := ⟨[], rows.value⟩
        ⟨.ok batch, rows.records ++ [summary name batch]⟩

/-- The table in the bytes of a file. -/
def tableOf (content : ByteArray) : Reading :=
  let t := decode content
  read (.detect t) t

/-- Checks the column of a file in the folder. -/
def validateFile (folder : Folder) (path column kindName : Text) : Log.Logged (Except Failure Batch) :=
  match kindOf? kindName with
  | none => .quiet (.ok (.ofProblem (.unknownKind kindName)))
  | some k =>
    let p := Path.ofText path
    match folder.read? p with
    | none => .quiet (.ok (.ofProblem (.fileNotFound p.text)))
    | some (.error e) => .quiet (.error (.system e p.text))
    | some (.ok content) => checkTable k p.name column (tableOf content)

/-- Checks the column of a table; a column that is no text is reported once there is a header. -/
def checkColumn (k : Kind) (name : Text) (column : Datum) (table : Reading) : Log.Logged (Except Failure Batch) :=
  match column, table.records with
  | .text t, _ => checkTable k name t table
  | _, [] => checkTable k name [] table
  | d, _ => .quiet (.error (.argument (.lacks d.kindName "strip")))

/-- Checks the column of a file in the folder, with arguments of any kind. -/
def validateArguments (folder : Folder) (path column kind : Datum) : Log.Logged (Except Failure Batch) :=
  match kind, path with
  | .list ds, _ => .quiet (.error (.argument (.notHashable (Datum.kindName (.list ds)))))
  | .record fs, _ => .quiet (.error (.argument (.notHashable (Datum.kindName (.record fs)))))
  | .text kindName, .text path =>
    match kindOf? kindName, folder.read? (.ofText path) with
    | some k, some (.ok content) => checkColumn k (Path.ofText path).name column (tableOf content)
    | _, _ => validateFile folder path [] kindName
  | .text kindName, d =>
    if (kindOf? kindName).isSome then .quiet (.error (.argument (.notPath d.kindName)))
    else .quiet (.ok (.ofProblem (.unknownKind kindName)))
  | d, _ => .quiet (.ok (.ofProblem (.unknownKind d.display)))

end PaymentIdentifiers.Sheet
