import PaymentIdentifiers.Proofs.Identifier.Reading
import PaymentIdentifiers.Proofs.Log.Discretion
import Mathlib.Data.List.TFAE

/-!
# One verdict at every entry point

A text is tested, read, reported on, answered by a tool, and checked as the cell of a table. All of these come down to
one reading of the text, although the report and the table cut outer blanks that reading does not cut.
-/
namespace PaymentIdentifiers

theorem Text.prefix_joined (sep t : Text) (ts : List Text) : t <+: joined sep (t :: ts) := by
  cases ts with
  | nil => simp [joined]
  | cons u us => simp [joined]

/-- The tool that validates values of a kind. -/
def Kind.tool : Kind → Datum → Tool
  | iban => .validateIban
  | bic => .validateBic
  | creditorIdentifier => .validateCreditorId
  | card => .validateCard

namespace Kind

/-- How the reply of a tool begins when the value is valid. -/
def validOpening (k : Kind) : Text := k.title ++ " gueltig: "

/-- How the reply of a tool begins when the value is not valid. -/
def invalidOpening (k : Kind) : Text := k.title ++ " ungueltig ("

variable {k : Kind} {v : Text}

theorem validateText_of_ok {x : Identifier} (h : k.parse v = .ok x) :
    k.validateText v = .quiet ⟨Log.maskEnds x.text, [], none, some x⟩ := by
  rw [validateText, h]

theorem validateText_of_error {r : Rejection} (h : k.parse v = .error r) : (k.validateText v).value =
    ⟨Log.maskEnds v.trim, r.reason.germanText, some (.rejected r.reason), none⟩ := by
  rw [validateText, h]

theorem valid_validateText_iff : (k.validateText v).value.valid = true ↔ ∃ x, k.parse v = .ok x := by
  cases h : k.parse v with
  | ok x => simp [validateText_of_ok h, Report.valid, Log.Logged.quiet]
  | error r => simp [validateText_of_error h, Report.valid]

/-- A report does not see outer blanks, and neither does its line in the log. -/
theorem validateText_trim (k : Kind) (v : Text) : k.validateText v.trim = k.validateText v := by
  have hread := k.parse_trim v
  cases h : k.parse v with
  | ok x =>
    rw [h] at hread
    rw [validateText_of_ok h, validateText_of_ok hread]
  | error r =>
    -- The two rejections quote different texts, but a report has only the reason and the trimmed text.
    rw [h] at hread
    rw [validateText, validateText, h, hread, Text.trim_trim]
    rfl

theorem reply_tool (k : Kind) (v : Text) :
    (k.tool (.text v)).reply = .ok ((k.validateText v).map (Tool.replyTo k)) := by
  cases k <;> rfl

end Kind

namespace Tool

variable {k : Kind} {r : Report}

/-- The first line about a valid identifier begins with the words for its kind. -/
theorem exists_describe_eq (masked : Text) (x : Identifier) :
    ∃ line rest, describe masked x = line :: rest ∧ x.kind.validOpening <+: line := by
  cases x with
  | iban y =>
    have hwords : Kind.iban.validOpening = "IBAN gueltig: " := by decide
    refine ⟨_, _, rfl, ?_⟩
    rw [Identifier.kind, hwords]
    exact List.prefix_append _ _
  | bic y =>
    have hwords : Kind.bic.validOpening = "BIC gueltig: " := by decide
    refine ⟨_, _, rfl, ?_⟩
    rw [Identifier.kind, hwords]
    simp only [List.append_assoc]
    exact List.prefix_append _ _
  | creditorIdentifier y =>
    have hwords : Kind.creditorIdentifier.validOpening = "Glaeubiger-ID gueltig: " := by decide
    refine ⟨_, _, rfl, ?_⟩
    rw [Identifier.kind, hwords]
    exact List.prefix_append _ _
  | card y =>
    have hwords : Kind.card.validOpening = "Kartennummer gueltig: " := by decide
    refine ⟨_, _, rfl, ?_⟩
    rw [Identifier.kind, hwords]
    simp only [List.append_assoc]
    exact List.prefix_append _ _

theorem validOpening_prefix_replyTo {x : Identifier} (hx : r.identifier = some x) :
    x.kind.validOpening <+: replyTo k r := by
  obtain ⟨line, rest, hlines, hline⟩ := exists_describe_eq r.masked x
  rw [replyTo, hx]
  simp only [hlines]
  exact hline.trans (Text.prefix_joined _ _ _)

theorem invalidOpening_prefix_replyTo (hx : r.identifier = none) : k.invalidOpening <+: replyTo k r := by
  rw [replyTo, hx]
  simp [Kind.invalidOpening]

/-- No reply begins in both ways. -/
theorem not_validOpening_of_invalidOpening {t : Text} (h : k.invalidOpening <+: t) : ¬ k.validOpening <+: t := by
  intro hvalid
  have hnone : ¬ k.invalidOpening <+: k.validOpening ∧ ¬ k.validOpening <+: k.invalidOpening := by cases k <;> decide
  exact (List.prefix_or_prefix_of_prefix h hvalid).elim hnone.1 hnone.2

theorem validOpening_prefix_reply {v : Text} {x : Identifier} (h : k.parse v = .ok x) :
    k.validOpening <+: replyTo k (k.validateText v).value := by
  rw [Kind.validateText_of_ok h, ← Kind.kind_of_parse h]
  exact validOpening_prefix_replyTo rfl

theorem invalidOpening_prefix_reply {v : Text} {r : Rejection} (h : k.parse v = .error r) :
    k.invalidOpening <+: replyTo k (k.validateText v).value := by
  rw [Kind.validateText_of_error h]
  exact invalidOpening_prefix_replyTo rfl

/-- The reply begins in the one way for what is read, -/
theorem validOpening_prefix_reply_iff {v : Text} :
    k.validOpening <+: replyTo k (k.validateText v).value ↔ ∃ x, k.parse v = .ok x := by
  cases h : k.parse v with
  | ok x => simp [validOpening_prefix_reply h]
  | error r => simp [not_validOpening_of_invalidOpening (invalidOpening_prefix_reply h)]

/-- and in the other way for what is not. -/
theorem invalidOpening_prefix_reply_iff {v : Text} :
    k.invalidOpening <+: replyTo k (k.validateText v).value ↔ ¬ ∃ x, k.parse v = .ok x := by
  cases h : k.parse v with
  | ok x => simp [mt not_validOpening_of_invalidOpening (not_not.2 (validOpening_prefix_reply h))]
  | error r => simp [invalidOpening_prefix_reply h]

end Tool

namespace Sheet

/-- The row of a report. -/
structure Row.Repeats (report : Report) (row : Row) : Prop where
  valid : row.valid = report.valid
  masked : row.masked = report.masked
  error : row.error = report.error
  normalized : row.normalized = (report.identifier.map Identifier.text).getD []

/-- What a row says about a cell: of a blank one that it is not valid, of any other one what is reported on it. -/
def Row.Tells (k : Kind) (cell : Text) (row : Row) : Prop :=
  if cell.trim = [] then row.valid = false else row.Repeats (k.validateText cell).value

/-- A row is about the cell as it stands in the table, although only its trimmed part is looked at. -/
theorem tells_rowFor (k : Kind) (n : Nat) (r : Record) (index : Nat) :
    Row.Tells k (r.getD index []) (rowFor k n (cellOf r index)).value := by
  rw [Row.Tells, rowFor, cellOf]
  split
  · rename_i hblank
    rw [hblank]
    rfl
  · rename_i hcell
    rw [if_neg (by simpa using hcell), Kind.validateText_trim]
    exact ⟨rfl, rfl, rfl, rfl⟩

/-- By induction on the records that are not empty: what holds of each of them and its row holds of the rows. -/
theorem forall₂_rowsFor {R : Record → Row → Prop} {k : Kind} {index : Nat}
    (h : ∀ n r, R r (rowFor k n (cellOf r index)).value) (n : Nat) (rs : List Record) :
    List.Forall₂ R (rs.filter fun r => !r.isEmpty) (rowsFor k index n rs).value := by
  rw [value_rowsFor]
  generalize rs.filter (fun r => !r.isEmpty) = filled
  induction filled generalizing n with
  | nil => exact .nil
  | cons r filled ih => exact .cons (h n r) (ih (n + 1))

/-- The rows tell about the records that are not empty, one by one and in order. -/
theorem tells_rowsFor (k : Kind) (index n : Nat) (rs : List Record) :
    List.Forall₂ (fun r row => Row.Tells k (r.getD index []) row) (rs.filter fun r => !r.isEmpty)
      (rowsFor k index n rs).value :=
  forall₂_rowsFor (fun n r => tells_rowFor k n r index) n rs

/-- A path with a table leads to a file. -/
theorem validateFile_of_tableAt? {folder : Folder} {path column kindName : Text} {k : Kind} {table : Reading}
    (hk : kindOf? kindName = some k) (htable : tableAt? folder path = some table) :
    validateFile folder path column kindName = checkTable k (Path.ofText path).name column table := by
  rw [validateFile, hk]
  unfold tableAt? at htable
  split at htable
  · rename_i content hbytes
    obtain rfl := Option.some.inj htable
    simp only [hbytes]
  · cases htable

/-- A column of a table without faults gives a row for each of its records. -/
theorem validateFile_of_table {folder : Folder} {path column kindName : Text} {k : Kind} {table : Reading}
    {header : Record} {records : List Record} {index : Nat} (hk : kindOf? kindName = some k)
    (htable : tableAt? folder path = some table) (hrecords : table.records = header :: records)
    (hfault : table.fault = none) (hindex : columnIndex? header column = some index) :
    (validateFile folder path column kindName).value = .ok ⟨[], (rowsFor k index 2 records).value⟩ := by
  rw [validateFile_of_tableAt? hk htable, checkTable]
  simp only [hrecords, hindex, hfault]

end Sheet

end PaymentIdentifiers
