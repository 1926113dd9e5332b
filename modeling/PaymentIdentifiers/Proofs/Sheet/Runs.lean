import PaymentIdentifiers.Proofs.Sheet.Rows
import PaymentIdentifiers.Proofs.Tool.Failures

/-!
# Runs over a column

A run that ends with rows has found the column in the header of a table and has read the table to its end. Every other
run that ends with a batch has met one problem, and has said nothing to the log.
-/
namespace PaymentIdentifiers.Sheet

/-- The kind of a run, the table in its file and the place of its column. -/
structure Run (folder : Folder) (path column kindName : Text) where
  kind : Kind
  header : Record
  records : List Record
  index : Nat
  known : kindOf? kindName = some kind
  place : tableAt? folder path = some ⟨header :: records, none⟩
  present : columnIndex? header column = some index

variable {folder : Folder} {path column kindName : Text}

/-- The rows of a run. -/
def Run.rows (x : Run folder path column kindName) : List Row := (rowsFor x.kind x.index 2 x.records).value

theorem Run.validateFile_eq (x : Run folder path column kindName) : validateFile folder path column kindName =
    ⟨.ok ⟨[], x.rows⟩,
      (rowsFor x.kind x.index 2 x.records).records ++ [summary (Path.ofText path).name ⟨[], x.rows⟩]⟩ := by
  rw [validateFile_of_tableAt? x.known x.place, checkTable]
  simp only [x.present, rows]

/-- The run has ended with one problem. -/
def EndsEarly (run : Log.Logged (Except Failure Batch)) : Prop :=
  ∃ problem, run = .quiet (.ok (.ofProblem problem))

/-- A run that ends with a batch has ended early, or it has rows. -/
theorem endsEarly_or_run {b : Batch} (h : (validateFile folder path column kindName).value = .ok b) :
    EndsEarly (validateFile folder path column kindName) ∨ ∃ x : Run folder path column kindName, b = ⟨[], x.rows⟩ := by
  rcases exists_table_or folder path column kindName with ⟨failure, hfailure⟩ | ⟨problem, hproblem⟩ |
    ⟨k, ⟨_, _⟩, header, records, index, hk, htable, rfl, rfl, hindex⟩
  · rw [value_of_escapes hfailure] at h
    cases h
  · exact .inl ⟨problem, validateFile_of_arises hproblem⟩
  · let x : Run folder path column kindName := ⟨k, header, records, index, hk, htable, hindex⟩
    rw [x.validateFile_eq] at h
    exact .inr ⟨x, (Except.ok.inj h).symm⟩

/-- There is no other way to a batch without problems. -/
theorem Run.exists_of_value {rows : List Row} (h : (validateFile folder path column kindName).value = .ok ⟨[], rows⟩) :
    ∃ x : Run folder path column kindName, x.rows = rows := by
  rcases endsEarly_or_run h with ⟨problem, hend⟩ | ⟨x, hrows⟩
  · rw [hend] at h
    cases h
  · exact ⟨x, (congrArg Batch.rows hrows).symm⟩

end PaymentIdentifiers.Sheet
