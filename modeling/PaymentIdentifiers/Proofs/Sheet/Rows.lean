import PaymentIdentifiers.Proofs.Validation.EntryPoints

/-!
# Columns and what their rows say

A column is found exactly if some header is written as it is, apart from case and outer blanks. If only one header is,
its position is found. Each record that is not empty gives one row, in order and numbered. The row says what is reported
on the trimmed cell, or that there is none.
-/
namespace PaymentIdentifiers.Sheet

section
variable {header : Record} {column : Text}

theorem columnIndex?_eq_none_iff : columnIndex? header column = none ↔ column.folded ∉ header.map Text.folded := by
  rw [columnIndex?]
  split
  · rename_i h
    simpa using h
  · rename_i k h
    have hmem : column.folded ∈ header.map Text.folded := by
      rw [← List.mem_reverse, ← List.isSome_idxOf?, h]
      rfl
    simp [hmem]

/-- The header that was found is the column. -/
theorem folded_of_columnIndex? {i : Nat} (h : columnIndex? header column = some i) :
    (header.map Text.folded)[i]? = some column.folded := by
  rw [columnIndex?] at h
  split at h
  · cases h
  · rename_i k hk
    obtain rfl := Option.some.inj h
    obtain ⟨hlt, hget, -⟩ := List.idxOf?_eq_some_iff.1 hk
    have hreverse := List.getElem?_eq_getElem hlt
    rwa [hget, List.getElem?_reverse (by simpa using hlt), List.length_map] at hreverse

/-- The only header that is the column is found. -/
theorem columnIndex?_eq_some {i : Nat} (h : ∀ j, (header.map Text.folded)[j]? = some column.folded ↔ j = i) :
    columnIndex? header column = some i := by
  cases hindex : columnIndex? header column with
  | none =>
    exact absurd (List.mem_of_getElem? ((h i).2 rfl)) (columnIndex?_eq_none_iff.1 hindex)
  | some j => rw [(h j).1 (folded_of_columnIndex? hindex)]

end

/-- What a row says about a cell: of a blank one that it has no value, of any other one what is reported on its trimmed
part. -/
def Row.Reports (k : Kind) (cell : Text) (row : Row) : Prop :=
  if cell.trim = [] then
    row.valid = false ∧ row.masked = [] ∧ row.error = "Kein Wert angegeben." ∧ row.normalized = []
  else row.Repeats (k.validateText cell.trim).value

theorem reports_rowFor (k : Kind) (n : Nat) (cell : Text) : Row.Reports k cell (rowFor k n cell.trim).value := by
  rw [Row.Reports, rowFor]
  split
  · rename_i hblank
    rw [hblank]
    exact ⟨rfl, rfl, rfl, rfl⟩
  · rename_i hcell
    rw [if_neg (by simpa using hcell)]
    exact ⟨rfl, rfl, rfl, rfl⟩

theorem number_rowFor (k : Kind) (n : Nat) (cell : Text) : (rowFor k n cell).value.number = n := by
  rw [rowFor]
  split <;> rfl

theorem valid_rowFor (k : Kind) (n : Nat) {cell : Text} (h : cell ≠ []) :
    (rowFor k n cell).value.valid = (k.validateText cell).value.valid := by
  rw [rowFor, if_neg (by simpa using h)]
  rfl

theorem value_rowsFor_cons (k : Kind) (index n : Nat) {r : Record} (hr : r ≠ []) (rs : List Record) :
    (rowsFor k index n (r :: rs)).value =
      (rowFor k n (r.getD index []).trim).value :: (rowsFor k index (n + 1) rs).value := by
  rw [rowsFor, if_neg (by simpa using hr), cellOf]
  rfl

/-- The rows are about the records that are not empty, one by one. -/
theorem reports_rows (k : Kind) (index n : Nat) (rs : List Record) :
    List.Forall₂ (fun r row => Row.Reports k (r.getD index []) row) (rs.filter fun r => !r.isEmpty)
      (rowsFor k index n rs).value :=
  forall₂_rowsFor (fun n _ => reports_rowFor k n _) n rs

theorem map_number_rowsFor (k : Kind) (index n : Nat) (rs : List Record) :
    (rowsFor k index n rs).value.map Row.number = List.range' n (rs.filter fun r => !r.isEmpty).length := by
  rw [value_rowsFor, List.map_map, ← List.zipIdx_map_snd]
  exact List.map_congr_left fun p _ => number_rowFor k p.2 _

/-- Without empty records there is one row for each, numbered and in order. -/
theorem reports_rowsFor (k : Kind) (index n : Nat) {rs : List Record} (hrs : ∀ r ∈ rs, r ≠ []) :
    List.Forall₂ (fun r row => Row.Reports k (r.getD index []) row) rs (rowsFor k index n rs).value ∧
      (rowsFor k index n rs).value.map Row.number = List.range' n rs.length := by
  have hfilled : (rs.filter fun r => !r.isEmpty) = rs := List.filter_eq_self.2 fun r hr => by simpa using hrs r hr
  have hreports := reports_rows k index n rs
  have hnumbers := map_number_rowsFor k index n rs
  rw [hfilled] at hreports hnumbers
  exact ⟨hreports, hnumbers⟩

end PaymentIdentifiers.Sheet
