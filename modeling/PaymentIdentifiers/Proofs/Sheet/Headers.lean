import PaymentIdentifiers.Proofs.Sheet.Runs
import PaymentIdentifiers.Proofs.Text.Order
import PaymentIdentifiers.Proofs.Validation.Leakage

/-!
# Headers that occur more than once

The column is looked up by two tables of names: one has the headers by their folded forms, and for each record one has
its cells by the headers. In both, a later entry takes the place of an earlier one of the same name. Both lead to the
last header that equals the column, whatever other headers there are and however long the record is.
-/
namespace PaymentIdentifiers.Sheet

/-- The entry that counts for a name: a later one replaces all earlier ones. -/
def entryOf? {α : Type} (name : Text) (entries : List (Text × α)) : Option α := entries.reverse.lookup name

/-- The headers by their folded forms. -/
def headersByForm (header : Record) : List (Text × Text) := header.map fun h => (h.folded, h)

/-- The cells of a record by the headers. Headers without a cell have an entry as well, and cells without a header have
none. -/
def cellsByHeader (header r : Record) : List (Text × Option Text) :=
  header.zip (r.map some) ++ (header.drop r.length).map fun h => (h, none)

variable {header front back r : Record} {column name : Text} {i : Nat}

theorem entryOf?_append_cons {α : Type} {name : Text} {front back : List (Text × α)} (a : α)
    (h : name ∉ back.map Prod.fst) : entryOf? name (front ++ (name, a) :: back) = some a := by
  have hback : back.reverse.lookup name = none := by
    rw [List.lookup_eq_none_iff]
    intro e he
    simp only [bne_iff_ne]
    rintro rfl
    exact h (List.mem_map_of_mem (List.mem_reverse.1 he))
  rw [entryOf?, List.reverse_append, List.reverse_cons, List.append_assoc, List.lookup_append, hback]
  simp

/-- The header at an index equals the column without regard to case and outer blanks, and no later one does. -/
structure IsLastHeader (header : Record) (column : Text) (i : Nat) (name : Text) : Prop where
  found : header[i]? = some name
  same : name.folded = column.folded
  last : ∀ (j : Nat) (other : Text), i < j → header[j]? = some other → other.folded ≠ column.folded

theorem isLastHeader_append_cons (hname : name.folded = column.folded) (hback : column.folded ∉ back.map Text.folded) :
    IsLastHeader (front ++ name :: back) column front.length name where
  found := by simp
  same := hname
  last := by
    intro j other hj hother hsame
    rw [List.getElem?_append_right (Nat.le_of_lt hj), List.getElem?_cons, if_neg (by omega)] at hother
    exact hback (List.mem_map.2 ⟨other, List.mem_of_getElem? hother, hsame⟩)

/-- What stands before and behind the last header. -/
theorem IsLastHeader.exists_parts (h : IsLastHeader header column i name) :
    ∃ front back, header = front ++ name :: back ∧ front.length = i ∧ column.folded ∉ back.map Text.folded := by
  obtain ⟨hlt, hget⟩ := List.getElem?_eq_some_iff.1 h.found
  refine ⟨header.take i, header.drop (i + 1), ?_, List.length_take_of_le (Nat.le_of_lt hlt), fun hmem => ?_⟩
  · rw [← hget, ← List.drop_eq_getElem_cons hlt, List.take_append_drop]
  · obtain ⟨other, hother, hsame⟩ := List.mem_map.1 hmem
    obtain ⟨j, hj⟩ := List.mem_iff_getElem?.1 hother
    rw [List.getElem?_drop] at hj
    exact h.last _ other (by omega) hj hsame

/-- By induction on the header: if some header equals the column, there is a last one. -/
theorem exists_last_parts (h : column.folded ∈ header.map Text.folded) :
    ∃ front name back, header = front ++ name :: back ∧ name.folded = column.folded ∧
      column.folded ∉ back.map Text.folded := by
  induction header with
  | nil => cases h
  | cons first rest ih =>
    by_cases hrest : column.folded ∈ rest.map Text.folded
    · obtain ⟨front, name, back, rfl, hname, hback⟩ := ih hrest
      exact ⟨first :: front, name, back, rfl, hname, hback⟩
    · have hfirst : first.folded = column.folded := ((List.mem_cons.1 h).resolve_right hrest).symm
      exact ⟨[], first, rest, rfl, hfirst, hrest⟩

/-- The column that is found is the last header that equals it. -/
theorem columnIndex?_append_cons (hname : name.folded = column.folded) (hback : column.folded ∉ back.map Text.folded) :
    columnIndex? (front ++ name :: back) column = some front.length := by
  have hnone : (back.map Text.folded).reverse.findIdx? (· == column.folded) = none := by
    rw [List.findIdx?_eq_none_iff]
    intro other hother
    rw [beq_eq_false_iff_ne]
    rintro rfl
    exact hback (List.mem_reverse.1 hother)
  have hindex : ((front ++ name :: back).map Text.folded).reverse.idxOf? column.folded = some back.length := by
    rw [List.idxOf?, List.map_append, List.map_cons, List.reverse_append, List.reverse_cons, List.append_assoc,
      List.findIdx?_append, hnone, hname, List.singleton_append, List.findIdx?_cons]
    simp
  rw [columnIndex?]
  simp only [hindex, List.length_append, List.length_cons]
  exact congrArg some (by omega)

theorem columnIndex?_eq_some_iff : columnIndex? header column = some i ↔ ∃ name, IsLastHeader header column i name := by
  constructor
  · intro h
    have hmem : column.folded ∈ header.map Text.folded := by
      by_contra habsent
      rw [columnIndex?_eq_none_iff.2 habsent] at h
      cases h
    obtain ⟨front, name, back, rfl, hname, hback⟩ := exists_last_parts hmem
    obtain rfl := Option.some.inj ((columnIndex?_append_cons hname hback).symm.trans h)
    exact ⟨name, isLastHeader_append_cons hname hback⟩
  · rintro ⟨name, h⟩
    obtain ⟨front, back, rfl, rfl, hback⟩ := h.exists_parts
    exact columnIndex?_append_cons h.same hback

/-- By induction on the header: the entries of a record have the headers in their order, and those behind the end of a
short record are empty. -/
theorem cellsByHeader_append (front back r : Record) : cellsByHeader (front ++ back) r =
    cellsByHeader front (r.take front.length) ++ cellsByHeader back (r.drop front.length) := by
  induction front generalizing r with
  | nil => simp [cellsByHeader]
  | cons h front ih =>
    cases r with
    | nil => simp [cellsByHeader]
    | cons cell r => simpa [cellsByHeader] using ih r

theorem map_fst_cellsByHeader (header r : Record) : (cellsByHeader header r).map Prod.fst = header := by
  induction header generalizing r with
  | nil => simp [cellsByHeader]
  | cons h header ih =>
    cases r with
    | nil => simp [cellsByHeader, Function.comp_def]
    | cons cell r => simpa [cellsByHeader] using ih r

theorem cellsByHeader_cons (name : Text) (back r : Record) :
    cellsByHeader (name :: back) r = (name, r[0]?) :: cellsByHeader back r.tail := by
  cases r with
  | nil => simp [cellsByHeader]
  | cons cell r => simp [cellsByHeader]

/-- Both tables of names lead to the last header. -/
theorem IsLastHeader.lookups (h : IsLastHeader header column i name) :
    entryOf? column.folded (headersByForm header) = some name ∧
      ∀ r, entryOf? name (cellsByHeader header r) = some r[i]? := by
  obtain ⟨front, back, rfl, rfl, hback⟩ := h.exists_parts
  constructor
  · rw [headersByForm, List.map_append, List.map_cons, h.same]
    exact entryOf?_append_cons name (by simpa using hback)
  · intro r
    have hname : name ∉ back := fun hmem => hback (List.mem_map.2 ⟨name, hmem, h.same⟩)
    rw [cellsByHeader_append, cellsByHeader_cons, entryOf?_append_cons _ (by rwa [map_fst_cellsByHeader])]
    simp

theorem columnIndex?_cases (header : Record) (column : Text) :
    (∀ name ∈ header, name.folded ≠ column.folded) ∨ ∃ index name, IsLastHeader header column index name := by
  cases hindex : columnIndex? header column with
  | none => exact .inl fun name hname hsame => columnIndex?_eq_none_iff.1 hindex (List.mem_map.2 ⟨name, hname, hsame⟩)
  | some index => exact .inr ⟨index, columnIndex?_eq_some_iff.1 hindex⟩

theorem IsLastHeader.lt_length (h : IsLastHeader header column i name) : i < header.length :=
  (List.getElem?_eq_some_iff.1 h.found).1

/-- Cells behind the end of the header are not looked at. -/
theorem twins_take {k : Kind} {width : Nat} (h : i < width) (r : Record) : Twins k i (r.take width) r where
  isEmpty_eq := by
    cases r with
    | nil => simp
    | cons cell r => simp [Nat.ne_of_gt (Nat.zero_lt_of_lt h)]
  cells := .inl (by simp [List.getD_eq_getElem?_getD, h])

section
variable {folder : Folder} {path kindName : Text} {k : Kind} {records : List Record} {fault : Option Fault}
  {index : Nat} (hk : kindOf? kindName = some k) (hplace : tableAt? folder path = some ⟨header :: records, fault⟩)
include hk hplace

theorem value_of_absent (h : ∀ name ∈ header, name.folded ≠ column.folded) :
    (validateFile folder path column kindName).value =
      .ok (.ofProblem (.noColumn column (Text.sortDistinct (header.map Text.folded)))) := by
  refine value_of_arises (.noColumn hk hplace rfl fun hmem => ?_)
  obtain ⟨name, hname, hsame⟩ := List.mem_map.1 hmem
  exact h name hname hsame

theorem value_of_present (h : columnIndex? header column = some index) :
    (validateFile folder path column kindName).value =
      match fault with
      | none => .ok ⟨[], (rowsFor k index 2 records).value⟩
      | some fault => .error (.reading fault) := by
  rw [validateFile_of_tableAt? hk hplace, checkTable]
  simp only [h]
  cases fault <;> rfl

/-- A run that reports the column as missing has found no header that equals it. -/
theorem absent_of_value {other : Text} {listed : List Text}
    (h : (validateFile folder path column kindName).value = .ok (.ofProblem (.noColumn other listed))) :
    ∀ name ∈ header, name.folded ≠ column.folded := by
  rcases columnIndex?_cases header column with habsent | ⟨index, name, hname⟩
  · exact habsent
  · rw [value_of_present hk hplace (columnIndex?_eq_some_iff.2 ⟨name, hname⟩)] at h
    cases fault <;> cases h

end

/-- What is said about a missing column: its name in quotes, and what is listed, between commas and blanks. -/
theorem message_noColumn (column : Text) (listed : List Text) : (Problem.noColumn column listed).message =
    "CSV fehlt Spalte '" ++ column ++ "'. Vorhanden: " ++ Text.joined ", " listed ++ "." := by
  have hquoted (front behind : Text) :
      front ++ column.quoted ++ behind = front ++ ['\''] ++ column ++ '\'' :: behind := by
    simp [Text.quoted]
  have hfront : ("CSV fehlt Spalte " : Text) ++ ['\''] = "CSV fehlt Spalte '" := by decide +kernel
  have hbehind : '\'' :: (". Vorhanden: " : Text) = "'. Vorhanden: " := by decide +kernel
  change ("CSV fehlt Spalte " : Text) ++ column.quoted ++ ". Vorhanden: " ++ Text.joined ", " listed ++ "." = _
  rw [hquoted, hfront, hbehind]

/-- For a table with a header, the column is reported as missing if and only if no header equals it, and then the text of
the report lists the folded headers in ascending order without repetition. Otherwise both tables of names lead to the
last header that equals it, and each row is about the cell at its index: in a record that is too short, about a blank
cell, and cells behind the header do not matter. -/
theorem column_is_last_header (column : Text) {folder : Folder} {path kindName : Text} {k : Kind} {header : Record}
    {records : List Record} {fault : Option Fault} (hk : kindOf? kindName = some k)
    (hplace : tableAt? folder path = some ⟨header :: records, fault⟩) :
    ((∃ listed, (validateFile folder path column kindName).value = .ok (.ofProblem (.noColumn column listed))) ↔
      ∀ name ∈ header, name.folded ≠ column.folded) ∧
    (∀ other listed, (validateFile folder path column kindName).value = .ok (.ofProblem (.noColumn other listed)) →
      other = column ∧ Text.Ascending listed ∧ listed.Nodup ∧ (∀ t, t ∈ listed ↔ ∃ name ∈ header, name.folded = t) ∧
      (Problem.noColumn other listed).message =
        "CSV fehlt Spalte '" ++ column ++ "'. Vorhanden: " ++ Text.joined ", " listed ++ ".") ∧
    ((∀ name ∈ header, name.folded ≠ column.folded) ∨ ∃ index name, IsLastHeader header column index name) ∧
    ∀ index name, IsLastHeader header column index name →
      entryOf? column.folded (headersByForm header) = some name ∧
      (∀ r, entryOf? name (cellsByHeader header r) = some r[index]?) ∧
      (fault = none → ∃ rows, (validateFile folder path column kindName).value = .ok ⟨[], rows⟩ ∧
        List.Forall₂ (fun r row => Row.Reports k (r.getD index []) row ∧ (r.length ≤ index → Row.Reports k [] row))
          (records.filter fun r => !r.isEmpty) rows) ∧
      ∀ folder', tableAt? folder' path = some ⟨header :: records.map fun r => r.take header.length, fault⟩ →
        validateFile folder' path column kindName = validateFile folder path column kindName := by
  refine ⟨⟨fun ⟨listed, h⟩ => absent_of_value hk hplace h, fun h => ⟨_, value_of_absent hk hplace h⟩⟩,
    fun other listed h => ?_, columnIndex?_cases header column, fun index name h => ?_⟩
  · rw [value_of_absent hk hplace (absent_of_value hk hplace h)] at h
    cases h
    have hascending := Text.ascending_sortDistinct (header.map Text.folded)
    exact ⟨rfl, hascending, hascending.nodup, fun t => by rw [Text.mem_sortDistinct, List.mem_map],
      message_noColumn column _⟩
  · have hindex := columnIndex?_eq_some_iff.2 ⟨name, h⟩
    obtain ⟨hheader, hcell⟩ := h.lookups
    refine ⟨hheader, hcell, fun hfault => ?_, fun folder' hplace' => ?_⟩
    · subst hfault
      refine ⟨_, value_of_present hk hplace hindex, (reports_rows k index 2 records).imp fun r row hrow => ⟨hrow, ?_⟩⟩
      intro hshort
      have hblank : r.getD index [] = [] := by simp [hshort]
      rwa [hblank] at hrow
    · refine validateFile_congr hk hplace' hplace hindex ?_
      rw [List.forall₂_map_left_iff]
      exact List.forall₂_same.2 fun r _ => twins_take h.lt_length r

/-- A table with two headers for one column, a record that is too short and one that is too long, and the same table
without the surplus cell. -/
theorem column_is_last_header_codes :
    let codes : ByteArray := "bic,Name, BIC \nPSSTZZPPXXX,a,PSSTFRPP\nPSSTFRPP\nx,y,PSSTFRPP,z\n".toUTF8
    let cut : ByteArray := "bic,Name, BIC \nPSSTZZPPXXX,a,PSSTFRPP\nPSSTFRPP\nx,y,PSSTFRPP\n".toUTF8
    let folder (content : ByteArray) : Folder := .ofFiles [(["codes.csv".toList], content)]
    let header : Record := ["bic", "Name", " BIC "]
    let records : List Record := [["PSSTZZPPXXX", "a", "PSSTFRPP"], ["PSSTFRPP"], ["x", "y", "PSSTFRPP", "z"]]
    kindOf? "bic" = some .bic ∧ tableAt? (folder codes) "codes.csv" = some ⟨header :: records, none⟩ ∧
      IsLastHeader header "Bic" 2 " BIC " ∧
      entryOf? " BIC " (cellsByHeader header ["PSSTFRPP"]) = some none ∧
      (∃ rows, (validateFile (folder codes) "codes.csv" "Bic" "bic").value = .ok ⟨[], rows⟩ ∧
        List.Forall₂ (fun r row => Row.Reports .bic (r.getD 2 []) row ∧ (r.length ≤ 2 → Row.Reports .bic [] row))
          records rows) ∧
      validateFile (folder cut) "codes.csv" "Bic" "bic" = validateFile (folder codes) "codes.csv" "Bic" "bic" ∧
      (∀ name ∈ header, name.folded ≠ Text.folded "iban") ∧
      (∃ listed, (validateFile (folder codes) "codes.csv" "iban" "bic").value =
        .ok (.ofProblem (.noColumn "iban" listed))) ∧
      (validateFile (folder codes) "codes.csv" "iban" "bic").value =
        .ok (.ofProblem (.noColumn "iban" ["bic", "name"])) ∧
      (Problem.noColumn "iban" ["bic", "name"]).message = "CSV fehlt Spalte 'iban'. Vorhanden: bic, name." := by
  intro codes cut folder header records
  have hk : kindOf? "bic" = some .bic := rfl
  have hplace : tableAt? (folder codes) "codes.csv" = some ⟨header :: records, none⟩ := by decide +kernel
  have hcut : tableAt? (folder cut) "codes.csv" = some ⟨header :: records.map fun r => r.take header.length, none⟩ := by
    decide +kernel
  obtain ⟨index, hindex⟩ := columnIndex?_eq_some_iff.1 (show columnIndex? header "Bic" = some 2 by decide +kernel)
  obtain rfl : " BIC ".toList = index := Option.some.inj hindex.found
  have habsent : ∀ name ∈ header, name.folded ≠ Text.folded "iban" := by decide +kernel
  obtain ⟨-, -, -, hfound⟩ := column_is_last_header "Bic" hk hplace
  obtain ⟨-, hcell, hrows, hsame⟩ := hfound 2 " BIC " hindex
  have hreported : (validateFile (folder codes) "codes.csv" "iban" "bic").value =
      .ok (.ofProblem (.noColumn "iban" ["bic", "name"])) := by
    decide +kernel
  obtain ⟨hmissing, hlisted, -⟩ := column_is_last_header "iban" hk hplace
  obtain ⟨-, -, -, -, hmessage⟩ := hlisted _ _ hreported
  exact ⟨hk, hplace, hindex, hcell _, hrows rfl, hsame _ hcut, habsent, hmissing.2 habsent, hreported,
    hmessage.trans (by decide +kernel)⟩

end PaymentIdentifiers.Sheet
