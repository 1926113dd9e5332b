import PaymentIdentifiers.Proofs.Iban.Parts
import PaymentIdentifiers.Proofs.Sheet.Decoding
import PaymentIdentifiers.Proofs.Sheet.Records
import PaymentIdentifiers.Proofs.Sheet.Rows
import PaymentIdentifiers.Proofs.Sheet.Samples
import PaymentIdentifiers.Proofs.Text.Folded
import PaymentIdentifiers.Proofs.Tool.Failures

/-!
# Tables with different delimiters

A table gives the same rows whether its cells are separated by commas, semicolons or tabs, as long as no row is halved by
the end of the sample. With a halved row the delimiter is taken to be a comma, and in a table with another one every line
is a single cell.
-/
namespace PaymentIdentifiers.Sheet

section
variable (d : Dialect)

theorem trim_clipped (cell : Text) : (d.clipped cell).trim = cell.trim := by
  rw [Dialect.clipped]
  split
  · exact Text.trim_dropWhile_space cell
  · rfl

theorem folded_clipped (cell : Text) : (d.clipped cell).folded = cell.folded := by
  rw [Text.folded, trim_clipped, ← Text.folded]

/-- What is dropped of cells makes no difference for finding the column, -/
theorem columnIndex?_clipped (header : Record) (column : Text) :
    columnIndex? (header.map d.clipped) column = columnIndex? header column := by
  have hfolded : (header.map d.clipped).map Text.folded = header.map Text.folded := by
    rw [List.map_map]
    exact List.map_congr_left fun cell _ => folded_clipped d cell
  rw [columnIndex?, columnIndex?, hfolded, List.length_map]

/-- and none for the rows. -/
theorem rowsFor_clipped (k : Kind) (index n : Nat) (rs : List Record) :
    rowsFor k index n (rs.map fun r => r.map d.clipped) = rowsFor k index n rs := by
  induction rs generalizing n with
  | nil => rfl
  | cons r rs ih =>
    have hcell : cellOf (r.map d.clipped) index = cellOf r index := by
      rw [cellOf, cellOf, ← trim_clipped d (r.getD index []), List.getD_eq_getElem?_getD, List.getD_eq_getElem?_getD,
        List.getElem?_map]
      cases r[index]? with
      | none => simp [Dialect.clipped_nil]
      | some cell => rfl
    simp only [List.map_cons, rowsFor, List.isEmpty_map, hcell, ih]

end

section
variable {d : Char} {width : Nat} {rs : List Record}

theorem toNat_lt_of_mem_written (hd : d ∈ delimiters) (hrs : ∀ r ∈ rs, IsRow width r) :
    ∀ c ∈ written d rs, c.toNat < 128 := by
  intro c hc
  obtain ⟨r, hr, hc⟩ := List.mem_flatMap.1 hc
  rcases List.mem_append.1 hc with hc | hc
  · exact toNat_lt_of_mem_line hd (hrs r hr) c hc
  · obtain rfl := List.mem_singleton.1 hc
    decide

theorem dropMark_of_ascii {t : Text} (h : ∀ c ∈ t, c.toNat < 128) : dropMark t = t := by
  cases t with
  | nil => rfl
  | cons c t =>
    rw [dropMark, if_neg]
    rintro rfl
    exact absurd (h byteOrderMark List.mem_cons_self) (by decide)

theorem tableOf_written (hd : d ∈ delimiters) (hrs : ∀ r ∈ rs, IsRow width r) :
    tableOf (String.ofList (written d rs)).toUTF8 = read (.detect (written d rs)) (written d rs) := by
  rw [tableOf, decode_toUTF8, dropMark_of_ascii (toNat_lt_of_mem_written hd hrs)]

/-- The dialect of a table has its delimiter, unless a row is halved. -/
theorem detect_of_not_halved (hd : d ∈ delimiters) (hne : rs ≠ []) (hrs : ∀ r ∈ rs, IsRow width r)
    (h : ¬ Halved d rs) : ∃ spaced, Dialect.detect (written d rs) = ⟨d, '"', false, spaced⟩ := by
  rw [Dialect.detect_of_noQuote (noQuote_written hd hrs), delimiterHint?, guess?_of_not_halved hd hne hrs h]
  exact ⟨_, rfl⟩

/-- With a halved row, it is the standard dialect. -/
theorem detect_of_halved (hd : d ∈ delimiters) (hrs : ∀ r ∈ rs, IsRow width r) (h : Halved d rs) :
    Dialect.detect (written d rs) = .standard := by
  rw [Dialect.detect_of_noQuote (noQuote_written hd hrs), delimiterHint?, guess?_of_halved hd hrs h]
  rfl

/-- A table without a halved row is read as it was written, and one with commas in any case. -/
theorem exists_tableOf_written (hd : d ∈ delimiters) (hne : rs ≠ []) (hrs : ∀ r ∈ rs, IsRow width r)
    (h : d = ',' ∨ ¬ Halved d rs) : ∃ D : Dialect, tableOf (String.ofList (written d rs)).toUTF8 =
      ⟨rs.map fun r => r.map D.clipped, none⟩ := by
  rw [tableOf_written hd hrs]
  by_cases hhalved : Halved d rs
  · obtain rfl := h.resolve_right (not_not.2 hhalved)
    rw [detect_of_halved hd hrs hhalved]
    exact ⟨.standard, read_rows rfl hd hrs⟩
  · obtain ⟨spaced, hdetect⟩ := detect_of_not_halved hd hne hrs hhalved
    rw [hdetect]
    exact ⟨⟨d, '"', false, spaced⟩, read_rows rfl hd hrs⟩

/-- With a halved row, each line of a table with another delimiter is read as a single cell, first the header. -/
theorem tableOf_of_halved {header : Record} {rows : List Record} (hd : d ∈ delimiters) (hcomma : d ≠ ',')
    (hrs : ∀ r ∈ header :: rows, IsRow width r) (h : Halved d (header :: rows)) :
    tableOf (String.ofList (written d (header :: rows))).toUTF8 =
      (read .standard (written d rows)).cons [line d header] := by
  have hshort : (line d header).length ≤ maxField := by
    obtain ⟨_ | ⟨first, front⟩, r, back, hsplit, hnil, -, hwithin, -⟩ := h
    · exact absurd rfl hnil
    · obtain rfl : header = first := (List.cons.inj hsplit).1
      rw [length_written_cons] at hwithin
      exact Nat.le_of_lt (Nat.lt_trans (show (line d header).length < sampleSize by omega) (by decide))
  rw [tableOf_written hd hrs, detect_of_halved hd hrs h, written_cons,
    read_standard_line hd hcomma (hrs header List.mem_cons_self) hshort]

end

/-- The cell at a position is there and not blank. -/
def FilledAt (r : Record) (i : Nat) : Prop := ∃ cell, r[i]? = some cell ∧ cell.trim ≠ []

theorem FilledAt.ne_nil {r : Record} {i : Nat} (h : FilledAt r i) : r ≠ [] := by
  rintro rfl
  obtain ⟨cell, hcell, -⟩ := h
  simp at hcell

namespace Table

/-- The table with a delimiter has a row that the end of the sample halves. -/
def Halved (d : Char) (t : Table) : Prop := Sheet.Halved d (t.header :: t.rows)

/-- The header at a position is the column, apart from case and outer blanks, and no other one is. -/
def IsColumn (t : Table) (column : Text) (i : Nat) : Prop :=
  ∀ j, (t.header.map Text.folded)[j]? = some column.folded ↔ j = i

theorem isColumn_iff {t : Table} {column : Text} {i : Nat} : t.IsColumn column i ↔ i < t.header.length ∧
    ∀ j < t.header.length, (t.header.map Text.folded)[j]? = some column.folded ↔ j = i := by
  refine ⟨fun h => ⟨?_, fun j _ => h j⟩, fun ⟨hi, h⟩ j => ?_⟩
  · have hlt := (List.getElem?_eq_some_iff.1 ((h i).2 rfl)).1
    rwa [List.length_map] at hlt
  · by_cases hj : j < t.header.length
    · exact h j hj
    · rw [List.getElem?_eq_none (by rw [List.length_map]; omega)]
      exact iff_of_false nofun fun hji => hj (hji ▸ hi)

instance (t : Table) (column : Text) (i : Nat) : Decidable (t.IsColumn column i) := decidable_of_iff' _ isColumn_iff

/-- The header line as a whole is the column, apart from case and outer blanks. -/
def LineIsColumn (d : Char) (t : Table) (column : Text) : Prop := (line d t.header).folded = column.folded

instance (d : Char) (t : Table) (column : Text) : Decidable (t.LineIsColumn d column) :=
  inferInstanceAs (Decidable (_ = _))

variable {t : Table} {d : Char} {i : Nat} {folder : Folder} {path column kindName : Text} {k : Kind}

theorem value_of_not_halved (hk : kindOf? kindName = some k) (hcolumn : t.IsColumn column i) (hd : d ∈ delimiters)
    (hbytes : folder.read? (.ofText path) = some (.ok (String.ofList (t.text d)).toUTF8)) (h : d = ',' ∨ ¬ t.Halved d) :
    (validateFile folder path column kindName).value = .ok ⟨[], (rowsFor k i 2 t.rows).value⟩ := by
  obtain ⟨D, hread⟩ := exists_tableOf_written hd (List.cons_ne_nil t.header t.rows) t.isRow h
  have htable : tableAt? folder path = some ⟨(t.header :: t.rows).map fun r => r.map D.clipped, none⟩ := by
    rw [← hread, tableAt?, hbytes]
    rfl
  have hindex : columnIndex? (t.header.map D.clipped) column = some i := by
    rw [columnIndex?_clipped, columnIndex?_eq_some hcolumn]
  rw [validateFile_of_table hk htable rfl rfl hindex, rowsFor_clipped]

theorem exists_mem_line_of_filledAt {r : Record} (h : FilledAt r i) (d : Char) :
    ∃ c ∈ line d r, Text.isBlank c = false := by
  obtain ⟨cell, hcell, hne⟩ := h
  obtain ⟨c, hc, hblank⟩ := Text.exists_mem_of_trim_ne_nil hne
  exact ⟨c, Text.mem_joined_of_mem [d] (List.mem_of_getElem? hcell) hc, hblank⟩

/-- Between two cells that are not blank, the delimiter is not trimmed. -/
theorem mem_trim_line {r : Record} {j : Nat} (hij : i < j) (hi : FilledAt r i) (hj : FilledAt r j) :
    d ∈ (line d r).trim := by
  have hfront : FilledAt (r.take j) i := by
    rwa [FilledAt, List.getElem?_take_of_lt hij]
  have hback : FilledAt (r.drop j) 0 := by
    rwa [FilledAt, List.getElem?_drop, Nat.add_zero]
  obtain ⟨a, ha, hafter⟩ := exists_mem_line_of_filledAt hfront d
  obtain ⟨b, hb, hbefore⟩ := exists_mem_line_of_filledAt hback d
  rw [← List.take_append_drop j r, line_append d hfront.ne_nil hback.ne_nil]
  exact Text.mem_trim_of_between ha hafter hb hbefore

theorem IsColumn.exists_cell (h : t.IsColumn column i) :
    ∃ cell, t.header[i]? = some cell ∧ cell.folded = column.folded := by
  have hi := (h i).2 rfl
  rwa [List.getElem?_map, Option.map_eq_some_iff] at hi

/-- A delimiter within the trimmed header line is there in lower case as well, and so the line is not a cell. -/
theorem folded_line_ne_of_mem {cell : Text} (hd : d ∈ delimiters) (hcell : IsCell cell)
    (h : d ∈ (line d t.header).trim) : (line d t.header).folded ≠ cell.folded := by
  have hline := Text.folded_of_ascii (toNat_lt_of_mem_line hd t.isRow_header)
  have hascii : cell.folded = cell.trim.map Char.toLower :=
    Text.folded_of_ascii fun c hc => Nat.lt_of_le_of_lt (hcell.printable c hc).2 (by decide)
  have hdelimiters : ∀ c ∈ delimiters, c.toLower = c ∧ c.isLower = false := forall_mem_delimiters.2 (by decide)
  obtain ⟨hsame, hnoletter⟩ := hdelimiters d hd
  intro heq
  have hmem : d ∈ (line d t.header).folded := by
    rw [hline]
    exact List.mem_map.2 ⟨d, h, hsame⟩
  rw [heq, hascii] at hmem
  obtain ⟨c, hc, hlower⟩ := List.mem_map.1 hmem
  obtain rfl := Text.eq_of_toLower_eq hlower hnoletter
  exact hcell.noDelimiter c (Text.mem_of_mem_trim hc) hd

/-- With semicolons, or with another header that is not blank, the header line as a whole is not the column. -/
theorem not_lineIsColumn (hcolumn : t.IsColumn column i) (hd : d ∈ delimiters)
    (hother : d = ';' ∨ ∃ j, j ≠ i ∧ FilledAt t.header j) : ¬ t.LineIsColumn d column := by
  have hrow := t.isRow_header
  obtain ⟨cell, hcell, hfolded⟩ := hcolumn.exists_cell
  have hisCell := hrow.isCell cell (List.mem_of_getElem? hcell)
  rw [LineIsColumn, ← hfolded]
  rcases hother with rfl | ⟨j, hji, hj⟩
  · have hmem := Text.mem_trim_or_isBlank (mem_line_self hd hrow)
    exact folded_line_ne_of_mem hd hisCell (hmem.resolve_right (by decide))
  · by_cases hblank : cell.trim = []
    · -- the line holds more than blanks, and the column nothing else
      obtain ⟨c, hc, hfilled⟩ := exists_mem_line_of_filledAt hj d
      have hmem := (Text.mem_trim_or_isBlank hc).resolve_right (by simp [hfilled])
      rw [Text.folded_of_ascii (toNat_lt_of_mem_line hd hrow), Text.folded, hblank]
      exact List.ne_nil_of_mem (List.mem_map_of_mem hmem)
    · rcases Nat.lt_or_gt_of_ne hji with hlt | hgt
      · exact folded_line_ne_of_mem hd hisCell (mem_trim_line hlt hj ⟨cell, hcell, hblank⟩)
      · exact folded_line_ne_of_mem hd hisCell (mem_trim_line hgt ⟨cell, hcell, hblank⟩ hj)

theorem tableAt?_of_halved (hd : d ∈ delimiters) (hcomma : d ≠ ',')
    (hbytes : folder.read? (.ofText path) = some (.ok (String.ofList (t.text d)).toUTF8)) (h : t.Halved d) :
    tableAt? folder path = some ((read .standard (written d t.rows)).cons [line d t.header]) := by
  rw [tableAt?, hbytes]
  exact congrArg some (tableOf_of_halved hd hcomma t.isRow h)

/-- With a halved row and a header line that is not the column, the column is missing. -/
theorem value_of_halved (hk : kindOf? kindName = some k) (hd : d ∈ delimiters) (hcomma : d ≠ ',')
    (hbytes : folder.read? (.ofText path) = some (.ok (String.ofList (t.text d)).toUTF8)) (h : t.Halved d)
    (hother : ¬ t.LineIsColumn d column) :
    (validateFile folder path column kindName).value =
      .ok (.ofProblem (.noColumn column [(line d t.header).folded])) := by
  refine value_of_arises (.noColumn hk (tableAt?_of_halved hd hcomma hbytes h) rfl ?_)
  rw [List.map_singleton, List.mem_singleton]
  exact Ne.symm hother

/-- If the header line is the column, the lines of the rows are what it holds, -/
theorem exists_value_of_halved (hk : kindOf? kindName = some k) (hd : d ∈ delimiters) (hcomma : d ≠ ',')
    (hbytes : folder.read? (.ofText path) = some (.ok (String.ofList (t.text d)).toUTF8)) (h : t.Halved d)
    (hline : t.LineIsColumn d column) (hshort : ∀ r ∈ t.rows, (line d r).length ≤ maxField) :
    ∃ rows, (validateFile folder path column kindName).value = .ok ⟨[], rows⟩ ∧
      List.Forall₂ (fun r row => Row.Reports k (line d r) row) t.rows rows := by
  have htable := tableAt?_of_halved hd hcomma hbytes h
  rw [read_standard_written hd hcomma (fun _ => t.isRow_of_mem) hshort] at htable
  have hindex : columnIndex? [line d t.header] column = some 0 := by
    refine columnIndex?_eq_some fun j => ?_
    cases j with
    | zero => exact iff_of_true (congrArg some hline) rfl
    | succ j => simp
  have hne : ∀ r ∈ t.rows.map fun r => [line d r], r ≠ [] := by
    simp
  have hreports := (reports_rowsFor k 0 2 hne).1
  rw [List.forall₂_map_left_iff] at hreports
  exact ⟨_, validateFile_of_table hk htable rfl rfl hindex, hreports⟩

/-- unless one of them is too long for a cell. -/
theorem value_of_halved_of_long (hk : kindOf? kindName = some k) (hd : d ∈ delimiters) (hcomma : d ≠ ',')
    (hbytes : folder.read? (.ofText path) = some (.ok (String.ofList (t.text d)).toUTF8)) (h : t.Halved d)
    (hline : t.LineIsColumn d column) (hlong : ∃ r ∈ t.rows, maxField < (line d r).length) :
    (validateFile folder path column kindName).value = .error (.reading .fieldTooLong) := by
  refine value_of_escapes (.behindHeader hk (tableAt?_of_halved hd hcomma hbytes h) rfl ?_ ?_)
  · rw [List.map_singleton, List.mem_singleton]
    exact hline.symm
  · exact fault_read_standard_written hd hcomma (fun _ => t.isRow_of_mem) hlong

end Table

/-- A table gives one row for each of its own with any delimiter, and the same ones with all of them, unless a row is
halved by the end of the sample. If one is, this holds for commas only. With others, each line is a single cell, and so
the column is reported missing if it is not the whole header line, which it can be with tabs and blank other headers
only. No row is halved if the first ten lines are within the sample. -/
theorem delimiters_alike_unless_halved (t : Table) (column kindName : Text) (k : Kind) (i : Nat)
    (hk : kindOf? kindName = some k) (hcolumn : t.IsColumn column i) :
    (∃ rows : List Row,
      List.Forall₂ (fun r row => Row.Reports k (r.getD i []) row) t.rows rows ∧
      rows.map Row.number = List.range' 2 t.rows.length ∧
      ∀ d ∈ delimiters, ∀ (folder : Folder) (path : Text),
        folder.read? (.ofText path) = some (.ok (String.ofList (t.text d)).toUTF8) → (d = ',' ∨ ¬ t.Halved d) →
        (validateFile folder path column kindName).value = .ok ⟨[], rows⟩) ∧
    (∀ d ∈ delimiters, ∀ (folder : Folder) (path : Text),
      folder.read? (.ofText path) = some (.ok (String.ofList (t.text d)).toUTF8) → d ≠ ',' → t.Halved d →
      (¬ t.LineIsColumn d column → (validateFile folder path column kindName).value =
        .ok (.ofProblem (.noColumn column [(line d t.header).folded]))) ∧
      (t.LineIsColumn d column → (∀ r ∈ t.rows, (line d r).length ≤ maxField) →
        ∃ rows, (validateFile folder path column kindName).value = .ok ⟨[], rows⟩ ∧
          List.Forall₂ (fun r row => Row.Reports k (line d r) row) t.rows rows) ∧
      (t.LineIsColumn d column → (∃ r ∈ t.rows, maxField < (line d r).length) →
        (validateFile folder path column kindName).value = .error (.reading .fieldTooLong))) ∧
    (∀ d ∈ delimiters, t.LineIsColumn d column → d ≠ ';' ∧ ∀ j, FilledAt t.header j → j = i) ∧
    ∀ d, (written d ((t.header :: t.rows).take 10)).length ≤ sampleSize → ¬ t.Halved d := by
  obtain ⟨hreports, hnumbers⟩ := reports_rowsFor k i 2 fun r hr => (t.isRow_of_mem hr).ne_nil
  refine ⟨⟨_, hreports, hnumbers, fun d hd folder path hbytes => Table.value_of_not_halved hk hcolumn hd hbytes⟩,
    fun d hd folder path hbytes hcomma hhalved => ⟨Table.value_of_halved hk hd hcomma hbytes hhalved,
      Table.exists_value_of_halved hk hd hcomma hbytes hhalved, Table.value_of_halved_of_long hk hd hcomma hbytes hhalved⟩,
    fun d hd hline => ⟨fun hsemicolon => ?_, fun j hj => ?_⟩, fun d => not_halved_of_length_le t.isRow⟩
  · exact Table.not_lineIsColumn hcolumn hd (.inl hsemicolon) hline
  · by_contra hji
    exact Table.not_lineIsColumn hcolumn hd (.inr ⟨j, hji, hj⟩) hline

/-- Two rows, of which one has a blank cell in the column. -/
def Table.brief : Table where
  header := ["Name".toList, " Iban".toList]
  rows := [["Max".toList, "DE89370400440532013000 ".toList], ["Eva".toList, "  ".toList]]
  isRow := by decide +kernel

/-- A long note and an account number. -/
def note : Record := [List.replicate 900 'x', "NO9386011117947".toList]

/-- Three rows with long notes, of which the last one is halved. -/
def Table.noted : Table where
  header := ["notiz".toList, "iban".toList]
  rows := [note, note, note]
  isRow := by decide +kernel

/-- The same rows under a header with a blank second name. -/
def Table.unnamed : Table where
  header := ["notiz".toList, []]
  rows := [note, note, note]
  isRow := by decide +kernel

theorem Table.halved_noted : noted.Halved ';' :=
  ⟨[noted.header, note, note], note, [], rfl, nofun, by decide, by decide +kernel, by decide +kernel⟩

theorem Table.halved_unnamed : unnamed.Halved '\t' :=
  ⟨[unnamed.header, note, note], note, [], rfl, nofun, by decide, by decide +kernel, by decide +kernel⟩

/-- The folder with a table in a file. -/
def Table.folder (d : Char) (t : Table) : Folder :=
  .ofFiles [(["data.csv".toList], (String.ofList (t.text d)).toUTF8)]

theorem Table.read?_folder (d : Char) (t : Table) :
    (t.folder d).read? (.ofText "data.csv") = some (.ok (String.ofList (t.text d)).toUTF8) := rfl

/-- The brief table gives the same rows with all delimiters. The one with notes is not read with semicolons, and from
the one without a second name whole lines are read with tabs. -/
theorem delimiters_alike_unless_halved_notes :
    kindOf? "iban" = some .iban ∧ Table.brief.IsColumn "IBAN" 1 ∧
      (∀ d ∈ delimiters, (written d ((Table.brief.header :: Table.brief.rows).take 10)).length ≤ sampleSize) ∧
      (∃ rows : List Row,
        List.Forall₂ (fun r row => Row.Reports .iban (r.getD 1 []) row) Table.brief.rows rows ∧
        ∀ d ∈ delimiters, (validateFile (Table.brief.folder d) "data.csv" "IBAN" "iban").value = .ok ⟨[], rows⟩) ∧
      Table.noted.IsColumn "iban" 1 ∧ Table.noted.Halved ';' ∧
      (validateFile (Table.noted.folder ';') "data.csv" "iban" "iban").value =
        .ok (.ofProblem (.noColumn "iban" ["notiz;iban".toList])) ∧
      Table.unnamed.IsColumn "Notiz" 0 ∧ Table.unnamed.Halved '\t' ∧ Table.unnamed.LineIsColumn '\t' "Notiz" ∧
      ∃ rows, (validateFile (Table.unnamed.folder '\t') "data.csv" "Notiz" "iban").value = .ok ⟨[], rows⟩ ∧
        List.Forall₂ (fun r row => Row.Reports .iban (line '\t' r) row) Table.unnamed.rows rows := by
  have hkind : kindOf? "iban" = some .iban := by decide
  have hbrief : Table.brief.IsColumn "IBAN" 1 := by decide +kernel
  have hnoted : Table.noted.IsColumn "iban" 1 := by decide +kernel
  have hunnamed : Table.unnamed.IsColumn "Notiz" 0 := by decide +kernel
  have hwhole : Table.unnamed.LineIsColumn '\t' "Notiz" := by decide +kernel
  have hlengths : ∀ d ∈ delimiters,
      (written d ((Table.brief.header :: Table.brief.rows).take 10)).length ≤ sampleSize :=
    forall_mem_delimiters.2 (by decide +kernel)
  obtain ⟨⟨rows, hreports, -, hvalue⟩, -, -, hwithin⟩ :=
    delimiters_alike_unless_halved Table.brief "IBAN" "iban" .iban 1 hkind hbrief
  obtain ⟨-, hmissing, -, -⟩ := delimiters_alike_unless_halved Table.noted "iban" "iban" .iban 1 hkind hnoted
  obtain ⟨-, hlines, -, -⟩ := delimiters_alike_unless_halved Table.unnamed "Notiz" "iban" .iban 0 hkind hunnamed
  refine ⟨hkind, hbrief, hlengths, ⟨rows, hreports, fun d hd => ?_⟩, hnoted, Table.halved_noted, ?_, hunnamed,
    Table.halved_unnamed, hwhole, ?_⟩
  · exact hvalue d hd _ _ (Table.read?_folder d _) (.inr (hwithin d (hlengths d hd)))
  · have hline : (line ';' Table.noted.header).folded = "notiz;iban".toList := by decide +kernel
    rw [← hline]
    exact (hmissing ';' (by decide) _ _ (Table.read?_folder ';' _) (by decide) Table.halved_noted).1 (by decide +kernel)
  · exact (hlines '\t' (by decide) _ _ (Table.read?_folder '\t' _) (by decide) Table.halved_unnamed).2.1 hwhole
      (by decide +kernel)

/-- With commas, the table with notes gives three valid rows; with semicolons, it has no such column. -/
theorem delimiters_not_alike :
    (∃ rows : List Row, rows.map Row.valid = [true, true, true] ∧
      (validateFile (Table.noted.folder ',') "data.csv" "iban" "iban").value = .ok ⟨[], rows⟩) ∧
    (validateFile (Table.noted.folder ';') "data.csv" "iban" "iban").value =
      .ok (.ofProblem (.noColumn "iban" ["notiz;iban".toList])) := by
  have hcolumn : Table.noted.IsColumn "iban" 1 := by decide +kernel
  have hread := Kind.parse_iban_of_parse (Iban.parse_text_of_fromParts Iban.fromParts_no)
  have hvalid (n : Nat) : (rowFor .iban n "NO9386011117947").value.valid = true := by
    rw [valid_rowFor _ _ (by decide), Kind.valid_validateText_iff]
    exact ⟨_, hread⟩
  have hcons (n : Nat) (rs : List Record) : (rowsFor .iban 1 n (note :: rs)).value =
      (rowFor .iban n "NO9386011117947").value :: (rowsFor .iban 1 (n + 1) rs).value :=
    value_rowsFor_cons .iban 1 n (List.cons_ne_nil _ _) rs
  refine ⟨⟨_, ?_, Table.value_of_not_halved rfl hcolumn (by decide) (Table.read?_folder ',' _) (.inl rfl)⟩, ?_⟩
  · change (rowsFor .iban 1 2 [note, note, note]).value.map Row.valid = _
    rw [hcons, hcons, hcons, List.map_cons, List.map_cons, List.map_cons, hvalid, hvalid, hvalid]
    rfl
  · have hline : (line ';' Table.noted.header).folded = "notiz;iban".toList := by decide +kernel
    rw [← hline]
    exact Table.value_of_halved rfl (by decide) (by decide) (Table.read?_folder ';' _) Table.halved_noted
      (by decide +kernel)

end PaymentIdentifiers.Sheet
