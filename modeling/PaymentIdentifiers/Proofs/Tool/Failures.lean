import PaymentIdentifiers.Proofs.Log.Discretion
import PaymentIdentifiers.Proofs.Sheet.Rows
import PaymentIdentifiers.Proofs.Sheet.Decoding
import PaymentIdentifiers.Proofs.Sheet.Dialects
import PaymentIdentifiers.Proofs.Sheet.Faults

/-!
# When the tool for tables has no answer

An unknown kind, a path that leads nowhere and a table without the column are answered with the problem. No answer is
given for a folder, for what the system does not look up or read, and for a table that the reader stumbles over.
-/
namespace PaymentIdentifiers

namespace Folder

variable {f : Folder} {p : Path} {e : SystemError}

/-- Why a path that may lead somewhere is not read: the system does not look there, or it does not read what is there, or
there is a folder, which has nothing to read. -/
inductive Unreadable (f : Folder) (p : Path) : SystemError → Prop
  | unreachable {e : SystemError} (place : f.find p = .unreachable e) : Unreadable f p e
  | barred {e : SystemError} (there : f.find p = .folder ∨ ∃ content, f.find p = .file content)
      (barred : f.barred p = some e) : Unreadable f p e
  | isFolder (place : f.find p = .folder) (free : f.barred p = none) : Unreadable f p .isFolder

theorem read?_eq_none_iff : f.read? p = none ↔ f.find p = .absent := by
  unfold read?
  cases f.find p with
  | file content => cases f.barred p <;> simp
  | folder => simp
  | absent => simp
  | unreachable e => simp

theorem read?_eq_error_iff : f.read? p = some (.error e) ↔ f.Unreadable p e := by
  constructor
  · intro h
    cases hplace : f.find p with
    | file content =>
      cases hbarred : f.barred p with
      | none => simp [read?, hplace, hbarred] at h
      | some e' =>
        obtain rfl : e' = e := by simpa [read?, hplace, hbarred] using h
        exact .barred (.inr ⟨content, hplace⟩) hbarred
    | folder =>
      cases hbarred : f.barred p with
      | none =>
        obtain rfl : .isFolder = e := by simpa [read?, hplace, hbarred] using h
        exact .isFolder hplace hbarred
      | some e' =>
        obtain rfl : e' = e := by simpa [read?, hplace, hbarred] using h
        exact .barred (.inl hplace) hbarred
    | absent => simp [read?, hplace] at h
    | unreachable e' =>
      obtain rfl : e' = e := by simpa [read?, hplace] using h
      exact .unreachable hplace
  · rintro (hplace | ⟨hplace | ⟨content, hplace⟩, hbarred⟩ | ⟨hplace, hfree⟩)
    · simp [read?, hplace]
    · simp [read?, hplace, hbarred]
    · simp [read?, hplace, hbarred]
    · simp [read?, hplace, hfree]

/-- Whatever else is there, a folder is not read. -/
theorem exists_unreadable_of_folder (h : f.find p = .folder) : ∃ e, f.Unreadable p e := by
  cases hbarred : f.barred p with
  | none => exact ⟨_, .isFolder h hbarred⟩
  | some e => exact ⟨e, .barred (.inl h) hbarred⟩

end Folder

namespace Sheet

variable {folder : Folder} {path column kindName : Text} {k : Kind} {table : Reading} {header : Record}
  {records : List Record}

/-- What a run over a column ends with instead of rows, because of its arguments. -/
inductive Problem.Arises (folder : Folder) (path column kindName : Text) : Problem → Prop
  | unknownKind (unknown : kindOf? kindName = none) : Arises folder path column kindName (.unknownKind kindName)
  | fileNotFound {k : Kind} (known : kindOf? kindName = some k) (place : folder.find (.ofText path) = .absent) :
      Arises folder path column kindName (.fileNotFound (Path.ofText path).text)
  | noHeader {k : Kind} {table : Reading} (known : kindOf? kindName = some k)
      (place : tableAt? folder path = some table) (empty : table.records = []) (finished : table.fault = none) :
      Arises folder path column kindName .noHeader
  | noColumn {k : Kind} {table : Reading} {header : Record} {records : List Record}
      (known : kindOf? kindName = some k) (place : tableAt? folder path = some table)
      (begun : table.records = header :: records) (absent : column.folded ∉ header.map Text.folded) :
      Arises folder path column kindName (.noColumn column (Text.sortDistinct (header.map Text.folded)))

/-- What ends a run over a column without any result. A fault behind the header counts if the column is there only. -/
inductive Failure.Escapes (folder : Folder) (path column kindName : Text) : Failure → Prop
  | unreadable {k : Kind} {e : SystemError} (known : kindOf? kindName = some k)
      (place : folder.Unreadable (.ofText path) e) :
      Escapes folder path column kindName (.system e (Path.ofText path).text)
  | inHeader {k : Kind} {table : Reading} {fault : Fault} (known : kindOf? kindName = some k)
      (place : tableAt? folder path = some table) (empty : table.records = []) (stopped : table.fault = some fault) :
      Escapes folder path column kindName (.reading fault)
  | behindHeader {k : Kind} {table : Reading} {fault : Fault} {header : Record} {records : List Record}
      (known : kindOf? kindName = some k) (place : tableAt? folder path = some table)
      (begun : table.records = header :: records) (present : column.folded ∈ header.map Text.folded)
      (stopped : table.fault = some fault) : Escapes folder path column kindName (.reading fault)

theorem exists_columnIndex? (h : column.folded ∈ header.map Text.folded) :
    ∃ index, columnIndex? header column = some index :=
  Option.ne_none_iff_exists'.1 fun hnone => columnIndex?_eq_none_iff.1 hnone h

/-- A problem is all that a run ends with: nothing is written to the log. -/
theorem validateFile_of_arises {problem : Problem} (h : Problem.Arises folder path column kindName problem) :
    validateFile folder path column kindName = .quiet (.ok (.ofProblem problem)) := by
  cases h with
  | unknownKind hk => simp [validateFile, hk]
  | fileNotFound hk hplace => simp [validateFile, hk, Folder.read?_eq_none_iff.2 hplace]
  | noHeader hk htable hrecords hfault =>
    simp [validateFile_of_tableAt? hk htable, checkTable, hrecords, hfault]
  | noColumn hk htable hrecords habsent =>
    simp [validateFile_of_tableAt? hk htable, checkTable, hrecords, columnIndex?_eq_none_iff.2 habsent]

theorem value_of_arises {problem : Problem} (h : Problem.Arises folder path column kindName problem) :
    (validateFile folder path column kindName).value = .ok (.ofProblem problem) := by
  rw [validateFile_of_arises h, Log.Logged.quiet]

theorem value_of_escapes {failure : Failure} (h : Failure.Escapes folder path column kindName failure) :
    (validateFile folder path column kindName).value = .error failure := by
  cases h with
  | unreadable hk hplace => simp [validateFile, hk, Folder.read?_eq_error_iff.2 hplace, Log.Logged.quiet]
  | inHeader hk htable hrecords hfault =>
    simp [validateFile_of_tableAt? hk htable, checkTable, hrecords, hfault, Log.Logged.quiet]
  | behindHeader hk htable hrecords hpresent hfault =>
    obtain ⟨index, hindex⟩ := exists_columnIndex? hpresent
    simp [validateFile_of_tableAt? hk htable, checkTable, hrecords, hindex, hfault, Log.Logged.map]

/-- A run that is not ended by its arguments or by a failure has a table with the column and without a fault. -/
theorem exists_table_or (folder : Folder) (path column kindName : Text) :
    (∃ failure, Failure.Escapes folder path column kindName failure) ∨
      (∃ problem, Problem.Arises folder path column kindName problem) ∨
      ∃ k table header records index, kindOf? kindName = some k ∧ tableAt? folder path = some table ∧
        table.records = header :: records ∧ table.fault = none ∧ columnIndex? header column = some index := by
  cases hk : kindOf? kindName with
  | none => exact .inr (.inl ⟨_, .unknownKind hk⟩)
  | some k =>
    rcases hread : folder.read? (.ofText path) with _ | e | content
    · exact .inr (.inl ⟨_, .fileNotFound hk (Folder.read?_eq_none_iff.1 hread)⟩)
    · exact .inl ⟨_, .unreadable hk (Folder.read?_eq_error_iff.1 hread)⟩
    · have htable : tableAt? folder path = some (tableOf content) := by simp [tableAt?, hread]
      cases hrecords : (tableOf content).records with
      | nil =>
        cases hfault : (tableOf content).fault with
        | some fault => exact .inl ⟨_, .inHeader hk htable hrecords hfault⟩
        | none => exact .inr (.inl ⟨_, .noHeader hk htable hrecords hfault⟩)
      | cons header records =>
        by_cases hcolumn : column.folded ∈ header.map Text.folded
        · obtain ⟨index, hindex⟩ := exists_columnIndex? hcolumn
          cases hfault : (tableOf content).fault with
          | some fault => exact .inl ⟨_, .behindHeader hk htable hrecords hcolumn hfault⟩
          | none => exact .inr (.inr ⟨k, _, header, records, index, hk ▸ rfl, htable, hrecords, hfault, hindex⟩)
        · exact .inr (.inl ⟨_, .noColumn hk htable hrecords hcolumn⟩)

theorem value_eq_error_iff {failure : Failure} : (validateFile folder path column kindName).value = .error failure ↔
    Failure.Escapes folder path column kindName failure := by
  refine ⟨fun h => ?_, value_of_escapes⟩
  rcases exists_table_or folder path column kindName with ⟨other, hother⟩ | ⟨problem, hproblem⟩ |
    ⟨k, table, header, records, index, hk, htable, hrecords, hfault, hindex⟩
  · rw [value_of_escapes hother] at h
    exact Except.error.inj h ▸ hother
  · rw [value_of_arises hproblem] at h
    cases h
  · rw [validateFile_of_table hk htable hrecords hfault hindex] at h
    cases h

/-- If a table is not read to its end, the reason can be seen in its text. -/
theorem cause_of_tableOf (content : ByteArray) :
    (tableOf content).fault = none ∨
      ((tableOf content).fault = some .strayNewline ∧ StrayReturn (decode content)) ∨
      ((tableOf content).fault = some .fieldTooLong ∧ maxField < (decode content).length) := by
  cases hfault : (tableOf content).fault with
  | none => exact .inl rfl
  | some fault =>
    cases fault with
    | strayNewline => exact .inr (.inl ⟨rfl, strayReturn_of_read hfault⟩)
    | fieldTooLong => exact .inr (.inr ⟨rfl, length_of_read hfault⟩)

/-- In a text without quotes, a stray carriage return is always found. -/
theorem tableOf_fault_ne_none {content : ByteArray} (hquote : NoQuote (decode content))
    (h : StrayReturn (decode content)) : (tableOf content).fault ≠ none :=
  read_fault_ne_none (Dialect.quote_detect_not_mem hquote) h

/-- A file without the byte of a carriage return that is not larger than a cell may be is read to its end. -/
theorem tableOf_fault_eq_none {content : ByteArray} (hreturn : 13 ∉ content.data.toList)
    (hsize : content.size ≤ maxField) : (tableOf content).fault = none := by
  rcases cause_of_tableOf content with hnone | ⟨-, hstray⟩ | ⟨-, hlong⟩
  · exact hnone
  · exact absurd (return_mem_of_decode hstray.mem) hreturn
  · have hdecoded := length_decode_le content
    omega

end Sheet

namespace Tool

/-- The reply about a problem. -/
theorem batchReply_ofProblem (problem : Sheet.Problem) :
    batchReply (.ofProblem problem) = "CSV-Fehler:\n  " ++ problem.message := by
  simp [batchReply, Sheet.Batch.ofProblem, text, Text.joined]

section
variable {folder : Folder} {path column kindName : Text}

theorem value_validateCsvArguments (folder : Folder) (path column kindName : Text) :
    (validateCsvArguments folder (.text path) (.text column) (.text kindName)).value =
      (Sheet.validateFile folder path column kindName).value.map batchReply := by
  rw [validateCsvArguments, Sheet.validateArguments_text]
  rfl

theorem validateCsvArguments_eq_error_iff {failure : Sheet.Failure} :
    (validateCsvArguments folder (.text path) (.text column) (.text kindName)).value = .error failure ↔
      Sheet.Failure.Escapes folder path column kindName failure := by
  rw [value_validateCsvArguments, ← Sheet.value_eq_error_iff]
  cases (Sheet.validateFile folder path column kindName).value <;> simp [Except.map]

/-- For the path of a folder there is no answer. -/
theorem exists_failure_of_folder (hplace : folder.find (.ofText path) = .folder)
    (hkind : ∃ k, Sheet.kindOf? kindName = some k) : ∃ e : SystemError,
      (validateCsvArguments folder (.text path) (.text column) (.text kindName)).value =
        .error (.system e (Path.ofText path).text) := by
  obtain ⟨k, hk⟩ := hkind
  obtain ⟨e, he⟩ := Folder.exists_unreadable_of_folder hplace
  exact ⟨e, validateCsvArguments_eq_error_iff.2 (.unreadable hk he)⟩

theorem validateCsvArguments_of_arises {problem : Sheet.Problem}
    (h : Sheet.Problem.Arises folder path column kindName problem) :
    (validateCsvArguments folder (.text path) (.text column) (.text kindName)).value =
      .ok ("CSV-Fehler:\n  " ++ problem.message) := by
  rw [value_validateCsvArguments, Sheet.value_of_arises h, Except.map, batchReply_ofProblem]

theorem exists_rows (hfailure : ¬ ∃ failure, Sheet.Failure.Escapes folder path column kindName failure)
    (hproblem : ¬ ∃ problem, Sheet.Problem.Arises folder path column kindName problem) :
    ∃ k header records index, Sheet.kindOf? kindName = some k ∧
      Sheet.tableAt? folder path = some ⟨header :: records, none⟩ ∧ Sheet.columnIndex? header column = some index ∧
      (validateCsvArguments folder (.text path) (.text column) (.text kindName)).value =
        .ok (batchReply ⟨[], (Sheet.rowsFor k index 2 records).value⟩) := by
  obtain ⟨k, ⟨_, _⟩, header, records, index, hk, htable, rfl, rfl, hindex⟩ :=
    ((Sheet.exists_table_or folder path column kindName).resolve_left hfailure).resolve_left hproblem
  refine ⟨k, header, records, index, hk, htable, hindex, ?_⟩
  rw [value_validateCsvArguments, Sheet.validateFile_of_table hk htable rfl rfl hindex, Except.map]

/-- With a file that is read to its end, nothing escapes. -/
theorem not_escapes_of_read {content : ByteArray} (hbytes : folder.read? (.ofText path) = some (.ok content))
    (hfault : (Sheet.tableOf content).fault = none) (failure : Sheet.Failure) :
    ¬ Sheet.Failure.Escapes folder path column kindName failure := by
  have htable : Sheet.tableAt? folder path = some (Sheet.tableOf content) := by simp [Sheet.tableAt?, hbytes]
  rintro (⟨-, hplace⟩ | ⟨-, hplace, -, hstopped⟩ | ⟨-, hplace, -, -, hstopped⟩)
  · simp [Folder.read?_eq_error_iff.2 hplace] at hbytes
  · rw [htable] at hplace
    simp [← Option.some.inj hplace, hfault] at hstopped
  · rw [htable] at hplace
    simp [← Option.some.inj hplace, hfault] at hstopped

/-- Without a failure there is an answer. -/
theorem exists_answer (h : ∀ failure, ¬ Sheet.Failure.Escapes folder path column kindName failure) :
    ∃ answer, (validateCsvArguments folder (.text path) (.text column) (.text kindName)).value = .ok answer := by
  cases hvalue : (validateCsvArguments folder (.text path) (.text column) (.text kindName)).value with
  | ok answer => exact ⟨answer, rfl⟩
  | error failure => exact absurd (validateCsvArguments_eq_error_iff.1 hvalue) (h failure)

end

/-- The tool for tables fails exactly for the reasons listed, whatever the system does in the folder and outside; for the
path of a folder it has no answer. It answers with the problem if there is one, and otherwise with its rows. The reader
stumbles over what can be seen in the text, and over nothing in a file without carriage returns that is not larger than a
cell may be, whatever its bytes are. -/
theorem csv_failures_exact (folder : Folder) (path column kindName : Text) :
    (∀ failure, (validateCsvArguments folder (.text path) (.text column) (.text kindName)).value = .error failure ↔
      Sheet.Failure.Escapes folder path column kindName failure) ∧
    (folder.find (.ofText path) = .folder → (∃ k, Sheet.kindOf? kindName = some k) → ∃ e : SystemError,
      (validateCsvArguments folder (.text path) (.text column) (.text kindName)).value =
        .error (.system e (Path.ofText path).text)) ∧
    (∀ problem, Sheet.Problem.Arises folder path column kindName problem →
      (validateCsvArguments folder (.text path) (.text column) (.text kindName)).value =
        .ok ("CSV-Fehler:\n  " ++ problem.message)) ∧
    ((¬ ∃ failure, Sheet.Failure.Escapes folder path column kindName failure) →
      (¬ ∃ problem, Sheet.Problem.Arises folder path column kindName problem) →
      ∃ k header records index, Sheet.kindOf? kindName = some k ∧
        Sheet.tableAt? folder path = some ⟨header :: records, none⟩ ∧ Sheet.columnIndex? header column = some index ∧
        (validateCsvArguments folder (.text path) (.text column) (.text kindName)).value =
          .ok (batchReply ⟨[], (Sheet.rowsFor k index 2 records).value⟩)) ∧
    ∀ content : ByteArray, folder.read? (.ofText path) = some (.ok content) →
      ((Sheet.tableOf content).fault = none ∨
        ((Sheet.tableOf content).fault = some .strayNewline ∧ Sheet.StrayReturn (Sheet.decode content)) ∨
        ((Sheet.tableOf content).fault = some .fieldTooLong ∧ Sheet.maxField < (Sheet.decode content).length)) ∧
      (Sheet.NoQuote (Sheet.decode content) → Sheet.StrayReturn (Sheet.decode content) →
        (Sheet.tableOf content).fault ≠ none) ∧
      (13 ∉ content.data.toList → content.size ≤ Sheet.maxField →
        ∃ answer, (validateCsvArguments folder (.text path) (.text column) (.text kindName)).value = .ok answer) :=
  ⟨fun _ => validateCsvArguments_eq_error_iff, exists_failure_of_folder, fun _ => validateCsvArguments_of_arises,
    exists_rows, fun content hbytes => ⟨Sheet.cause_of_tableOf content, Sheet.tableOf_fault_ne_none, fun hreturn hsize =>
      exists_answer (not_escapes_of_read hbytes (Sheet.tableOf_fault_eq_none hreturn hsize))⟩⟩

/-- A table of one code, a file in which the header is cut by a carriage return, and one that is not read. -/
theorem csv_failures_exact_codes :
    let codes : ByteArray := "BIC,name\nPSSTFRPP,\n".toUTF8
    let cut : ByteArray := "BIC\rname".toUTF8
    let folder : Folder :=
      { Folder.ofFiles [(["codes.csv".toList], codes), (["cut.csv".toList], cut), (["locked.csv".toList], codes)] with
        barred := fun p => if p.name = "locked.csv".toList then some .denied else none }
    let answerFor := fun (path column : Text) =>
      (validateCsvArguments folder (.text path) (.text column) (.text "bic")).value
    answerFor "cut.csv" "bic" = .error (.reading .strayNewline) ∧
      answerFor "locked.csv" "bic" = .error (.system .denied "locked.csv") ∧
      (∃ e : SystemError, answerFor "./" "bic" = .error (.system e ".")) ∧
      answerFor "codes.csv" "iban" = .ok "CSV-Fehler:\n  CSV fehlt Spalte 'iban'. Vorhanden: bic, name." ∧
      (¬ ∃ failure, Sheet.Failure.Escapes folder "codes.csv" " bic " "bic" failure) ∧
      (¬ ∃ problem, Sheet.Problem.Arises folder "codes.csv" " bic " "bic" problem) ∧
      answerFor "codes.csv" " bic " = .ok "1 gueltig, 0 ungueltig." ∧
      Sheet.NoQuote (Sheet.decode cut) ∧ Sheet.StrayReturn (Sheet.decode cut) ∧ (Sheet.tableOf cut).fault ≠ none ∧
      13 ∉ codes.data.toList ∧ codes.size ≤ Sheet.maxField ∧
      ∃ answer, answerFor "codes.csv" "iban" = .ok answer := by
  intro codes cut folder answerFor
  obtain ⟨hfailure, -, -, -, hstumbles⟩ := csv_failures_exact folder "cut.csv" "bic" "bic"
  obtain ⟨hbarred, -⟩ := csv_failures_exact folder "locked.csv" "bic" "bic"
  obtain ⟨-, hdot, -⟩ := csv_failures_exact folder "./" "bic" "bic"
  obtain ⟨-, -, hproblem, -, hanswers⟩ := csv_failures_exact folder "codes.csv" "iban" "bic"
  obtain ⟨-, -, -, hrows, -⟩ := csv_failures_exact folder "codes.csv" " bic " "bic"
  have hcodes : Sheet.tableAt? folder "codes.csv" =
      some ⟨["BIC".toList, "name".toList] :: [["PSSTFRPP".toList, []]], none⟩ := by
    decide +kernel
  have hbytes : folder.read? (.ofText "codes.csv") = some (.ok codes) := rfl
  have hcut : Sheet.tableAt? folder "cut.csv" = some ⟨[], some .strayNewline⟩ := by decide +kernel
  have hvalue : (Sheet.validateFile folder "codes.csv" " bic " "bic").value =
      .ok ⟨[], [⟨2, "PSST***PXXX", true, [], "PSSTFRPPXXX"⟩]⟩ := by
    decide +kernel
  have hnofailure : ¬ ∃ failure, Sheet.Failure.Escapes folder "codes.csv" " bic " "bic" failure := by
    rintro ⟨failure, h⟩
    exact not_escapes_of_read hbytes (by decide +kernel) failure h
  have hnoproblem : ¬ ∃ problem, Sheet.Problem.Arises folder "codes.csv" " bic " "bic" problem := by
    rintro ⟨problem, h⟩
    rw [Sheet.value_of_arises h] at hvalue
    cases hvalue
  have hquiet : Sheet.NoQuote (Sheet.decode cut) := by decide +kernel
  have hstray : Sheet.StrayReturn (Sheet.decode cut) := ⟨"BIC", 'n', "ame", by decide +kernel, by decide⟩
  have hreturn : 13 ∉ codes.data.toList := by decide +kernel
  have hlocked : Sheet.Failure.Escapes folder "locked.csv" "bic" "bic" (.system .denied "locked.csv") :=
    .unreadable rfl (.barred (.inr ⟨codes, rfl⟩) rfl)
  refine ⟨(hfailure _).2 (.inHeader rfl hcut rfl rfl), (hbarred _).2 hlocked, hdot rfl ⟨.bic, rfl⟩, ?_, hnofailure,
    hnoproblem, ?_, hquiet, hstray, (hstumbles cut rfl).2.1 hquiet hstray, hreturn, by decide +kernel,
    (hanswers codes hbytes).2.2 hreturn (by decide +kernel)⟩
  · exact hproblem _ (.noColumn rfl hcodes rfl (by decide +kernel))
  · obtain ⟨k, header, records, index, hk, htable, hindex, hanswer⟩ := hrows hnofailure hnoproblem
    obtain rfl : .bic = k := Option.some.inj hk
    cases hcodes.symm.trans htable
    have hfirst : Sheet.columnIndex? ["BIC".toList, "name".toList] " bic " = some 0 := by decide +kernel
    obtain rfl : 0 = index := Option.some.inj (hfirst.symm.trans hindex)
    exact hanswer.trans (congrArg Except.ok (by decide +kernel))

/-- The path of a single dot leads to the working folder. The tool has no answer for it. -/
theorem csv_failure_unanswered : ¬ ∃ answer, (validateCsvArguments
    (.ofFiles [(["data.csv".toList], "iban\nDE89370400440532013000\n".toUTF8)])
    (.text ".") (.text "iban") (.text "iban")).value = .ok answer := by
  rintro ⟨answer, hanswer⟩
  have hfolder : Sheet.Failure.Escapes (.ofFiles [(["data.csv".toList], "iban\nDE89370400440532013000\n".toUTF8)])
      "." "iban" "iban" (.system .isFolder ".") :=
    .unreadable rfl (.isFolder rfl rfl)
  rw [validateCsvArguments_eq_error_iff.2 hfolder] at hanswer
  cases hanswer

end Tool
end PaymentIdentifiers
