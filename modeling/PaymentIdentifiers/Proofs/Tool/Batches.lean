import PaymentIdentifiers.Proofs.Sheet.Runs

/-!
# Batches and what is said about them

A run ends with one problem or with rows. Its rows are numbered from two, its counts add up to their number, and each
row agrees with itself. The last line of the log has the counts, and so has the reply, which shows nothing else of the
valid rows.
-/
namespace PaymentIdentifiers

namespace Kind

variable {k : Kind} {v : Text} {x : Identifier}

theorem text_ne_nil_of_parse (h : k.parse v = .ok x) : x.text ≠ [] := by
  intro hempty
  have hread := (isCanonical_of_parse h).rereads
  have hnone : (k.parse []).toOption = none := by cases k <;> decide +kernel
  rw [kind_of_parse h, hempty] at hread
  rw [hread] at hnone
  cases hnone

/-- An identifier that was read is valid as it is written, and stays as it is. -/
theorem validateText_text_of_parse (h : k.parse v = .ok x) :
    k.validateText x.text = .quiet ⟨Log.maskEnds x.text, [], none, some x⟩ := by
  have hread := (isCanonical_of_parse h).rereads
  rw [kind_of_parse h] at hread
  exact validateText_of_ok hread

end Kind

theorem Reason.germanText_ne_nil (reason : Reason) : reason.germanText ≠ [] := by
  cases reason <;> decide

namespace Sheet

/-- The fields of a row agree with each other, and the text of a valid row is valid and stays as it is. -/
structure Row.Consistent (k : Kind) (row : Row) : Prop where
  error_iff : row.valid = true ↔ row.error = []
  normalized_iff : row.valid = true ↔ row.normalized ≠ []
  masked : row.valid = true → row.masked = Log.maskEnds row.normalized
  again : row.valid = true → ∃ report, k.validate (.text row.normalized) = .ok report ∧ report.value.valid = true ∧
    report.value.identifier.map Identifier.text = some row.normalized

/-- A row without a result. -/
theorem Row.consistent_of_invalid {k : Kind} {row : Row} (hvalid : row.valid = false) (herror : row.error ≠ [])
    (hnormalized : row.normalized = []) : row.Consistent k where
  error_iff := by simp [hvalid, herror]
  normalized_iff := by simp [hvalid, hnormalized]
  masked := by simp [hvalid]
  again := by simp [hvalid]

theorem Row.consistent_of_repeats {k : Kind} {v : Text} {row : Row} (h : row.Repeats (k.validateText v).value) :
    row.Consistent k := by
  obtain ⟨hvalid, hmasked, herror, hnormalized⟩ := h
  cases hparse : k.parse v with
  | ok x =>
    rw [Kind.validateText_of_ok hparse] at hvalid hmasked herror hnormalized
    replace hvalid : row.valid = true := hvalid
    replace hnormalized : row.normalized = x.text := hnormalized
    exact {
      error_iff := iff_of_true hvalid herror
      normalized_iff := iff_of_true hvalid (hnormalized ▸ Kind.text_ne_nil_of_parse hparse)
      masked := fun _ => hnormalized ▸ hmasked
      again := fun _ => by
        rw [hnormalized]
        exact ⟨_, rfl, by rw [Kind.validateText_text_of_parse hparse]; exact ⟨rfl, rfl⟩⟩ }
  | error r =>
    rw [Kind.validateText_of_error hparse] at hvalid herror hnormalized
    exact consistent_of_invalid hvalid (herror ▸ Reason.germanText_ne_nil r.reason) hnormalized

theorem Row.consistent_of_reports {k : Kind} {cell : Text} {row : Row} (h : row.Reports k cell) : row.Consistent k := by
  rw [Row.Reports] at h
  split at h
  · obtain ⟨hvalid, -, herror, hnormalized⟩ := h
    exact consistent_of_invalid hvalid (by rw [herror]; decide) hnormalized
  · exact consistent_of_repeats h

namespace Batch

variable (b : Batch)

theorem validCount_add_invalidCount : b.validCount + b.invalidCount = b.rows.length :=
  Nat.add_sub_of_le List.countP_le_length

theorem length_filter_invalid : (b.rows.filter fun row => !row.valid).length = b.invalidCount := by
  have hcounts : b.rows.length = b.rows.countP Row.valid + _ := List.length_eq_countP_add_countP Row.valid
  rw [invalidCount, validCount, hcounts, Nat.add_sub_cancel_left, ← List.countP_eq_length_filter]
  exact List.countP_congr fun row _ => by simp

end Batch

theorem level_validateText (k : Kind) (v : Text) : ∀ r ∈ (k.validateText v).records, r.level = .debug := by
  unfold Kind.validateText
  split
  · exact fun _ hr => absurd hr List.not_mem_nil
  · intro r hr
    obtain rfl := List.mem_singleton.1 hr
    rfl

theorem level_rowFor (k : Kind) (n : Nat) (cell : Text) : ∀ r ∈ (rowFor k n cell).records, r.level = .debug := by
  unfold rowFor
  split
  · exact fun _ hr => absurd hr List.not_mem_nil
  · exact level_validateText k cell

/-- What the log says about cells is said at the lowest level. -/
theorem level_rowsFor (k : Kind) (index n : Nat) (rs : List Record) :
    ∀ r ∈ (rowsFor k index n rs).records, r.level = .debug :=
  forall_mem_records_rowsFor k index n rs (level_rowFor k)

/-- What the closing message says behind the mask of the log, however large the counts are. -/
theorem maskedMessage_summary (name : Text) (b : Batch) : (summary name b).maskedMessage =
    .ok ("CSV validiert: " ++ Log.maskText name ++ " | " ++ Text.ofNat b.validCount ++ " gueltig | " ++
      Text.ofNat b.invalidCount ++ " ungueltig") := by
  rw [Log.Record.maskedMessage_of_spells _ (spells_summary name b) (worded_summaryStretches name b) rfl]
  simp [summaryStretches, Log.Stretch.masked, Log.Stretch.written]

/-- What a run without problems promises: its rows, their numbers and their counts. -/
structure Batch.IsComplete (k : Kind) (index : Nat) (records : List Record) (b : Batch) : Prop where
  problems : b.problems = []
  numbers : b.rows.map Row.number = List.range' 2 (records.filter fun r => !r.isEmpty).length
  about : List.Forall₂ (fun r row => Row.Reports k (r.getD index []) row) (records.filter fun r => !r.isEmpty) b.rows
  counts : b.validCount + b.invalidCount = b.rows.length
  consistent : ∀ row ∈ b.rows, row.Consistent k

/-- The log of a run ends with its counts, and says nothing else for the user. -/
structure Batch.ClosesLog (name : Text) (b : Batch) (written : List Log.Record) : Prop where
  ends : ∃ front, written = front ++ [summary name b] ∧ ∀ r ∈ front, r.level = .debug
  level : (summary name b).level = .info
  message : (summary name b).maskedMessage = .ok ("CSV validiert: " ++ Log.maskText name ++ " | " ++
    Text.ofNat b.validCount ++ " gueltig | " ++ Text.ofNat b.invalidCount ++ " ungueltig")

variable {folder : Folder} {path column kindName : Text}

section
variable (x : Run folder path column kindName)

theorem Run.isComplete : Batch.IsComplete x.kind x.index x.records ⟨[], x.rows⟩ where
  problems := rfl
  numbers := map_number_rowsFor x.kind x.index 2 x.records
  about := reports_rows x.kind x.index 2 x.records
  counts := Batch.validCount_add_invalidCount _
  consistent := by
    intro row hrow
    rw [Run.rows, value_rowsFor] at hrow
    obtain ⟨p, -, rfl⟩ := List.mem_map.1 hrow
    exact Row.consistent_of_reports (reports_rowFor x.kind p.2 _)

theorem Run.closesLog : Batch.ClosesLog (Path.ofText path).name ⟨[], x.rows⟩
    (validateFile folder path column kindName).records where
  ends := ⟨_, by rw [x.validateFile_eq], level_rowsFor x.kind x.index 2 x.records⟩
  level := rfl
  message := maskedMessage_summary _ _

end

/-- With a column that is no text, a run ends with a batch only if there is no header to look it up in. -/
theorem endsEarly_checkColumn {k : Kind} {name : Text} {column : Datum} {table : Reading} {b : Batch}
    (hcolumn : ∀ t, column ≠ .text t) (h : (checkColumn k name column table).value = .ok b) :
    EndsEarly (checkColumn k name column table) := by
  revert h
  fun_cases checkColumn k name column table with
  | case1 t => exact absurd rfl (hcolumn t)
  | case2 =>
    rename_i hrecords _
    intro h
    rw [checkTable] at h ⊢
    simp only [hrecords] at h ⊢
    cases hfault : table.fault with
    | some fault => simp [hfault, Log.Logged.quiet] at h
    | none => exact ⟨.noHeader, rfl⟩
  | case3 => simp [Log.Logged.quiet]

/-- Without three texts, a run that ends with a batch has ended early. -/
theorem endsEarly_or_texts {folder : Folder} {path column kind : Datum} {b : Batch}
    (h : (validateArguments folder path column kind).value = .ok b) :
    EndsEarly (validateArguments folder path column kind) ∨
      ∃ pathText columnText kindName, path = .text pathText ∧ column = .text columnText ∧ kind = .text kindName := by
  revert h
  fun_cases validateArguments folder path column kind with
  | case1 => exact nofun
  | case2 => exact nofun
  | case3 =>
    intro h
    by_cases hcolumn : ∃ t, column = .text t
    · obtain ⟨t, rfl⟩ := hcolumn
      exact .inr ⟨_, t, _, rfl, rfl, rfl⟩
    · exact .inl (endsEarly_checkColumn (fun t ht => hcolumn ⟨t, ht⟩) h)
  | case4 kindName path hnone =>
    intro h
    refine .inl ((endsEarly_or_run h).resolve_right fun ⟨x, _⟩ => ?_)
    have hplace := x.place
    unfold tableAt? at hplace
    split at hplace
    · rename_i content hbytes
      exact hnone x.kind content x.known hbytes
    · cases hplace
  | case5 => exact nofun
  | case6 => exact fun _ => .inl ⟨_, rfl⟩
  | case7 => exact fun _ => .inl ⟨_, rfl⟩

end Sheet

namespace Tool

/-- Two rows that a reply shows alike: both are valid, or they are the same row. -/
def ShownAlike (row row' : Sheet.Row) : Prop := row.valid = row'.valid ∧ (row.valid = false → row = row')

section
variable {rows rows' : List Sheet.Row} (h : List.Forall₂ ShownAlike rows rows')
include h

theorem countP_valid_congr : rows.countP Sheet.Row.valid = rows'.countP Sheet.Row.valid := by
  induction h with
  | nil => rfl
  | cons hrow _ ih => rw [List.countP_cons, List.countP_cons, hrow.1, ih]

theorem filter_invalid_congr : (rows.filter fun row => !row.valid) = rows'.filter fun row => !row.valid := by
  induction h with
  | nil => rfl
  | @cons row row' rows rows' hrow _ ih =>
    cases hvalid : row.valid with
    | true =>
      rw [List.filter_cons_of_neg (by simp [hvalid]), List.filter_cons_of_neg (by simp [← hrow.1, hvalid]), ih]
    | false =>
      obtain rfl := hrow.2 hvalid
      rw [List.filter_cons_of_pos (by simp [hvalid]), List.filter_cons_of_pos (by simp [hvalid]), ih]

/-- The reply about rows shows nothing of the valid ones but their number. -/
theorem batchReply_congr : batchReply ⟨[], rows⟩ = batchReply ⟨[], rows'⟩ := by
  simp only [batchReply, Sheet.Batch.invalidCount, Sheet.Batch.validCount, countP_valid_congr h, h.length_eq,
    filter_invalid_congr h]

end

/-- The line about a row that is not valid: its number, what it shows of the cell, or a dash for a blank one, and the
error. -/
def IsEntry (row : Sheet.Row) (entry : Text) : Prop :=
  ∃ shown : Text, (row.masked = [] → shown = "-") ∧ (row.masked ≠ [] → shown = row.masked) ∧
    entry = "  Zeile " ++ Text.ofNat row.number ++ ": " ++ shown ++ "  " ++ row.error

theorem isEntry_rowLine (row : Sheet.Row) : IsEntry row (rowLine row) := by
  refine ⟨_, fun hblank => ?_, fun hshown => ?_, rfl⟩
  · rw [hblank]
    rfl
  · exact if_neg (by simpa using hshown)

/-- The reply about a run with rows: the line with its counts, and behind it as many lines as there are rows that are not
valid, one for each of them and in their order. -/
structure RepliesWith (b : Sheet.Batch) (reply : Text) : Prop where
  lines : ∃ entries : List Text, reply = Text.joined "\n"
      ((Text.ofNat b.validCount ++ " gueltig, " ++ Text.ofNat b.invalidCount ++ " ungueltig.") :: entries) ∧
    entries.length = b.invalidCount ∧ List.Forall₂ IsEntry (b.rows.filter fun row => !row.valid) entries
  discreet : ∀ rows, List.Forall₂ ShownAlike b.rows rows → batchReply ⟨[], rows⟩ = reply

theorem repliesWith_batchReply (rows : List Sheet.Row) : RepliesWith ⟨[], rows⟩ (batchReply ⟨[], rows⟩) where
  lines := by
    refine ⟨(rows.filter fun row => !row.valid).map rowLine, rfl, ?_, ?_⟩
    · rw [List.length_map]
      exact Sheet.Batch.length_filter_invalid ⟨[], rows⟩
    · rw [List.forall₂_map_right_iff]
      exact List.forall₂_same.2 fun row _ => isEntry_rowLine row
  discreet := fun _ h => (batchReply_congr h).symm

/-- A run that returns has one problem, no row and no line in the log, or it was given three texts and has no problem.
Then its rows are about the records behind the header that are not empty, numbered from two, its counts add up, each row
agrees with itself, and the log ends with the counts. The reply has the counts and a line for each row that is not valid,
and shows nothing of the others. -/
theorem batches_consistent (folder : Folder) (path column kind : Datum) {b : Sheet.Batch}
    (h : (Sheet.validateArguments folder path column kind).value = .ok b) :
    (∃ problem, b = ⟨[problem], []⟩ ∧ (Sheet.validateArguments folder path column kind).records = []) ∨
    ∃ (pathText columnText kindName : Text) (x : Sheet.Run folder pathText columnText kindName),
      path = .text pathText ∧ column = .text columnText ∧ kind = .text kindName ∧
      b.IsComplete x.kind x.index x.records ∧
      b.ClosesLog (Path.ofText pathText).name (Sheet.validateArguments folder path column kind).records ∧
      ∃ reply, (validateCsvArguments folder path column kind).value = .ok reply ∧ RepliesWith b reply := by
  have hearly (hend : Sheet.EndsEarly (Sheet.validateArguments folder path column kind)) :
      ∃ problem, b = ⟨[problem], []⟩ ∧ (Sheet.validateArguments folder path column kind).records = [] := by
    obtain ⟨problem, hrun⟩ := hend
    rw [hrun] at h ⊢
    exact ⟨problem, (Except.ok.inj h).symm, rfl⟩
  rcases Sheet.endsEarly_or_texts h with hend | ⟨pathText, columnText, kindName, rfl, rfl, rfl⟩
  · exact .inl (hearly hend)
  · rw [Sheet.validateArguments_text] at h hearly ⊢
    rcases Sheet.endsEarly_or_run h with hend | ⟨x, rfl⟩
    · exact .inl (hearly hend)
    · refine .inr ⟨pathText, columnText, kindName, x, rfl, rfl, rfl, x.isComplete, x.closesLog, _, ?_,
        repliesWith_batchReply x.rows⟩
      rw [value_validateCsvArguments, h, Except.map]

/-- A table with a code, an empty line, a record without a code and a code of an unknown country, asked for a column
that is there and for one that is not. -/
theorem batches_consistent_codes :
    let folder : Folder :=
      .ofFiles [(["codes.csv".toList], "BIC,Ort\nPSSTFRPP,Paris\n\n,Lyon\nPSSTZZPPXXX,Nizza\n".toUTF8)]
    let run (column : Text) := Sheet.validateArguments folder (.text "codes.csv") (.text column) (.text "bic")
    let b : Sheet.Batch := ⟨[], [⟨2, "PSST***PXXX", true, [], "PSSTFRPPXXX"⟩,
      ⟨3, [], false, "Kein Wert angegeben.", []⟩, ⟨4, "PSST***PXXX", false, "Unbekannter Laendercode.", []⟩]⟩
    (run "bic").value = .ok b ∧ (∀ row ∈ b.rows, row.Consistent .bic) ∧ b.ClosesLog "codes.csv" (run "bic").records ∧
      (∃ reply, (validateCsvArguments folder (.text "codes.csv") (.text "bic") (.text "bic")).value = .ok reply ∧
        reply = "1 gueltig, 2 ungueltig.\n  Zeile 3: -  Kein Wert angegeben.\n" ++
          "  Zeile 4: PSST***PXXX  Unbekannter Laendercode.") ∧
      (run "iban").value = .ok ⟨[.noColumn "iban" ["bic", "ort"]], []⟩ ∧ (run "iban").records = [] := by
  intro folder run b
  have hrun : (run "bic").value = .ok b := by decide +kernel
  have hnone : (run "iban").value = .ok ⟨[.noColumn "iban" ["bic", "ort"]], []⟩ := by decide +kernel
  have hname : (Path.ofText "codes.csv").name = "codes.csv" := by decide +kernel
  rcases batches_consistent folder (.text "codes.csv") (.text "iban") (.text "bic") hnone with
    ⟨_, -, hquiet⟩ | ⟨_, _, _, _, -, -, -, hcomplete, -⟩
  · rcases batches_consistent folder (.text "codes.csv") (.text "bic") (.text "bic") hrun with
      ⟨problem, hproblem, -⟩ | ⟨_, _, _, x, ⟨⟩, ⟨⟩, ⟨⟩, hcomplete, hlog, reply, hreply, hlines⟩
    · exact absurd (congrArg Sheet.Batch.problems hproblem) (List.cons_ne_nil problem []).symm
    · have hkind : Kind.bic = x.kind := Option.some.inj x.known
      obtain ⟨entries, hentries, -, habout⟩ := hlines.lines
      obtain ⟨third, _, hthird, hrest, rfl⟩ := List.forall₂_cons_left_iff.1 habout
      obtain ⟨fourth, _, hfourth, hnomore, rfl⟩ := List.forall₂_cons_left_iff.1 hrest
      obtain rfl := List.forall₂_nil_left_iff.1 hnomore
      obtain ⟨_, hdash, -, rfl⟩ := hthird
      obtain ⟨_, -, hmasked, rfl⟩ := hfourth
      obtain rfl := hdash rfl
      obtain rfl := hmasked (by decide)
      exact ⟨hrun, hkind ▸ hcomplete.consistent, hname ▸ hlog, ⟨reply, hreply, hentries.trans (by decide +kernel)⟩, hnone,
        hquiet⟩
  · exact absurd hcomplete.problems (List.cons_ne_nil _ _)

end Tool
end PaymentIdentifiers
