import PaymentIdentifiers.Proofs.Card.Issuers
import PaymentIdentifiers.Proofs.Validation.EntryPoints

/-!
# What a rejection gives away

A rejection quotes the whole text, but a report is made of the reason and of the trimmed text without its middle, and the
log, the reply of a tool and the row of a table are made of the report alone. So two texts that are rejected for one
reason cannot be told apart if their lengths and their ends are the same. Of a valid card number only the report itself
knows the middle.
-/
namespace PaymentIdentifiers

/-- Texts of one length with the same first four and the same last four characters. -/
structure Text.SameEnds (s t : Text) : Prop where
  length_eq : s.length = t.length
  take_eq : s.take 4 = t.take 4
  takeEnd_eq : s.takeEnd 4 = t.takeEnd 4

instance (s t : Text) : Decidable (s.SameEnds t) :=
  decidable_of_iff (s.length = t.length ∧ s.take 4 = t.take 4 ∧ s.takeEnd 4 = t.takeEnd 4)
    ⟨fun ⟨h₁, h₂, h₃⟩ => ⟨h₁, h₂, h₃⟩, fun ⟨h₁, h₂, h₃⟩ => ⟨h₁, h₂, h₃⟩⟩

theorem Log.maskEnds_congr {s t : Text} (h : s.SameEnds t) (hlen : 8 ≤ s.length) : maskEnds s = maskEnds t := by
  rw [maskEnds_of_le hlen, maskEnds_of_le (h.length_eq ▸ hlen), h.length_eq, h.take_eq, h.takeEnd_eq]

namespace Kind

/-- The constructor rejects the text for a reason. -/
def RejectsFor (k : Kind) (reason : Reason) (v : Text) : Prop :=
  ∃ r, k.construct (.text v) = .error (.rejected r) ∧ r.reason = reason

/-- Two texts are rejected for one reason, and show the same ends without their outer blanks. -/
structure RejectsAlike (k : Kind) (v w : Text) : Prop where
  rejects : ∃ reason, k.RejectsFor reason v ∧ k.RejectsFor reason w
  ends : v.trim.SameEnds w.trim
  least : 8 ≤ v.trim.length

/-- The line about a rejected text, as it is written to the log. -/
def reportLine (k : Kind) (reason : Reason) (v : Text) : Text :=
  k.title ++ " ungueltig (" ++ reason.name ++ "): " ++ Log.maskEnds v.trim

variable {k : Kind} {reason : Reason} {v w : Text}

/-- All that is left of a rejection. -/
theorem RejectsFor.validateText_eq (h : k.RejectsFor reason v) : k.validateText v =
    ⟨⟨Log.maskEnds v.trim, reason.germanText, some (.rejected reason), none⟩,
      [k.reportRecord reason (Log.maskEnds v.trim)]⟩ := by
  obtain ⟨r, hr, rfl⟩ := h
  rw [validateText, construct_text_eq_rejected_iff.1 hr]
  rfl

theorem RejectsAlike.symm (h : k.RejectsAlike v w) : k.RejectsAlike w v := by
  obtain ⟨reason, hv, hw⟩ := h.rejects
  exact ⟨⟨reason, hw, hv⟩, ⟨h.ends.length_eq.symm, h.ends.take_eq.symm, h.ends.takeEnd_eq.symm⟩,
    h.ends.length_eq ▸ h.least⟩

theorem RejectsAlike.trim_ne_nil (h : k.RejectsAlike v w) : v.trim ≠ [] :=
  List.ne_nil_of_length_pos (Nat.lt_of_lt_of_le (by decide) h.least)

theorem RejectsAlike.validateText_eq (h : k.RejectsAlike v w) : k.validateText v = k.validateText w := by
  obtain ⟨reason, hv, hw⟩ := h.rejects
  rw [hv.validateText_eq, hw.validateText_eq, Log.maskEnds_congr h.ends h.least]

/-- The mask of the log finds nothing more to be masked. -/
theorem RejectsFor.maskedMessage_eq (h : k.RejectsFor reason v) :
    (k.validateText v).records.map Log.Record.maskedMessage = [.ok (k.reportLine reason v)] := by
  have htitle : Log.maskText k.title = k.title := by cases k <;> decide +kernel
  have hreason : Log.maskText reason.name = reason.name := by cases reason <;> decide +kernel
  have hends : Log.maskText (Log.maskEnds v.trim) = Log.maskEnds v.trim :=
    Log.clean_iff_maskText_eq.1 (Log.clean_maskEnds v.trim)
  rw [h.validateText_eq, List.map_singleton,
    Log.Record.maskedMessage_of_spells _ (spells_reportRecord k _ _)
      (Log.Stretch.worded_of_sound (sound_reportStretches k _ _)) rfl]
  simp [reportStretches, Log.Stretch.masked, Log.Stretch.written, reportLine, htitle, hreason, hends]

end Kind

namespace Sheet

/-- A row that a run over the column of a table gives for a record with the cell in this column. -/
inductive RowFor (k : Kind) : Text → Row → Prop
  | intro {folder : Folder} {path column kindName : Text} {table : Reading} {header r : Record} {records : List Record}
      {index : Nat} {batch : Batch} {row : Row} (known : kindOf? kindName = some k)
      (place : tableAt? folder path = some table) (begun : table.records = header :: records)
      (present : columnIndex? header column = some index)
      (finished : (validateFile folder path column kindName).value = .ok batch)
      (pair : (r, row) ∈ (records.filter fun r => !r.isEmpty).zip batch.rows) : RowFor k (r.getD index []) row

theorem Row.Repeats.eq_renumbered {report : Report} {a b : Row} (ha : a.Repeats report) (hb : b.Repeats report) :
    a = { b with number := a.number } := by
  obtain ⟨n, masked, valid, error, normalized⟩ := a
  obtain ⟨rfl, rfl, rfl, rfl⟩ := ha
  rw [hb.valid, hb.masked, hb.error, hb.normalized]

variable {k : Kind}

theorem RowFor.tells {cell : Text} {row : Row} (h : RowFor k cell row) : Row.Tells k cell row := by
  cases h with
  | @intro folder path column kindName table header r records index batch row known place begun present finished pair =>
    rw [validateFile_of_tableAt? known place, checkTable] at finished
    simp only [begun, present] at finished
    cases hfault : table.fault with
    | some fault => simp [hfault, Log.Logged.map] at finished
    | none =>
      simp only [hfault, Except.ok.injEq] at finished
      rw [← finished] at pair
      exact List.forall₂_zip (tells_rowsFor k index 2 records) pair

theorem RowFor.eq_renumbered {v w : Text} {a b : Row} (h : k.RejectsAlike v w) (ha : RowFor k v a)
    (hb : RowFor k w b) : a = { b with number := a.number } := by
  have ha := ha.tells
  have hb := hb.tells
  rw [Row.Tells, if_neg h.trim_ne_nil] at ha
  rw [Row.Tells, if_neg h.symm.trim_ne_nil, ← h.validateText_eq] at hb
  exact ha.eq_renumbered hb

/-- Two records with the same cell in a column, or with cells that are rejected alike. -/
structure Twins (k : Kind) (index : Nat) (r s : Record) : Prop where
  isEmpty_eq : r.isEmpty = s.isEmpty
  cells : r.getD index [] = s.getD index [] ∨ k.RejectsAlike (r.getD index []) (s.getD index [])

theorem Twins.refl (k : Kind) (index : Nat) (r : Record) : Twins k index r r := ⟨rfl, .inl rfl⟩

/-- Records of one cell. -/
theorem twins_singleton {v w : Text} (h : k.RejectsAlike v w) : Twins k 0 [v] [w] := ⟨rfl, .inr h⟩

theorem Twins.rowFor_eq {index : Nat} {r s : Record} (h : Twins k index r s) (n : Nat) :
    rowFor k n (cellOf r index) = rowFor k n (cellOf s index) := by
  unfold cellOf
  rcases h.cells with hcell | halike
  · rw [hcell]
  · rw [rowFor, rowFor, if_neg (by simpa using halike.trim_ne_nil), if_neg (by simpa using halike.symm.trim_ne_nil),
      Kind.validateText_trim, Kind.validateText_trim, halike.validateText_eq]

/-- By induction on the records: what is written about one table is written about the other one. -/
theorem rowsFor_congr {index : Nat} {rs ss : List Record} (h : List.Forall₂ (Twins k index) rs ss) (n : Nat) :
    rowsFor k index n rs = rowsFor k index n ss := by
  induction h generalizing n with
  | nil => rfl
  | cons hrow hrest ih => rw [rowsFor, rowsFor, hrow.isEmpty_eq, hrow.rowFor_eq, ih n, ih (n + 1)]

theorem checkTable_congr {name column : Text} {header : Record} {fault : Option Fault} {index : Nat}
    {rs ss : List Record} (hindex : columnIndex? header column = some index)
    (h : List.Forall₂ (Twins k index) rs ss) :
    checkTable k name column ⟨header :: rs, fault⟩ = checkTable k name column ⟨header :: ss, fault⟩ := by
  simp only [checkTable, hindex, rowsFor_congr h]

theorem validateFile_congr {folder folder' : Folder} {path column kindName : Text} {header : Record}
    {fault : Option Fault} {index : Nat} {rs ss : List Record} (hk : kindOf? kindName = some k)
    (hr : tableAt? folder path = some ⟨header :: rs, fault⟩) (hs : tableAt? folder' path = some ⟨header :: ss, fault⟩)
    (hindex : columnIndex? header column = some index) (h : List.Forall₂ (Twins k index) rs ss) :
    validateFile folder path column kindName = validateFile folder' path column kindName := by
  rw [validateFile_of_tableAt? hk hr, validateFile_of_tableAt? hk hs, checkTable_congr hindex h]

end Sheet

/-- The issuer is told by the front and the length of a number. -/
theorem Issuer.Issues.congr {i : Issuer} {m n : Text} (h : i.Issues m) (hends : m.SameEnds n) (hn : Text.AllDigits n) :
    i.Issues n := by
  cases i with
  | visa =>
    obtain ⟨-, hlen, hhead⟩ := h
    refine ⟨hn, hends.length_eq ▸ hlen, ?_⟩
    have hfront := congrArg List.head? hends.take_eq
    simpa [List.head?_take, hhead] using hfront.symm
  | mastercard =>
    obtain ⟨-, hlen, hstart⟩ := h
    have hfront : m.take 2 = n.take 2 := by
      have htwo := congrArg (List.take 2) hends.take_eq
      simpa [List.take_take] using htwo
    exact ⟨hn, hends.length_eq ▸ hlen, hfront ▸ hstart⟩

namespace Card

theorem issuer_eq_of_sameEnds {v w : Text} {x y : Card} (hx : parse v = .ok x) (hy : parse w = .ok y)
    (h : x.number.SameEnds y.number) : x.issuer = y.issuer := by
  have hissues := (issues_of_issuerOf? (issuerOf?_of_parse hx)).congr h (isDigit_of_parse hy)
  exact Option.some.inj ((issuerOf?_of_issues hissues).symm.trans (issuerOf?_of_parse hy))

theorem eight_le_length_of_parse {v : Text} {x : Card} (h : parse v = .ok x) : 8 ≤ x.number.length := by
  have := (cardForm_of_parse h).least
  omega

theorem reply_of_parse {v : Text} {x : Card} (h : parse v = .ok x) : (Tool.validateCard (.text v)).reply =
    .ok (.quiet ("Kartennummer gueltig: " ++ x.issuer.name ++ ", " ++ Log.maskEnds x.number)) := by
  have hparse : Kind.card.parse v = .ok (.card x) := by rw [Kind.parse, h]; rfl
  have htext : Tool.replyTo .card ⟨Log.maskEnds x.number, [], none, some (.card x)⟩ =
      "Kartennummer gueltig: " ++ x.issuer.name ++ ", " ++ Log.maskEnds x.number := by
    simp [Tool.replyTo, Tool.describe, Tool.text, Text.joined]
  calc (Tool.validateCard (.text v)).reply
      _ = .ok ((Kind.card.validateText v).map (Tool.replyTo .card)) := Kind.card.reply_tool v
      _ = .ok (.quiet (Tool.replyTo .card ⟨Log.maskEnds x.number, [], none, some (.card x)⟩)) := by
        rw [Kind.validateText_of_ok hparse]
        rfl
      _ = _ := by rw [htext]

theorem reply_eq_of_sameEnds {v w : Text} {x y : Card} (hx : parse v = .ok x) (hy : parse w = .ok y)
    (h : x.number.SameEnds y.number) :
    (Tool.validateCard (.text v)).reply = (Tool.validateCard (.text w)).reply := by
  rw [reply_of_parse hx, reply_of_parse hy, issuer_eq_of_sameEnds hx hy h,
    Log.maskEnds_congr h (eight_le_length_of_parse hx)]

theorem debugText_eq_of_sameEnds {v w : Text} {x y : Card} (hx : parse v = .ok x) (hy : parse w = .ok y)
    (h : x.number.SameEnds y.number) : x.debugText = y.debugText := by
  unfold debugText
  rw [issuer_eq_of_sameEnds hx hy h, h.takeEnd_eq]

theorem parse_of_construct {v : Text} {x : Card} (h : Kind.card.construct (.text v) = .ok (.card x)) :
    parse v = .ok x := by
  obtain ⟨y, hy, hxy⟩ := map_eq_ok_iff.1 (Kind.construct_text_eq_ok_iff.1 h)
  rw [hy, Identifier.card.inj hxy]

end Card

/-- Texts that are rejected for one reason and show the same ends are reported on in the same words: in the report and in
its line in the log, in the reply of the tool, and in the rows of tables apart from their numbers. A run over a column
does not tell tables apart that differ in such cells only. The tool for cards, with its log, and the printed form of a
card do not tell valid numbers apart that have the same length and the same ends. -/
theorem middles_not_told :
    (∀ (k : Kind) (reason : Reason) (v w : Text), k.RejectsFor reason v → k.RejectsFor reason w →
      v.trim.SameEnds w.trim → 8 ≤ v.trim.length →
      (∃ report, k.validate (.text v) = .ok report ∧ k.validate (.text w) = .ok report ∧
        report.records.map Log.Record.maskedMessage = [.ok (k.reportLine reason v)]) ∧
      (∃ answer, (k.tool (.text v)).reply = .ok answer ∧ (k.tool (.text w)).reply = .ok answer) ∧
      ∀ a b, Sheet.RowFor k v a → Sheet.RowFor k w b → a = { b with number := a.number }) ∧
    (∀ (k : Kind) (folder folder' : Folder) (path column kindName : Text) (header : Sheet.Record)
      (rs ss : List Sheet.Record) (fault : Option Sheet.Fault) (index : Nat), Sheet.kindOf? kindName = some k →
      Sheet.tableAt? folder path = some ⟨header :: rs, fault⟩ →
      Sheet.tableAt? folder' path = some ⟨header :: ss, fault⟩ →
      Sheet.columnIndex? header column = some index → List.Forall₂ (Sheet.Twins k index) rs ss →
      Sheet.validateFile folder path column kindName = Sheet.validateFile folder' path column kindName ∧
        Tool.validateCsv folder path column kindName = Tool.validateCsv folder' path column kindName) ∧
    (∀ (v w : Text) (x y : Card), Kind.card.construct (.text v) = .ok (.card x) →
      Kind.card.construct (.text w) = .ok (.card y) → x.number.SameEnds y.number →
      (∃ answer, (Tool.validateCard (.text v)).reply = .ok answer ∧
        (Tool.validateCard (.text w)).reply = .ok answer) ∧ x.debugText = y.debugText) := by
  refine ⟨fun k reason v w hv hw hends hlen => ?_,
    fun k folder folder' path column kindName header rs ss fault index hk hr hs hindex h => ?_,
    fun v w x y hv hw hends => ?_⟩
  · have halike : k.RejectsAlike v w := ⟨⟨reason, hv, hw⟩, hends, hlen⟩
    refine ⟨⟨k.validateText v, rfl, ?_, hv.maskedMessage_eq⟩, ⟨_, k.reply_tool v, ?_⟩,
      fun a b => Sheet.RowFor.eq_renumbered halike⟩
    · rw [halike.validateText_eq]
      rfl
    · rw [halike.validateText_eq]
      exact k.reply_tool w
  · have hrun := Sheet.validateFile_congr hk hr hs hindex h
    exact ⟨hrun, by rw [Tool.validateCsv, Tool.validateCsv, hrun]⟩
  · have hx := Card.parse_of_construct hv
    have hy := Card.parse_of_construct hw
    have hreply := Card.reply_eq_of_sameEnds hx hy hends
    exact ⟨⟨_, Card.reply_of_parse hx, hreply ▸ Card.reply_of_parse hx⟩, Card.debugText_eq_of_sameEnds hx hy hends⟩

/-- Two codes of unknown countries in a table, and the same table with one of them in both places. Two card numbers that
differ in two digits of the middle. -/
theorem middles_not_told_bic :
    let path : Text := "codes.csv"
    let folder : Folder := .ofFiles [([path], "BIC\nPSSTZZPPXXX\nPSSTQQPPXXX\n".toUTF8)]
    let folder' : Folder := .ofFiles [([path], "BIC\nPSSTZZPPXXX\nPSSTZZPPXXX\n".toUTF8)]
    let row (n : Nat) : Sheet.Row := ⟨n, "PSST***PXXX", false, "Unbekannter Laendercode.", []⟩
    (∃ report, Kind.bic.validate (.text "PSSTZZPPXXX") = .ok report ∧
        Kind.bic.validate (.text "PSSTQQPPXXX") = .ok report ∧
        report.records.map Log.Record.maskedMessage = [.ok "BIC ungueltig (unknown_country): PSST***PXXX"]) ∧
      Sheet.RowFor .bic "PSSTZZPPXXX" (row 2) ∧ Sheet.RowFor .bic "PSSTQQPPXXX" (row 3) ∧
      row 2 = { row 3 with number := (row 2).number } ∧
      Tool.validateCsv folder path "bic" "bic" = Tool.validateCsv folder' path "bic" "bic" ∧
      (∃ answer, (Tool.validateCard (.text "4111111111111111")).reply = .ok answer ∧
        (Tool.validateCard (.text "4111 2101 1111 1111")).reply = .ok answer) := by
  intro path folder folder' row
  have hv : Kind.bic.RejectsFor .unknownCountry "PSSTZZPPXXX" :=
    ⟨⟨.bic, "PSSTZZPPXXX", .unknownCountry⟩, by decide +kernel, rfl⟩
  have hw : Kind.bic.RejectsFor .unknownCountry "PSSTQQPPXXX" :=
    ⟨⟨.bic, "PSSTQQPPXXX", .unknownCountry⟩, by decide +kernel, rfl⟩
  have hends : (Text.trim "PSSTZZPPXXX").SameEnds (Text.trim "PSSTQQPPXXX") := by decide +kernel
  have hlen : 8 ≤ (Text.trim "PSSTZZPPXXX").length := by decide +kernel
  have htable : Sheet.tableAt? folder path =
      some ⟨["BIC".toList] :: [["PSSTZZPPXXX".toList], ["PSSTQQPPXXX".toList]], none⟩ := by
    decide +kernel
  have htable' : Sheet.tableAt? folder' path =
      some ⟨["BIC".toList] :: [["PSSTZZPPXXX".toList], ["PSSTZZPPXXX".toList]], none⟩ := by
    decide +kernel
  have hindex : Sheet.columnIndex? ["BIC".toList] "bic" = some 0 := by decide +kernel
  have hbatch : (Sheet.validateFile folder path "bic" "bic").value = .ok ⟨[], [row 2, row 3]⟩ := by decide +kernel
  have hrow : Sheet.RowFor .bic "PSSTZZPPXXX" (row 2) :=
    .intro (r := ["PSSTZZPPXXX".toList]) rfl htable rfl hindex hbatch (by decide +kernel)
  have hrow' : Sheet.RowFor .bic "PSSTQQPPXXX" (row 3) :=
    .intro (r := ["PSSTQQPPXXX".toList]) rfl htable rfl hindex hbatch (by decide +kernel)
  obtain ⟨hreject, hrun, hcard⟩ := middles_not_told
  obtain ⟨hreport, -, hrows⟩ := hreject .bic .unknownCountry _ _ hv hw hends hlen
  have hline : Kind.bic.reportLine .unknownCountry "PSSTZZPPXXX" = "BIC ungueltig (unknown_country): PSST***PXXX" := by
    decide +kernel
  rw [hline] at hreport
  have halike : Kind.bic.RejectsAlike "PSSTZZPPXXX" "PSSTQQPPXXX" := ⟨⟨_, hv, hw⟩, hends, hlen⟩
  have htwins : List.Forall₂ (Sheet.Twins .bic 0) [["PSSTZZPPXXX".toList], ["PSSTQQPPXXX".toList]]
      [["PSSTZZPPXXX".toList], ["PSSTZZPPXXX".toList]] :=
    .cons (.refl _ _ _) (.cons (Sheet.twins_singleton halike.symm) .nil)
  have hnumber := hrows (row 2) (row 3) hrow hrow'
  have hsame := hrun .bic folder folder' path "bic" "bic" ["BIC".toList] _ _ none 0 rfl htable htable' hindex htwins
  have hanswer := hcard "4111111111111111" "4111 2101 1111 1111" ⟨"4111111111111111", .visa⟩
    ⟨"4111210111111111", .visa⟩ (by decide +kernel) (by decide +kernel) (by decide +kernel)
  exact ⟨hreport, hrow, hrow', hnumber, hsame.2, hanswer.1⟩

end PaymentIdentifiers
