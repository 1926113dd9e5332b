import PaymentIdentifiers.Proofs.Log.Sentence
import PaymentIdentifiers.Tool

/-!
# What the log never shows

Every message that is written to the log is a row of fixed words and values that stand apart, so the mask leaves no word
with the form of an account number or of a card number. The numbers in a message stay as they are: they count the rows
of a table, and it takes a table of a trillion records to make them look like a card number.
-/
namespace PaymentIdentifiers

namespace Log

theorem discreet_quiet {α : Type} (a : α) : ∀ r ∈ (Logged.quiet a).records, r.Discreet := by
  simp [Logged.quiet]

/-- Fixed words that any text can follow. -/
structure Leads (words : Text) : Prop where
  clean : Clean words
  noPercent : '%' ∉ words
  closesFree : (Stretch.fixed words).closesFree = true

section
variable {words : Text} (hwords : Leads words)
include hwords

theorem Leads.sound (t : Text) : ∀ s ∈ [Stretch.fixed words, Stretch.text t], s.Sound := by
  simp [Stretch.Sound, hwords.clean, hwords.noPercent]

theorem Leads.spaced (t : Text) : Stretch.spaced [.fixed words, .text t] = true := by
  simp [Stretch.spaced, hwords.closesFree]

end

/-- A message of fixed words with one text behind them. -/
structure Record.Tells (r : Record) (words t : Text) : Prop where
  leads : Leads words
  template : r.template = words ++ "%s"
  arguments : r.arguments = .positional [.text t]

section
variable {r : Record} {words t : Text} (h : r.Tells words t)
include h

theorem Record.Tells.spells : r.Spells [.fixed words, .text t] where
  template := by simpa [Stretch.template] using h.template
  arguments := h.arguments

theorem Record.Tells.maskedMessage_eq : r.maskedMessage = .ok (words ++ maskText t) := by
  rw [maskedMessage_of_spells _ h.spells (Stretch.worded_of_sound (h.leads.sound t)) (h.leads.spaced t)]
  simp [Stretch.masked, Stretch.written]

theorem Record.Tells.discreet : r.Discreet := discreet_of_spells _ h.spells (h.leads.sound t) (h.leads.spaced t)

end

end Log

namespace Kind

/-- The words of a test in front of the reason. -/
def rejectionWords (k : Kind) : Text := k.rejectionTemplate.dropLast.dropLast

theorem leads_rejectionWords (k : Kind) : Log.Leads k.rejectionWords := by
  constructor <;> cases k <;> decide +kernel

theorem rejectionTemplate_eq (k : Kind) : k.rejectionTemplate = k.rejectionWords ++ "%s" := by
  cases k <;> decide +kernel

theorem discreet_isValid (k : Kind) (d : Datum) : ∀ r ∈ (k.isValid d).records, r.Discreet := by
  unfold isValid
  split
  · exact Log.discreet_quiet _
  · exact Log.discreet_quiet _
  · intro r hr
    obtain rfl := List.mem_singleton.1 hr
    exact Log.Record.Tells.discreet ⟨k.leads_rejectionWords, k.rejectionTemplate_eq, rfl⟩

/-- The record about a rejected value. -/
def reportRecord (k : Kind) (reason : Reason) (masked : Text) : Log.Record :=
  ⟨.debug, reportChannel, "%s ungueltig (%s): %s", .positional [.text k.title, .text reason.name, .text masked]⟩

/-- The words and values of its message. -/
def reportStretches (k : Kind) (reason : Reason) (masked : Text) : List Log.Stretch :=
  [.text k.title, .fixed " ungueltig (", .text reason.name, .fixed "): ", .text masked]

theorem spells_reportRecord (k : Kind) (reason : Reason) (masked : Text) :
    (k.reportRecord reason masked).Spells (k.reportStretches reason masked) where
  template := by
    simp only [reportRecord, reportStretches, List.flatMap_cons, List.flatMap_nil, Log.Stretch.template]
    decide +kernel
  arguments := rfl

theorem sound_reportStretches (k : Kind) (reason : Reason) (masked : Text) :
    ∀ s ∈ k.reportStretches reason masked, s.Sound := by
  simp only [reportStretches, List.forall_mem_cons, Log.Stretch.Sound, true_and, List.not_mem_nil, false_imp_iff,
    implies_true, and_true]
  decide +kernel

theorem discreet_validateText (k : Kind) (t : Text) : ∀ r ∈ (k.validateText t).records, r.Discreet := by
  unfold validateText
  split
  · exact Log.discreet_quiet _
  · intro r hr
    obtain rfl := List.mem_singleton.1 hr
    exact Log.Record.discreet_of_spells _ (spells_reportRecord k _ _) (sound_reportStretches k _ _) rfl

theorem discreet_validate {k : Kind} {d : Datum} {logged : Log.Logged Report} (h : k.validate d = .ok logged) :
    ∀ r ∈ logged.records, r.Discreet := by
  cases d with
  | missing =>
    rw [← Except.ok.inj h]
    exact Log.discreet_quiet _
  | text t =>
    rw [← Except.ok.inj h]
    exact discreet_validateText k t
  | truth b => cases h
  | whole n => cases h
  | real x => cases h
  | list ds => cases h
  | record fs => cases h

end Kind

namespace Tool

/-- The words of a builder in front of its reason. -/
def buildWords (k : Kind) : Text := k.title ++ "-Aufbau fehlgeschlagen: "

theorem leads_buildWords (k : Kind) : Log.Leads (buildWords k) := by
  constructor <;> cases k <;> decide +kernel

theorem template_cannotBuild (k : Kind) : k.title ++ "-Aufbau fehlgeschlagen: %s" = buildWords k ++ "%s" := by
  cases k <;> decide +kernel

theorem tells_of_mem_cannotBuild {k : Kind} {reason : Text} {r : Log.Record} (h : r ∈ (cannotBuild k reason).records) :
    r.Tells (buildWords k) reason := by
  obtain rfl := List.mem_singleton.1 h
  exact ⟨leads_buildWords k, template_cannotBuild k, rfl⟩

theorem discreet_validate {k : Kind} {d : Datum} {logged : Log.Logged Text} (h : validate k d = .ok logged) :
    ∀ r ∈ logged.records, r.Discreet := by
  unfold validate at h
  cases hreport : k.validate d with
  | error e => simp [hreport, Except.map] at h
  | ok report =>
    simp only [hreport, Except.map, Except.ok.injEq] at h
    rw [← h]
    exact Kind.discreet_validate hreport

theorem discreet_buildIbanReply (country : CountryArgument) (bban : Datum) :
    ∀ r ∈ (buildIbanReply country bban).records, r.Discreet := by
  unfold buildIbanReply
  split
  · exact Log.discreet_quiet _
  · exact fun r hr => (tells_of_mem_cannotBuild hr).discreet

theorem discreet_buildCreditorIdReply (country : CountryArgument) (nationalId businessCode : Datum) :
    ∀ r ∈ (buildCreditorIdReply country nationalId businessCode).records, r.Discreet := by
  unfold buildCreditorIdReply
  split
  · exact Log.discreet_quiet _
  · exact fun r hr => (tells_of_mem_cannotBuild hr).discreet

theorem discreet_reply {tool : Tool} {logged : Log.Logged Text} (h : tool.reply = .ok logged) :
    ∀ r ∈ logged.records, r.Discreet := by
  cases tool with
  | validateIban d => exact discreet_validate h
  | buildIban c b =>
    rw [← Except.ok.inj h]
    exact discreet_buildIbanReply c b
  | validateBic d => exact discreet_validate h
  | validateCreditorId d => exact discreet_validate h
  | buildCreditorId c n b =>
    rw [← Except.ok.inj h]
    exact discreet_buildCreditorIdReply c n b
  | validateCard d => exact discreet_validate h
  | bbanFormat d =>
    cases d with
    | text t =>
      rw [← Except.ok.inj h]
      exact Log.discreet_quiet _
    | missing => cases h
    | truth b => cases h
    | whole n => cases h
    | real x => cases h
    | list ds => cases h
    | record fs => cases h

end Tool

namespace Sheet

/-- The records behind the header of a table that are not empty. -/
def dataRecords (table : Reading) : List Record := table.records.tail.filter fun r => !r.isEmpty

theorem discreet_rowFor (k : Kind) (n : Nat) (cell : Text) : ∀ r ∈ (rowFor k n cell).records, r.Discreet := by
  unfold rowFor
  split
  · exact Log.discreet_quiet _
  · exact k.discreet_validateText cell

theorem discreet_rowsFor (k : Kind) (index n : Nat) (rs : List Record) :
    ∀ r ∈ (rowsFor k index n rs).records, r.Discreet :=
  forall_mem_records_rowsFor k index n rs (discreet_rowFor k)

/-- The words and values of the closing message. -/
def summaryStretches (name : Text) (b : Batch) : List Log.Stretch :=
  [.fixed "CSV validiert: ", .text name, .fixed " | ", .count b.validCount, .fixed " gueltig | ", .count b.invalidCount,
    .fixed " ungueltig"]

theorem spells_summary (name : Text) (b : Batch) : (summary name b).Spells (summaryStretches name b) where
  template := by
    simp only [summaryStretches, List.flatMap_cons, List.flatMap_nil, Log.Stretch.template, summary]
    decide +kernel
  arguments := rfl

theorem worded_summaryStretches (name : Text) (b : Batch) : Log.Stretch.Worded (summaryStretches name b) := by
  simp only [Log.Stretch.Worded, summaryStretches, List.mem_cons, List.not_mem_nil, or_false]
  rintro t (h | h | h | h | h | h | h) <;> cases h <;> decide +kernel

/-- Counts below a trillion are too short for a card number. -/
theorem discreet_summary (name : Text) {b : Batch} (h : b.rows.length < 10 ^ 12) : (summary name b).Discreet := by
  have hvalid : b.validCount ≤ b.rows.length := List.countP_le_length
  have hinvalid : b.invalidCount ≤ b.rows.length := Nat.sub_le _ _
  refine Log.Record.discreet_of_spells _ (spells_summary name b) (fun s hs => ?_) rfl
  cases s with
  | fixed t => exact worded_summaryStretches name b t hs
  | text t => exact trivial
  | count n =>
    have hn : n = b.validCount ∨ n = b.invalidCount := by simpa [summaryStretches] using hs
    change n < 10 ^ 12
    omega

theorem discreet_checkTable (k : Kind) (name column : Text) {table : Reading}
    (h : (dataRecords table).length < 10 ^ 12) : ∀ r ∈ (checkTable k name column table).records, r.Discreet := by
  unfold checkTable
  split
  · split <;> exact Log.discreet_quiet _
  · rename_i header records heq
    split
    · exact Log.discreet_quiet _
    · rename_i index _
      split
      · exact discreet_rowsFor k index 2 records
      · intro r hr
        rcases List.mem_append.1 hr with hr | hr
        · exact discreet_rowsFor k index 2 records r hr
        · obtain rfl := List.mem_singleton.1 hr
          apply discreet_summary
          rw [dataRecords, heq] at h
          rw [length_rowsFor]
          exact h

/-- The table in the file that a path leads to, if it is read. -/
def tableAt? (folder : Folder) (path : Text) : Option Reading :=
  match folder.read? (.ofText path) with
  | some (.ok content) => some (tableOf content)
  | _ => none

theorem discreet_validateFile {folder : Folder} {path : Text}
    (h : ∀ table ∈ tableAt? folder path, (dataRecords table).length < 10 ^ 12) (column kindName : Text) :
    ∀ r ∈ (validateFile folder path column kindName).records, r.Discreet := by
  fun_cases validateFile folder path column kindName with
  | case1 => exact Log.discreet_quiet _
  | case2 => exact Log.discreet_quiet _
  | case3 => exact Log.discreet_quiet _
  | case4 k _ p content hbytes => exact discreet_checkTable _ _ _ (h _ (by simp [tableAt?, p, hbytes]))

/-- With three texts, the arguments are what the check of a file asks for. -/
theorem validateArguments_text (folder : Folder) (path column kindName : Text) :
    validateArguments folder (.text path) (.text column) (.text kindName) =
      validateFile folder path column kindName := by
  cases hk : kindOf? kindName with
  | none => simp [validateArguments, validateFile, hk]
  | some k =>
    rcases hread : folder.read? (.ofText path) with _ | e | content
    · simp [validateArguments, validateFile, hk, hread]
    · simp [validateArguments, validateFile, hk, hread]
    · simp [validateArguments, validateFile, checkColumn, hk, hread]

end Sheet

namespace Log

/-- Whatever the arguments are, no message of a test, a report or a tool shows a word with the form of an account number
or of a card number. For the tool that reads a table, this holds below a trillion records. -/
theorem records_discreet :
    (∀ (k : Kind) (d : Datum), ∀ r ∈ (k.isValid d).records, r.Discreet) ∧
    (∀ (k : Kind) (d : Datum) (logged : Logged Report), k.validate d = .ok logged → ∀ r ∈ logged.records, r.Discreet) ∧
    (∀ (tool : Tool) (logged : Logged Text), tool.reply = .ok logged → ∀ r ∈ logged.records, r.Discreet) ∧
    (∀ (folder : Folder) (path column kindName : Text),
      (∀ table ∈ Sheet.tableAt? folder path, (Sheet.dataRecords table).length < 10 ^ 12) →
      ∀ r ∈ (Tool.validateCsvArguments folder (.text path) (.text column) (.text kindName)).records, r.Discreet) := by
  refine ⟨Kind.discreet_isValid, fun k d logged => Kind.discreet_validate, fun tool logged => Tool.discreet_reply,
    fun folder path column kindName h => ?_⟩
  rw [Tool.validateCsvArguments, Sheet.validateArguments_text]
  exact Sheet.discreet_validateFile h column kindName

/-- A table of two account numbers, of which one has a space in it, in a file that is named like one. -/
theorem records_discreet_table :
    let path : Text := "DE89370400440532013000.csv"
    let folder : Folder := .ofFiles [([path], "iban\nZZ89 370400440532013000\nZZ89370400440532013000\n".toUTF8)]
    let records := (Tool.validateCsvArguments folder (.text path) (.text "IBAN") (.text "iban")).records
    records.map (fun r => r.maskedMessage.toOption) =
      [some "IBAN ungueltig (unknown_country): ZZ89***************3000".toList,
        some "IBAN ungueltig (unknown_country): ZZ89**************3000".toList,
        some "CSV validiert: DE89**************3000.csv | 0 gueltig | 2 ungueltig".toList] ∧
      ∀ r ∈ records, r.Discreet := by
  intro path folder records
  have hlength : (Sheet.tableAt? folder path).map (fun t => (Sheet.dataRecords t).length) = some 2 := by
    decide +kernel
  have hcount : ∀ table ∈ Sheet.tableAt? folder path, (Sheet.dataRecords table).length < 10 ^ 12 := by
    intro table htable
    rw [Option.mem_def.1 htable, Option.map_some, Option.some.injEq] at hlength
    omega
  exact ⟨by decide +kernel, records_discreet.2.2.2 folder path "IBAN" "iban" hcount⟩

end Log

end PaymentIdentifiers
