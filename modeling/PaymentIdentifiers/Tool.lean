import PaymentIdentifiers.Sheet.Batch

/-!
# Tools for an assistant

Eight tools answer with a German text for the user. What the user gave is shown masked unless it is valid, and a
tool that builds an identifier answers with the reason when it cannot.
-/
namespace PaymentIdentifiers

inductive Tool where
  | validateIban (iban : Datum)
  | buildIban (country : CountryArgument) (bban : Datum)
  | validateBic (bic : Datum)
  | validateCreditorId (creditorId : Datum)
  | buildCreditorId (country : CountryArgument) (nationalId businessCode : Datum)
  | validateCard (number : Datum)
  | bbanFormat (country : Datum)

namespace Tool

abbrev Lines := List Text

def text (ls : Lines) : Text := Text.joined "\n" ls

/-- A label with its colon, filled up to a common width, and its value. -/
def labelled (label value : Text) : Text :=
  let t := label ++ ":"
  "  " ++ t ++ List.replicate (15 - t.length) ' ' ++ " " ++ value

def fieldLabel : Bban.Field → Text
  | .bank => "Bankkennung"
  | .branch => "Filiale"
  | .nationalCheck => "Nat. Pruefz."
  | .account => "Kontonummer"

def describeIban (x : Iban) : Lines :=
  ["IBAN gueltig: " ++ x.printable, labelled "Land" x.countryCode, labelled "Pruefziffer" x.checkDigits,
    labelled "BBAN" x.bban] ++
    Bban.Field.all.filterMap fun f => (x.field? f).map (labelled (fieldLabel f))

def describeBic (x : Bic) : Lines :=
  let mode : Text := if x.isTest then "Test-BIC" else "Live-BIC"
  let office : Text := if x.isPrimaryOffice then "Hauptstelle" else "Filiale"
  ["BIC gueltig: " ++ x.text ++ "  (" ++ mode ++ ", " ++ office ++ ")", "  Institut:  " ++ x.institution,
    "  Land:      " ++ x.countryCode, "  Ort:       " ++ x.location, "  Filiale:   " ++ x.branch]

def describeCreditorId (x : CreditorIdentifier) : Lines :=
  ["Glaeubiger-ID gueltig: " ++ x.text, "  Land:               " ++ x.countryCode,
    "  Pruefziffer:        " ++ x.checkDigits, "  Geschaeftsbereich:  " ++ x.businessCode,
    "  Nationale Kennung:  " ++ x.nationalId]

/-- The lines about a valid identifier. -/
def describe (masked : Text) : Identifier → Lines
  | .iban x => describeIban x
  | .bic x => describeBic x
  | .creditorIdentifier x => describeCreditorId x
  | .card x => ["Kartennummer gueltig: " ++ x.issuer.name ++ ", " ++ masked]

/-- The reply about a report. -/
def replyTo (k : Kind) (r : Report) : Text :=
  match r.identifier with
  | some x => text (describe r.masked x)
  | none => k.title ++ " ungueltig (" ++ r.masked ++ "): " ++ r.error

def validate (k : Kind) (d : Datum) : Except ArgumentError (Log.Logged Text) :=
  (k.validate d).map fun r => r.map (replyTo k)

/-- The reply of a builder that got no identifier; the reason goes to the log as well. -/
def cannotBuild (k : Kind) (reason : Text) : Log.Logged Text :=
  ⟨k.title ++ " konnte nicht gebaut werden: " ++ reason,
    [⟨.debug, Kind.reportChannel, k.title ++ "-Aufbau fehlgeschlagen: %s", .positional [.text reason]⟩]⟩

def buildIbanReply (country : CountryArgument) (bban : Datum) : Log.Logged Text :=
  match Iban.ofArguments country bban with
  | .ok x => .quiet (text (describeIban x))
  | .error e => cannotBuild .iban e.message

def buildCreditorIdReply (country : CountryArgument) (nationalId businessCode : Datum) : Log.Logged Text :=
  match CreditorIdentifier.ofArguments country businessCode nationalId with
  | .ok x => .quiet ("Glaeubiger-ID: " ++ x.text)
  | .error e => cannotBuild .creditorIdentifier e.message

/-- The format of the account numbers of a country. -/
def formatReply (country : Text) : Text :=
  let code := country.trim.asciiUpper
  match Bban.layoutOf code with
  | none => code ++ ": keine IBAN-Struktur bekannt."
  | some l =>
    text ((code ++ ": BBAN " ++ l.pattern.expression ++ "  |  IBAN-Laenge " ++ Text.ofNat l.ibanLength) ::
      if l.country = code then [] else ["  verwendet die Struktur von " ++ l.country])

/-- The reply of a tool with the log records written on the way. -/
def reply : Tool → Except ArgumentError (Log.Logged Text)
  | validateIban d => validate .iban d
  | buildIban c b => .ok (buildIbanReply c b)
  | validateBic d => validate .bic d
  | validateCreditorId d => validate .creditorIdentifier d
  | buildCreditorId c n b => .ok (buildCreditorIdReply c n b)
  | validateCard d => validate .card d
  | bbanFormat (.text t) => .ok (.quiet (formatReply t))
  | bbanFormat d => .error (.lacks d.kindName "strip")

/-- The line about a row that is not valid. -/
def rowLine (r : Sheet.Row) : Text :=
  "  Zeile " ++ Text.ofNat r.number ++ ": " ++ (if r.masked.isEmpty then ['-'] else r.masked) ++ "  " ++ r.error

/-- The reply about a run over a column. -/
def batchReply (b : Sheet.Batch) : Text :=
  if b.problems.isEmpty then
    text ((Text.ofNat b.validCount ++ " gueltig, " ++ Text.ofNat b.invalidCount ++ " ungueltig.") ::
      (b.rows.filter fun r => !r.valid).map rowLine)
  else "CSV-Fehler:\n" ++ text (b.problems.map fun p => "  " ++ p.message)

/-- The tool for a column of a file. -/
def validateCsv (folder : Folder) (path column kindName : Text) : Log.Logged (Except Sheet.Failure Text) :=
  (Sheet.validateFile folder path column kindName).map fun r => r.map batchReply

/-- The tool for a column of a file, with arguments of any kind. -/
def validateCsvArguments (folder : Folder) (path column kind : Datum) : Log.Logged (Except Sheet.Failure Text) :=
  (Sheet.validateArguments folder path column kind).map fun r => r.map batchReply

/-- The arguments that a tool needs, and those that it takes as well. -/
structure Signature where
  needed : List Text
  optional : List Text

/-- The arguments of the tool with a name. -/
def signature? (name : Text) : Option Signature :=
  match String.ofList name with
  | "validate_iban" => some ⟨["iban"], []⟩
  | "build_iban" => some ⟨["country", "bban"], []⟩
  | "validate_bic" => some ⟨["bic"], []⟩
  | "validate_creditor_id" => some ⟨["creditor_id"], []⟩
  | "build_creditor_id" => some ⟨["country", "national_id"], ["business_code"]⟩
  | "validate_card" => some ⟨["number"], []⟩
  | "bban_format" => some ⟨["country"], []⟩
  | "validate_csv" => some ⟨["csv_path"], ["column", "kind"]⟩
  | _ => none

/-- Why a tool cannot be called with arguments of some names. -/
inductive CallError where
  | unexpected (tool argument : Text)
  | missing (tool : Text) (arguments : List Text)
deriving DecidableEq, Repr

def CallError.message : CallError → Text
  | unexpected tool a =>
    "register_tools.<locals>.identifiers_" ++ tool ++ "() got an unexpected keyword argument " ++ a.quoted
  | missing tool names =>
    "register_tools.<locals>.identifiers_" ++ tool ++ "() missing " ++ Text.ofNat names.length ++
      " required positional argument" ++ (if names.length = 1 then [] else ['s']) ++ ": " ++
      Text.joined " and " (names.map Text.quoted)

/-- The first argument that is not known, or else all that are missing. -/
def callError? (tool : Text) (names : List Text) : Option CallError :=
  match signature? tool with
  | none => none
  | some s =>
    match names.find? fun n => !(s.needed ++ s.optional).contains n with
    | some n => some (.unexpected tool n)
    | none =>
      let missing := s.needed.filter fun n => !names.contains n
      if missing.isEmpty then none else some (.missing tool missing)

end Tool
end PaymentIdentifiers
