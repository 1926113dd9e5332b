import PaymentIdentifiers.Identifier

/-!
# Validation reports

The report on one value for users: whether it is valid, the value with its middle masked, and a German text for
the defect. A rejection is also written to the log, again with the masked value only.
-/
namespace PaymentIdentifiers

/-- Why a value is not valid. -/
inductive Defect where
  | absent
  | rejected (r : Reason)
deriving DecidableEq, Repr

def Defect.name : Defect → Text
  | absent => "missing"
  | rejected r => r.name

def Reason.germanText : Reason → Text
  | notWellFormed => "Format ungueltig."
  | unknownCountry => "Unbekannter Laendercode."
  | unsupportedCountry => "Land wird fuer diesen Identifikator nicht unterstuetzt."
  | invalidStructure => "Struktur passt nicht zum Land."
  | incorrectCheckDigit => "Pruefziffer ungueltig."

/-- The name of a kind in reports. -/
def Kind.title : Kind → Text
  | iban => "IBAN"
  | bic => "BIC"
  | creditorIdentifier => "Glaeubiger-ID"
  | card => "Kartennummer"

structure Report where
  masked : Text
  /-- The German text of the defect, empty for a valid value. -/
  error : Text
  defect : Option Defect
  identifier : Option Identifier
deriving DecidableEq, Repr

def Report.valid (r : Report) : Bool := r.identifier.isSome

namespace Kind

/-- The channel of the reports. -/
def reportChannel : Text := "bankident"

/-- The report on a value that is present. -/
def validateText (k : Kind) (raw : Text) : Log.Logged Report :=
  match k.parse raw with
  | .ok x => .quiet ⟨Log.maskEnds x.text, [], none, some x⟩
  | .error r =>
    let masked := Log.maskEnds raw.trim
    ⟨⟨masked, r.reason.germanText, some (.rejected r.reason), none⟩,
      [⟨.debug, reportChannel, "%s ungueltig (%s): %s",
        .positional [.text k.title, .text r.reason.name, .text masked]⟩]⟩

/-- The report on a missing value. -/
def absentReport (k : Kind) : Report := ⟨[], k.title ++ " fehlt.", some .absent, none⟩

/-- The report on an argument of any kind; one that is neither missing nor a text is an error. -/
def validate (k : Kind) : Datum → Except ArgumentError (Log.Logged Report)
  | .missing => .ok (.quiet k.absentReport)
  | .text t => .ok (k.validateText t)
  | d => .error (.notText k.argument d.kindName)

end Kind
end PaymentIdentifiers
