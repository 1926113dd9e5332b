import PaymentIdentifiers.Text.Basic
import PaymentIdentifiers.Datum

/-!
# Countries

The ISO 3166 table of two-letter codes. A `Country` is an entry of the table; a `CountryRef` names one either by
the entry itself or by a code, which is trimmed and upper-cased but not looked up.
-/
namespace PaymentIdentifiers

namespace Country

/-- The codes of the table in ascending order. -/
def codes : List Text := List.map String.toList
  ["AD", "AE", "AF", "AG", "AI", "AL", "AM", "AO", "AQ", "AR", "AS", "AT", "AU", "AW", "AX", "AZ",
   "BA", "BB", "BD", "BE", "BF", "BG", "BH", "BI", "BJ", "BL", "BM", "BN", "BO", "BQ", "BR", "BS",
   "BT", "BV", "BW", "BY", "BZ", "CA", "CC", "CD", "CF", "CG", "CH", "CI", "CK", "CL", "CM", "CN",
   "CO", "CR", "CU", "CV", "CW", "CX", "CY", "CZ", "DE", "DJ", "DK", "DM", "DO", "DZ", "EC", "EE",
   "EG", "EH", "ER", "ES", "ET", "FI", "FJ", "FK", "FM", "FO", "FR", "GA", "GB", "GD", "GE", "GF",
   "GG", "GH", "GI", "GL", "GM", "GN", "GP", "GQ", "GR", "GS", "GT", "GU", "GW", "GY", "HK", "HM",
   "HN", "HR", "HT", "HU", "ID", "IE", "IL", "IM", "IN", "IO", "IQ", "IR", "IS", "IT", "JE", "JM",
   "JO", "JP", "KE", "KG", "KH", "KI", "KM", "KN", "KP", "KR", "KW", "KY", "KZ", "LA", "LB", "LC",
   "LI", "LK", "LR", "LS", "LT", "LU", "LV", "LY", "MA", "MC", "MD", "ME", "MF", "MG", "MH", "MK",
   "ML", "MM", "MN", "MO", "MP", "MQ", "MR", "MS", "MT", "MU", "MV", "MW", "MX", "MY", "MZ", "NA",
   "NC", "NE", "NF", "NG", "NI", "NL", "NO", "NP", "NR", "NU", "NZ", "OM", "PA", "PE", "PF", "PG",
   "PH", "PK", "PL", "PM", "PN", "PR", "PS", "PT", "PW", "PY", "QA", "RE", "RO", "RS", "RU", "RW",
   "SA", "SB", "SC", "SD", "SE", "SG", "SH", "SI", "SJ", "SK", "SL", "SM", "SN", "SO", "SR", "SS",
   "ST", "SV", "SX", "SY", "SZ", "TC", "TD", "TF", "TG", "TH", "TJ", "TK", "TL", "TM", "TN", "TO",
   "TR", "TT", "TV", "TW", "TZ", "UA", "UG", "UM", "US", "UY", "UZ", "VA", "VC", "VE", "VG", "VI",
   "VN", "VU", "WF", "WS", "XK", "YE", "YT", "ZA", "ZM", "ZW"]

end Country

structure Country where
  alpha2 : Text
  listed : alpha2 ∈ Country.codes
deriving DecidableEq

namespace Country

/-- The entry with exactly this code. -/
def find? (code : Text) : Option Country :=
  if h : code ∈ codes then some ⟨code, h⟩ else none

/-- The entry with this code in either case. -/
def ofAlpha2? (code : Text) : Option Country := find? code.asciiUpper

theorem length_of_mem_codes {code : Text} (h : code ∈ codes) : code.length = 2 := by
  have hall : codes.all (fun c => c.length == 2) = true := by decide +kernel
  simpa using List.all_eq_true.1 hall code h

theorem ofAlpha2?_isSome {code : Text} : (ofAlpha2? code).isSome ↔ code.asciiUpper ∈ codes := by
  simp only [ofAlpha2?, find?]
  split <;> simp_all

end Country

inductive CountryRef where
  | country (c : Country)
  | code (t : Text)
deriving DecidableEq

/-- The upper-case code that is meant, whether or not the table has it. -/
def CountryRef.alpha2 : CountryRef → Text
  | country c => c.alpha2
  | code t => t.trim.asciiUpper

/-- What may be passed where a country is expected. -/
inductive CountryArgument where
  | country (c : Country)
  | datum (d : Datum)

namespace CountryArgument

def ref : CountryArgument → Except ArgumentError CountryRef
  | country c => .ok (.country c)
  | datum (.text t) => .ok (.code t)
  | datum d => .error (.notCountry d.kindName)

/-- Reports a missing country before anything else is looked at. -/
def isMissing : CountryArgument → Bool
  | country _ => false
  | datum d => d.isMissing

/-- The table entry for a two-letter code; no entry is found for a value of any other kind. -/
def entry? : CountryArgument → Option Country
  | datum (.text t) => Country.ofAlpha2? t
  | _ => none

end CountryArgument
end PaymentIdentifiers
