import PaymentIdentifiers.Country

/-!
# International agreements

The country sets that payment rules refer to.
-/
namespace PaymentIdentifiers

inductive Agreement where
  | europeanEconomicArea
  | europeanFreeTradeAssociation
  | europeanUnion
  | sepaComPacifique
  | singleEuroPaymentsArea
deriving DecidableEq, Repr

namespace Agreement

def name : Agreement → Text
  | europeanEconomicArea => "EUROPEAN_ECONOMIC_AREA"
  | europeanFreeTradeAssociation => "EUROPEAN_FREE_TRADE_ASSOCIATION"
  | europeanUnion => "EUROPEAN_UNION"
  | sepaComPacifique => "SEPA_COM_PACIFIQUE"
  | singleEuroPaymentsArea => "SINGLE_EURO_PAYMENTS_AREA"

def all : List Agreement :=
  [europeanEconomicArea, europeanFreeTradeAssociation, europeanUnion, sepaComPacifique, singleEuroPaymentsArea]

def ofName? (t : Text) : Option Agreement := all.find? fun a => a.name == t

def unionMembers : List String :=
  ["AT", "BE", "BG", "HR", "CY", "CZ", "DK", "EE", "FI", "FR", "DE", "GR", "HU", "IE",
   "IT", "LV", "LT", "LU", "MT", "NL", "PL", "PT", "RO", "SK", "SI", "ES", "SE"]

/-- The members by upper-case code, in the order of the agreements' lists. -/
def memberCodes : Agreement → List String
  | europeanEconomicArea => unionMembers ++ ["IS", "LI", "NO"]
  | europeanFreeTradeAssociation => ["IS", "LI", "NO", "CH"]
  | europeanUnion => unionMembers
  | sepaComPacifique => ["PF", "NC", "WF"]
  | singleEuroPaymentsArea =>
    unionMembers ++ ["IS", "LI", "NO", "AD", "MC", "SM", "CH", "GB", "VA", "AX",
      "GF", "GP", "MQ", "YT", "RE", "BL", "MF", "PM", "GI", "GG", "JE", "IM"]

def members (a : Agreement) : List Text := a.memberCodes.map String.toList

def participants (a : Agreement) : List Text := Text.sortDistinct a.members

def includes (a : Agreement) (c : CountryRef) : Bool := a.members.contains c.alpha2

end Agreement
end PaymentIdentifiers
