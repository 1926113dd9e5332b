import PaymentIdentifiers.Bic
import PaymentIdentifiers.Card
import PaymentIdentifiers.CreditorIdentifier
import PaymentIdentifiers.Iban
import PaymentIdentifiers.Log.Record

/-!
# The four kinds of identifiers

What the kinds have in common: each is read from a text or rejected, takes only a text as its argument, and can be
tested without an error, where a rejection is written to the log by its reason alone.
-/
namespace PaymentIdentifiers

inductive Kind where
  | iban
  | bic
  | creditorIdentifier
  | card
deriving DecidableEq, Repr

inductive Identifier where
  | iban (x : Iban)
  | bic (x : Bic)
  | creditorIdentifier (x : CreditorIdentifier)
  | card (x : Card)
deriving DecidableEq, Repr

/-- Why an entry point gave no identifier: an argument of the wrong kind, or a text that is none. -/
inductive Refusal where
  | argument (e : ArgumentError)
  | rejected (r : Rejection)
deriving DecidableEq, Repr

def Refusal.message : Refusal → Text
  | argument e => e.message
  | rejected r => r.message

namespace Kind

/-- The name of the argument in messages. -/
def argument : Kind → Text
  | iban => "iban"
  | bic => "bic"
  | creditorIdentifier => "creditor identifier"
  | card => "card number"

/-- The log channel of the kind. -/
def channel : Kind → Text
  | iban => "bankident.iban"
  | bic => "bankident.bic"
  | creditorIdentifier => "bankident.creditor"
  | card => "bankident.creditcard"

/-- The message about a rejected text, with a place for the reason. -/
def rejectionTemplate : Kind → Text
  | iban => "IBAN rejected: %s"
  | bic => "BIC rejected: %s"
  | creditorIdentifier => "creditor identifier rejected: %s"
  | card => "card number rejected: %s"

def parse : Kind → Text → Except Rejection Identifier
  | iban, t => (Iban.parse t).map .iban
  | bic, t => (Bic.parse t).map .bic
  | creditorIdentifier, t => (CreditorIdentifier.parse t).map .creditorIdentifier
  | card, t => (Card.parse t).map .card

/-- The identifier for an argument of any kind. -/
def construct (k : Kind) (d : Datum) : Except Refusal Identifier :=
  match d.requireText k.argument with
  | .error e => .error (.argument e)
  | .ok t => (k.parse t).mapError .rejected

/-- Tests an argument of any kind without an error. -/
def isValid (k : Kind) (d : Datum) : Log.Logged Bool :=
  match k.construct d with
  | .ok _ => .quiet true
  | .error (.argument _) => .quiet false
  | .error (.rejected r) =>
    ⟨false, [⟨.debug, k.channel, k.rejectionTemplate, .positional [.text r.reason.name]⟩]⟩

end Kind

namespace Identifier

def kind : Identifier → Kind
  | iban _ => .iban
  | bic _ => .bic
  | creditorIdentifier _ => .creditorIdentifier
  | card _ => .card

/-- The canonical text; for a card its number. -/
def text : Identifier → Text
  | iban x => x.text
  | bic x => x.text
  | creditorIdentifier x => x.text
  | card x => x.number

def debugText : Identifier → Text
  | iban x => x.debugText
  | bic x => x.debugText
  | creditorIdentifier x => x.debugText
  | card x => x.debugText

end Identifier

/-- Builds an IBAN from arguments of any kind. Missing arguments are reported first, then an account number that is
no text, then a country that is none. -/
def Iban.ofArguments (country : CountryArgument) (bban : Datum) : Except Refusal Iban :=
  if country.isMissing then .error (.argument (.required "country"))
  else match bban.requireText "bban" with
    | .error e => .error (.argument e)
    | .ok b =>
      match country.ref with
      | .error e => .error (.argument e)
      | .ok c => (Iban.fromParts c b).mapError .rejected

/-- Builds a creditor identifier from arguments of any kind. Missing arguments are reported first, in order, then a
country that is none, then parts that cannot be searched for blanks. -/
def CreditorIdentifier.ofArguments (country : CountryArgument) (businessCode nationalId : Datum) :
    Except Refusal CreditorIdentifier :=
  let checked : Except ArgumentError (CountryRef × Text × Text) := do
    if country.isMissing then throw (.required "country")
    if businessCode.isMissing then throw (.required "business code")
    if nationalId.isMissing then throw (.required "national id")
    return (← country.ref, ← businessCode.searchable, ← nationalId.searchable)
  match checked with
  | .error e => .error (.argument e)
  | .ok (c, b, n) => (CreditorIdentifier.fromParts c b n).mapError .rejected

end PaymentIdentifiers
