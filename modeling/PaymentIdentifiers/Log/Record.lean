import PaymentIdentifiers.Log.Mask
import PaymentIdentifiers.Log.Filling

/-!
# Log records

A record is a message template with its arguments. Before it is written it is masked: the template and every
argument that is no number are masked as texts, so that no whole account or card word reaches the log. `Logged` is
a value together with the records that its computation wrote.
-/
namespace PaymentIdentifiers.Log

inductive Level where
  | notset
  | debug
  | info
  | warning
  | error
  | critical
deriving DecidableEq, Repr

def Level.name : Level → Text
  | notset => "NOTSET"
  | debug => "DEBUG"
  | info => "INFO"
  | warning => "WARNING"
  | error => "ERROR"
  | critical => "CRITICAL"

def Level.all : List Level := [notset, debug, info, warning, error, critical]

/-- The level of a name; two of the levels have a second name. -/
def Level.ofName? (t : Text) : Option Level :=
  if t = "WARN".toList then some warning
  else if t = "FATAL".toList then some critical
  else all.find? fun l => l.name == t

/-- The weight of a level; a record is written where its weight reaches the threshold. -/
def Level.weight : Level → Nat
  | notset => 0
  | debug => 10
  | info => 20
  | warning => 30
  | error => 40
  | critical => 50

structure Record where
  level : Level
  channel : Text
  template : Text
  arguments : Arguments

/-- Numbers stay, so that they can be formatted; any other value becomes its masked text. -/
def maskArgument : Datum → Datum
  | .truth b => .truth b
  | .whole n => .whole n
  | .real x => .real x
  | d => .text (maskText d.display)

def Arguments.masked : Arguments → Arguments
  | .positional ds => .positional (ds.map maskArgument)
  | .named fs => .named (fs.map fun f => (f.1, maskArgument f.2))

namespace Record

def masked (r : Record) : Record :=
  { r with template := maskText r.template, arguments := r.arguments.masked }

/-- What the filter of a handler answers about a record, and the record as it leaves it. It keeps every record. -/
def filter (r : Record) : Bool × Record := (true, r.masked)

def message (r : Record) : Except FormatError Text := format r.template r.arguments

/-- The masked message. -/
def maskedMessage (r : Record) : Except FormatError Text := r.masked.message

end Record

/-- A value and the log records written on the way to it, the first one first. -/
structure Logged (α : Type) where
  value : α
  records : List Record

namespace Logged

def map {α β : Type} (f : α → β) (x : Logged α) : Logged β := ⟨f x.value, x.records⟩

/-- A value that wrote nothing. -/
def quiet {α : Type} (a : α) : Logged α := ⟨a, []⟩

def bind {α β : Type} (x : Logged α) (f : α → Logged β) : Logged β :=
  let y := f x.value
  ⟨y.value, x.records ++ y.records⟩

end Logged
end PaymentIdentifiers.Log
