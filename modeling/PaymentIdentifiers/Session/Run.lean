import PaymentIdentifiers.Session.Field
import PaymentIdentifiers.Session.Step
import PaymentIdentifiers.Sorting.Runs

/-!
# Running sessions

A session keeps the items that were made, by name. A step that fails leaves them as they are, and so does a step that
only looks at them.
-/
namespace PaymentIdentifiers

structure Session.Entry where
  item : Session.Item
  identity : Session.Identity

/-- The named items, the last one first, and how many were made so far. -/
structure Session where
  entries : List (Text × Session.Entry)
  made : Nat

/-- An identifier is stored as its text and read again. -/
def Identifier.restored (x : Identifier) : Except Rejection Identifier := x.kind.parse x.text

namespace Session

def empty : Session := ⟨[], 0⟩

def find (s : Session) : Operand → Except StepError Entry
  | .literal d => .ok ⟨.plain d, .ofPlain d⟩
  | .variable name =>
    match s.entries.lookup name with
    | some e => .ok e
    | none => .error (.unknownVariable name)

/-- The items of several operands. -/
def findAll (s : Session) (os : List Operand) : Except StepError (List Item) :=
  os.mapM fun o => (s.find o).map Entry.item

/-- Keeps an item under a name. -/
def store (s : Session) (name : Text) (e : Entry) : Session := ⟨(name, e) :: s.entries, s.made + 1⟩

/-- A new item, which is the same as no other. -/
def fresh (s : Session) (i : Item) : Entry := ⟨i, .made s.made⟩

/-- The new item for an identifier, unless it is refused. -/
def freshIdentifier (s : Session) (x : Except Refusal Identifier) : Except StepError Entry :=
  match x with
  | .ok y => .ok (s.fresh (.identifier y))
  | .error r => .error (.refusal r)

/-- A copy of an item that went through storage. Patterns, and the structures that hold them, cannot be restored. -/
def copyOf (s : Session) (e : Entry) : Except StepError Entry :=
  match e.item with
  | .identifier x => s.freshIdentifier (x.restored.mapError .rejected)
  | .pattern _ | .layout _ => .error (.immutable "Pattern")
  | .plain d => .ok (if existsOnce d then e else s.fresh (.plain d))
  | .range r => .ok (s.fresh (.range r))
  | .group g => .ok (s.fresh (.group g))

/-- Adds the length of another item to a group. -/
def mergeOf (s : Session) (g : Swift.Group) : Item → Except StepError Entry
  | .group h => .ok (s.fresh (.group (g.merge h)))
  | .pattern p => .ok (s.fresh (.group { g with length := g.length + p.length }))
  | other => .error (.noField other.kindName "length")

/-- The test code of an item; a test code is its own. -/
def testOf (s : Session) (e : Entry) : Except StepError Entry :=
  match e.item with
  | .identifier (.bic x) =>
    if x.isTest then .ok e else s.freshIdentifier ((x.asTest.map .bic).mapError .rejected)
  | other => .error (.noField other.kindName "as_test_bic")

def make (s : Session) : Making → Except StepError Entry
  | .identifier kind d => s.freshIdentifier (kind.construct d)
  | .iban country bban => s.freshIdentifier ((Iban.ofArguments country bban).map .iban)
  | .creditorIdentifier country business national =>
    s.freshIdentifier ((CreditorIdentifier.ofArguments country business national).map .creditorIdentifier)
  | .pattern d =>
    match Swift.Pattern.ofDatum d with
    | .ok p => .ok ⟨.pattern p, .compiled p.expression⟩
    | .error e => .error (.compile e)
  | .range start stop =>
    match Bban.Range.ofBounds start stop with
    | .ok r => .ok (s.fresh (.range r))
    | .error e => .error (.range e)
  | .group qualifier start length =>
    match Swift.Group.ofArguments qualifier start length with
    | .ok g => .ok (s.fresh (.group g))
    | .error e => .error (.argument e)
  | .layout country =>
    match Bban.layoutFor country with
    | .ok (some l) => .ok ⟨.layout l, .registered l.country⟩
    | .ok none => .ok ⟨.plain .missing, .ofPlain .missing⟩
    | .error e => .error (.argument e)
  | .testBic of => do s.testOf (← s.find of)
  | .copy of => do s.copyOf (← s.find of)
  | .merge a b => do
    let x ← s.find a
    match x.item with
    | .group g => s.mergeOf g (← s.find b).item
    | other => throw (.noField other.kindName "merge")

/-- Why a field of a plain value cannot be changed; its kind gives the reason `ofKind`. -/
def plainChangeError (d : Datum) (field : Text) (ofKind : StepError) : StepError :=
  match FieldRole.of d field with
  | .unknown => .noField d.kindName field
  | .operation => .fixedOperation d.kindName field
  | .part kind => .fixedPart kind field
  | .ownKind => ofKind

/-- Why a field of an item cannot be changed; ranges, groups and structures give the reason `otherwise`, and the kind of
a plain value gives the reason `ofKind`. -/
def changeError (i : Item) (field : Text) (otherwise ofKind : StepError) : StepError :=
  match i with
  | .identifier _ | .pattern _ => .immutable i.kindName
  | .plain d => plainChangeError d field ofKind
  | .range _ | .group _ | .layout _ => otherwise

/-- The outcome of a step for the items as they are. -/
def outcome (s : Session) : Step → Except StepError Outcome
  | .make m _ => (s.make m).map fun e => .item e.item
  | .look of => (s.find of).map fun e => .item e.item
  | .compare r a b => do
    let x ← s.find a
    let y ← s.find b
    return .truth (← (r.compare x.item y.item).mapError .noOrder)
  | .sameHash a b => do
    let x ← (← s.find a).item.hashKey.mapError .argument
    let y ← (← s.find b).item.hashKey.mapError .argument
    return .truth (x == y)
  | .same a b => do
    let x ← s.find a
    let y ← s.find b
    return .truth (x.identity.same y.identity)
  | .sort of down => do
    let items ← s.findAll of
    let below := Relation.below.compare
    let sorted ← (if down then Sorting.sortDownBy below items else Sorting.sortBy below items).mapError .noOrder
    return .texts (sorted.map Item.text)
  | .distinct of => do
    let items ← s.findAll of
    return .count (← (countDistinct [] items).mapError .argument)
  | .assign of field value => do
    let e ← s.find of
    throw (changeError e.item field (.cannotAssign field) (.notKind value.kindName))
  | .delete of field => do
    let e ← s.find of
    throw (changeError e.item field (.cannotDelete field) .kindStays)

/-- The items after a step. -/
def after (s : Session) : Step → Session
  | .make m name =>
    match s.make m with
    | .ok e => s.store name e
    | .error _ => s
  | _ => s

/-- The outcomes of steps that are run one after the other. -/
def run (s : Session) : List Step → List (Except StepError Outcome)
  | [] => []
  | step :: steps => s.outcome step :: run (s.after step) steps

end Session
end PaymentIdentifiers
