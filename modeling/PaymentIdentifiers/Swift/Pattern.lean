import PaymentIdentifiers.Swift.Token

/-!
# Compiled formats

`Pattern.compile` turns an expression such as `4!n12!c` into groups that lie side by side. It refuses an
expression outside the grammar, and otherwise names the leftmost token without the fixed-length mark or with
the count zero. Texts are matched against the spans, in which neighbours of one class are joined.
-/
namespace PaymentIdentifiers.Swift

inductive ExpressionFault where
  | notGrammar
  | variableLength (token : Text)
  | emptyGroup (token : Text)
deriving DecidableEq, Repr

structure ExpressionError where
  expression : Text
  fault : ExpressionFault
deriving DecidableEq, Repr

namespace ExpressionError

def message (e : ExpressionError) : Text :=
  "invalid SWIFT expression " ++ e.expression.quoted ++ ": " ++
    match e.fault with
    | .notGrammar => "expression must match (?:[0-9]\x7b1,3\x7d!?[ance])\x7b1,1000\x7d".toList
    | .variableLength t => "non-fixed length group " ++ t.quoted ++ " is not supported"
    | .emptyGroup t => "group " ++ t.quoted ++ " must have a length of at least 1"

end ExpressionError

/-- The group of a token that begins at `start`. -/
def Token.group (t : Token) (start : Nat) : Except ExpressionFault Group :=
  if t.fixed then
    if t.count.toNat = 0 then .error (.emptyGroup t.text) else .ok ⟨t.charClass, start, t.count.toNat⟩
  else .error (.variableLength t.text)

/-- The groups of a row of tokens, each beginning where the one before it stops. -/
def Token.groups (start : Nat) : List Token → Except ExpressionFault (List Group)
  | [] => .ok []
  | t :: ts => do
    let g ← t.group start
    let gs ← groups (start + t.count.toNat) ts
    return g :: gs

structure Pattern where
  expression : Text
  groups : List Group
deriving DecidableEq, Repr

namespace Pattern

/-- Checks the grammar of the whole expression, then searches it for its tokens. -/
def compile (expression : Text) : Except ExpressionError Pattern :=
  match Token.readAll? expression with
  | none => .error ⟨expression, .notGrammar⟩
  | some _ =>
    match Token.groups 0 (Token.findAll expression) with
    | .error fault => .error ⟨expression, fault⟩
    | .ok gs => .ok ⟨expression, gs⟩

/-- The length of the texts that match. -/
def length (p : Pattern) : Nat := Group.totalLength p.groups

/-- The groups with neighbours of one class joined. -/
def spans (p : Pattern) : List Group := Group.mergeAll p.groups

/-- Tests the groups in order up to the first that fails. -/
def runAll (t : Text) : List Group → Option Bool
  | [] => some true
  | g :: gs =>
    match g.run t with
    | none => none
    | some ok => if ok then runAll t gs else some false

/-- Matches a text against the spans; `none` would be a position outside the text. -/
def run (p : Pattern) (t : Text) : Option Bool :=
  if t.length = p.length then runAll t p.spans else some false

def accepts (p : Pattern) (t : Text) : Bool := p.run t == some true

/-- A group as a bracket expression with a repeat count. -/
def groupRegex (g : Group) : Text := g.charClass.bracket ++ "\x7b" ++ Text.ofInt g.length ++ "\x7d"

/-- The pattern as an anchored regular expression, group by group. -/
def regexText (p : Pattern) : Text := '^' :: p.groups.flatMap groupRegex ++ ['$']

def debugText (p : Pattern) : Text := "Pattern(" ++ p.expression.quoted ++ ")"

/-- The class asked for at each position, in order. -/
def classes (p : Pattern) : List CharClass :=
  p.groups.flatMap fun g => List.replicate g.length.toNat g.charClass

theorem length_classes (p : Pattern) : p.classes.length = p.length := by
  unfold classes length
  induction p.groups with
  | nil => rfl
  | cons g gs ih => simp [Group.totalLength, ih]

end Pattern
end PaymentIdentifiers.Swift
