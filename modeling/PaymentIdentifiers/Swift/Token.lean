import PaymentIdentifiers.Swift.Group

/-!
# Tokens of a format expression

An expression is a row of tokens: one to three decimal digits, an optional exclamation mark and a class letter.
The cut into tokens is unique, because a token ends with its only letter. A token with the mark asks for exactly
that many characters; one without it would ask for at most that many. Apart from the cut of a whole expression
there is a search, which passes over characters that belong to no token.
-/
namespace PaymentIdentifiers.Swift

structure Token where
  count : Text
  fixed : Bool
  charClass : CharClass
deriving DecidableEq, Repr

namespace Token

/-- The token as it stands in the expression. -/
def text (t : Token) : Text := t.count ++ (if t.fixed then ['!'] else []) ++ [t.charClass.qualifier]

/-- Reads tokens; `count` and `fixed` are the parts of the current token that were already read. -/
def readFrom (count : Text) (fixed : Bool) : Text → Option (List Token)
  | [] => if count.isEmpty then some [] else none
  | c :: rest =>
    if c.isDigit then
      if fixed || count.length == 3 then none else readFrom (count ++ [c]) false rest
    else if count.isEmpty then none
    else if c == '!' then
      if fixed then none else readFrom count true rest
    else match CharClass.ofQualifier? c with
      | none => none
      | some k => (readFrom [] false rest).map (⟨count, fixed, k⟩ :: ·)

/-- The longest expression that is read. -/
def limit : Nat := 1000

/-- Cuts an expression into one to `limit` tokens. -/
def readAll? (expression : Text) : Option (List Token) :=
  match readFrom [] false expression with
  | some ts => if 1 ≤ ts.length && ts.length ≤ limit then some ts else none
  | none => none

/-- The token in front of a text that has this number of digits, with or without the mark. -/
def frontWith? (digits : Nat) (fixed : Bool) (t : Text) : Option Token :=
  match t[digits + if fixed then 1 else 0]?.bind CharClass.ofQualifier? with
  | none => none
  | some k =>
    let token : Token := ⟨t.take digits, fixed, k⟩
    if token.count.all Char.isDigit && token.text.isPrefixOf t then some token else none

/-- The token in front of a text. More digits are tried first, and the mark is tried before its absence. -/
def front? (t : Text) : Option Token :=
  [(3, true), (3, false), (2, true), (2, false), (1, true), (1, false)].findSome? fun q => frontWith? q.1 q.2 t

/-- Searches tokens from left to right; the first `skip` characters belong to the token that was found last. -/
def findFrom : Nat → Text → List Token
  | _, [] => []
  | skip + 1, _ :: t => findFrom skip t
  | 0, c :: t =>
    match front? (c :: t) with
    | some token => token :: findFrom (token.text.length - 1) t
    | none => findFrom 0 t

/-- All tokens that a search finds, wherever they stand. -/
def findAll (t : Text) : List Token := findFrom 0 t

/-- The tokens written one after the other. -/
def writeAll (ts : List Token) : Text := ts.flatMap text

theorem writeAll_of_readFrom {ts : List Token} {count : Text} {fixed : Bool} {t : Text}
    (h : readFrom count fixed t = some ts) (hf : fixed = true → count ≠ []) :
    count ++ (if fixed then ['!'] else []) ++ t = writeAll ts := by
  induction t generalizing count fixed ts with
  | nil =>
    simp only [readFrom] at h
    split at h
    · cases fixed <;> simp_all [writeAll]
    · simp at h
  | cons c t ih =>
    simp only [readFrom] at h
    split at h
    · split at h
      · simp at h
      · rename_i hfix
        have hi := ih h (by simp)
        cases fixed with
        | false => simpa using hi
        | true => simp at hfix
    · split at h
      · simp at h
      · split at h
        · split at h
          · simp at h
          · rename_i hc hfix
            have hi := ih h (by simp_all)
            cases fixed with
            | false => simp_all
            | true => simp at hfix
        · split at h
          · simp at h
          · rename_i k hk
            obtain ⟨us, hu, rfl⟩ := Option.map_eq_some_iff.1 h
            have hq : c = k.qualifier := by
              revert hk
              unfold CharClass.ofQualifier?
              split <;> intro hk <;> simp_all [CharClass.qualifier] <;> (subst hk; rfl)
            have hi := ih hu (by simp)
            simp only [List.nil_append, Bool.false_eq_true, if_false] at hi
            simp [writeAll, text, hq, hi]

end Token
end PaymentIdentifiers.Swift
