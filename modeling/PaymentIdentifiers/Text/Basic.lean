/-!
# Text as a list of code points

Lengths, positions and slices count code points. Upper-casing touches ASCII letters only: it keeps the
length of every text and never turns a foreign letter into an ASCII one. Blanks are the Unicode white space that
identifiers may be spread with; zero-width characters and the byte order mark are not blank.
-/
namespace PaymentIdentifiers

/-- A text is the list of its Unicode code points. -/
abbrev Text := List Char

instance : Coe String Text := ⟨String.toList⟩

namespace Text

/-- Upper-cases the ASCII letters and keeps every other character. -/
def asciiUpper (t : Text) : Text := t.map Char.toUpper

@[simp] theorem length_asciiUpper (t : Text) : (asciiUpper t).length = t.length := by
  simp [asciiUpper]

@[simp] theorem asciiUpper_append (s t : Text) : asciiUpper (s ++ t) = asciiUpper s ++ asciiUpper t := by
  simp [asciiUpper]

/-- The characters at the positions from `start` up to, but not including, `stop`. -/
def slice (t : Text) (start stop : Nat) : Text := (t.take stop).drop start

theorem length_slice (t : Text) (start stop : Nat) : (slice t start stop).length = min stop t.length - start := by
  simp [slice]

/-- The last `n` characters, or the whole text when it is shorter. -/
def takeEnd (t : Text) (n : Nat) : Text := t.drop (t.length - n)

/-- The element of a list at a position; a negative position counts from the end. -/
def elementAt? {α : Type} (xs : List α) (i : Int) : Option α :=
  if 0 ≤ i then xs[i.toNat]?
  else if 0 ≤ i + xs.length then xs[(i + xs.length).toNat]?
  else none

/-- The character at a position; a negative position counts from the end. -/
def at? (t : Text) (i : Int) : Option Char := elementAt? t i

/-- Decimal notation without leading zeros. -/
def ofNat (n : Nat) : Text := Nat.toDigits 10 n

def ofInt : Int → Text
  | .ofNat n => ofNat n
  | .negSucc n => '-' :: ofNat (n + 1)

/-- Reads decimal digits; any other character counts as nothing. -/
def toNat (t : Text) : Nat := t.foldl (fun n c => 10 * n + (c.toNat - '0'.toNat)) 0

/-- Writes the texts one after the other with `sep` between neighbours. -/
def joined (sep : Text) (ts : List Text) : Text := sep.intercalate ts

/-- Cuts a text at every separator; there is one piece more than separators. -/
def cut (sep : Char) : Text → List Text
  | [] => [[]]
  | c :: t =>
    if c = sep then [] :: cut sep t
    else match cut sep t with
      | [] => [[c]]
      | piece :: pieces => (c :: piece) :: pieces

/-- A text between single quotes, without any escape. -/
def quoted (t : Text) : Text := '\'' :: t ++ ['\'']

/-- Whether a character belongs to a set that is given by ranges of code points, both ends included. -/
def inRanges (ranges : List (Nat × Nat)) (c : Char) : Bool :=
  ranges.any fun r => r.1 ≤ c.toNat && c.toNat ≤ r.2

/-- Order by code points, position by position; a proper beginning comes first. -/
def before : Text → Text → Bool
  | _, [] => false
  | [], _ :: _ => true
  | a :: s, b :: t => a.toNat < b.toNat || (a == b && before s t)

@[simp] theorem before_nil (t : Text) : before t [] = false := by
  cases t <;> rfl

theorem before_irrefl (t : Text) : before t t = false := by
  induction t with
  | nil => rfl
  | cons c t ih => simp [before, ih]

/-- Puts a text into an ascending list without repeating it. -/
def insertSorted (t : Text) : List Text → List Text
  | [] => [t]
  | u :: us => if t = u then u :: us else if before t u then t :: u :: us else u :: insertSorted t us

/-- The distinct texts in ascending order. -/
def sortDistinct (ts : List Text) : List Text := ts.foldr insertSorted []

theorem mem_insertSorted {t u : Text} {us : List Text} : u ∈ insertSorted t us ↔ u = t ∨ u ∈ us := by
  induction us with
  | nil => simp [insertSorted]
  | cons v vs ih =>
    unfold insertSorted
    split
    · rename_i h
      simp [h]
    · split
      · simp
      · grind

theorem mem_sortDistinct {t : Text} {ts : List Text} : t ∈ sortDistinct ts ↔ t ∈ ts := by
  induction ts with
  | nil => simp [sortDistinct]
  | cons u us ih =>
    rw [sortDistinct, List.foldr_cons, mem_insertSorted, ← sortDistinct, ih, List.mem_cons]

theorem isDigit_iff {c : Char} : c.isDigit = true ↔ 48 ≤ c.toNat ∧ c.toNat ≤ 57 := by
  change (decide (48 ≤ c.toNat) && decide (c.toNat ≤ 57)) = true ↔ _
  simp only [Bool.and_eq_true, decide_eq_true_eq]

theorem isUpper_iff {c : Char} : c.isUpper = true ↔ 65 ≤ c.toNat ∧ c.toNat ≤ 90 := by
  change decide (65 ≤ c.toNat ∧ c.toNat ≤ 90) = true ↔ _
  exact decide_eq_true_iff

theorem isLower_iff {c : Char} : c.isLower = true ↔ 97 ≤ c.toNat ∧ c.toNat ≤ 122 := by
  change (decide (97 ≤ c.toNat) && decide (c.toNat ≤ 122)) = true ↔ _
  simp only [Bool.and_eq_true, decide_eq_true_eq]

theorem isAlphanum_iff {c : Char} : c.isAlphanum = true ↔
    (65 ≤ c.toNat ∧ c.toNat ≤ 90) ∨ (97 ≤ c.toNat ∧ c.toNat ≤ 122) ∨ (48 ≤ c.toNat ∧ c.toNat ≤ 57) := by
  change ((c.isUpper || c.isLower) || c.isDigit) = true ↔ _
  simp only [Bool.or_eq_true, isUpper_iff, isLower_iff, isDigit_iff, or_assoc]

theorem isAlpha_iff {c : Char} : c.isAlpha = true ↔ c.isUpper = true ∨ c.isLower = true := by
  change (c.isUpper || c.isLower) = true ↔ _
  rw [Bool.or_eq_true]

theorem isAlphanum_of_isUpper {c : Char} (h : c.isUpper = true) : c.isAlphanum = true :=
  isAlphanum_iff.2 (.inl (isUpper_iff.1 h))

theorem isAlphanum_of_isDigit {c : Char} (h : c.isDigit = true) : c.isAlphanum = true :=
  isAlphanum_iff.2 (.inr (.inr (isDigit_iff.1 h)))

/-- An ASCII upper-case letter or digit. -/
def isUpperOrDigit (c : Char) : Bool := c.isUpper || c.isDigit

/-- Whether the text begins with characters that pass the tests in order, and all others pass `rest`. -/
def fits (rest : Char → Bool) : List (Char → Bool) → Text → Bool
  | [], t => t.all rest
  | test :: tests, c :: t => test c && fits rest tests t
  | _ :: _, [] => false

/-- Whether the length lies between the bounds, both included. -/
def lengthIn (lo hi : Nat) (t : Text) : Bool := lo ≤ t.length && t.length ≤ hi

/-- White space: the ASCII controls 9-13 and 28-31, the space, and the Unicode spaces and separators. -/
def isBlank (c : Char) : Bool :=
  let n := c.toNat
  (9 ≤ n && n ≤ 13) || (28 ≤ n && n ≤ 32) || n == 0x85 || n == 0xA0 || n == 0x1680 ||
    (0x2000 ≤ n && n ≤ 0x200A) || n == 0x2028 || n == 0x2029 || n == 0x202F || n == 0x205F || n == 0x3000

def trimStart (t : Text) : Text := t.dropWhile isBlank

/-- Cuts the blanks at both ends. -/
def trim (t : Text) : Text := (trimStart (trimStart t).reverse).reverse

/-- Drops every blank. -/
def deleteBlanks (t : Text) : Text := t.filter fun c => !isBlank c

/-- The form in which identifiers are compared and stored: no blanks, ASCII letters in upper case. -/
def canonical (t : Text) : Text := asciiUpper (deleteBlanks t)

@[simp] theorem deleteBlanks_append (s t : Text) : deleteBlanks (s ++ t) = deleteBlanks s ++ deleteBlanks t := by
  simp [deleteBlanks]

@[simp] theorem canonical_append (s t : Text) : canonical (s ++ t) = canonical s ++ canonical t := by
  simp [canonical]

end Text
end PaymentIdentifiers
