import PaymentIdentifiers.Text.Basic
import PaymentIdentifiers.Text.WordTable

/-!
# Words

A word is a maximal run of word characters: letters, number characters and the underscore. The decimal digits among
them are the characters of the category Nd, which come in rows of ten. `pieces` cuts a text into its words and the
characters between them; nothing is lost in the cut.
-/
namespace PaymentIdentifiers.Text

/-- The decimal digits outside ASCII. -/
def foreignDigits : List (Nat × Nat) :=
  [(0x660, 0x669), (0x6f0, 0x6f9), (0x7c0, 0x7c9), (0x966, 0x96f), (0x9e6, 0x9ef), (0xa66, 0xa6f),
   (0xae6, 0xaef), (0xb66, 0xb6f), (0xbe6, 0xbef), (0xc66, 0xc6f), (0xce6, 0xcef), (0xd66, 0xd6f),
   (0xde6, 0xdef), (0xe50, 0xe59), (0xed0, 0xed9), (0xf20, 0xf29), (0x1040, 0x1049), (0x1090, 0x1099),
   (0x17e0, 0x17e9), (0x1810, 0x1819), (0x1946, 0x194f), (0x19d0, 0x19d9), (0x1a80, 0x1a89), (0x1a90, 0x1a99),
   (0x1b50, 0x1b59), (0x1bb0, 0x1bb9), (0x1c40, 0x1c49), (0x1c50, 0x1c59), (0xa620, 0xa629), (0xa8d0, 0xa8d9),
   (0xa900, 0xa909), (0xa9d0, 0xa9d9), (0xa9f0, 0xa9f9), (0xaa50, 0xaa59), (0xabf0, 0xabf9), (0xff10, 0xff19),
   (0x104a0, 0x104a9), (0x10d30, 0x10d39), (0x11066, 0x1106f), (0x110f0, 0x110f9), (0x11136, 0x1113f),
   (0x111d0, 0x111d9), (0x112f0, 0x112f9), (0x11450, 0x11459), (0x114d0, 0x114d9), (0x11650, 0x11659),
   (0x116c0, 0x116c9), (0x11730, 0x11739), (0x118e0, 0x118e9), (0x11950, 0x11959), (0x11c50, 0x11c59),
   (0x11d50, 0x11d59), (0x11da0, 0x11da9), (0x16a60, 0x16a69), (0x16ac0, 0x16ac9), (0x16b50, 0x16b59),
   (0x1d7ce, 0x1d7ff), (0x1e140, 0x1e149), (0x1e2f0, 0x1e2f9), (0x1e950, 0x1e959), (0x1fbf0, 0x1fbf9)]

/-- A decimal digit of any script. -/
def isDecimalDigit (c : Char) : Bool :=
  if c.toNat < 128 then c.isDigit else inRanges foreignDigits c

/-- A letter or number character of any script, or the underscore. -/
def isWordChar (c : Char) : Bool :=
  if c.toNat < 128 then c.isAlphanum || c == '_' else inRanges foreignDigits c || inRanges foreignLetters c

inductive Piece where
  | word (w : Text)
  | gap (c : Char)
deriving DecidableEq, Repr

def Piece.text : Piece → Text
  | .word w => w
  | .gap c => [c]

/-- Puts a word character in front of a row of pieces. -/
def extendWord (c : Char) : List Piece → List Piece
  | .word w :: ps => .word (c :: w) :: ps
  | ps => .word [c] :: ps

/-- Cuts a text into words and single characters between them. -/
def pieces : Text → List Piece
  | [] => []
  | c :: t => if isWordChar c then extendWord c (pieces t) else .gap c :: pieces t

/-- Replaces every word by its image and keeps the characters between them. -/
def mapWords (f : Text → Text) (t : Text) : Text :=
  (pieces t).flatMap fun
    | .word w => f w
    | .gap c => [c]

theorem flatMap_text_extendWord (c : Char) (ps : List Piece) :
    (extendWord c ps).flatMap Piece.text = c :: ps.flatMap Piece.text := by
  unfold extendWord
  split <;> simp [Piece.text]

theorem flatMap_text_pieces (t : Text) : (pieces t).flatMap Piece.text = t := by
  induction t with
  | nil => rfl
  | cons c t ih =>
    unfold pieces
    split
    · rw [flatMap_text_extendWord, ih]
    · simp [Piece.text, ih]

theorem isWordChar_of_isAlphanum {c : Char} (h : c.isAlphanum = true) : isWordChar c = true := by
  have hc : c.toNat < 128 := by
    rw [isAlphanum_iff] at h
    omega
  simp [isWordChar, hc, h]

end PaymentIdentifiers.Text
