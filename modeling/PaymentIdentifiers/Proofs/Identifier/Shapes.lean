import PaymentIdentifiers.Proofs.Bic.NormalForm
import PaymentIdentifiers.Proofs.Regex.Matching

/-!
# Quick tests of identifiers

For each kind there is a regular expression by which texts without blanks are tested quickly. It looks neither at the
country nor at check digits, and sees no difference between letters of either case. It refuses no text that is read: the
account numbers of all countries lie within its bounds, and the completed form of an institution code is among its forms.
-/
namespace PaymentIdentifiers

namespace Text

/-- Two letters, two digits, and within bounds letters and digits behind them. -/
def headWithin (least most : Nat) (t : Text) : Bool :=
  fits Char.isAlphanum [Char.isAlpha, Char.isAlpha, Char.isDigit, Char.isDigit] t && lengthIn (4 + least) (4 + most) t

theorem headWithin_asciiUpper (least most : Nat) (t : Text) :
    headWithin least most (asciiUpper t) = headWithin least most t := by
  have hblind : ∀ test ∈ [Char.isAlpha, Char.isAlpha, Char.isDigit, Char.isDigit], CaseBlind test := by
    simp [caseBlind_isAlpha, caseBlind_isDigit]
  rw [headWithin, headWithin, fits_asciiUpper caseBlind_isAlphanum hblind, lengthIn, lengthIn, length_asciiUpper]

theorem headWithin_iff {least most : Nat} {t : Text} : headWithin least most t = true ↔
    2 ≤ t.length ∧ (∀ c ∈ t.take 2, c.isAlpha = true) ∧ 2 ≤ (t.drop 2).length ∧
      (∀ c ∈ (t.drop 2).take 2, c.isDigit = true) ∧ least ≤ ((t.drop 2).drop 2).length ∧
      ((t.drop 2).drop 2).length ≤ most ∧ ∀ c ∈ (t.drop 2).drop 2, c.isAlphanum = true := by
  have hfits : fits Char.isAlphanum [Char.isAlpha, Char.isAlpha, Char.isDigit, Char.isDigit] t = true ↔
      2 ≤ t.length ∧ (∀ c ∈ t.take 2, c.isAlpha = true) ∧ 2 ≤ (t.drop 2).length ∧
        (∀ c ∈ (t.drop 2).take 2, c.isDigit = true) ∧ ∀ c ∈ (t.drop 2).drop 2, c.isAlphanum = true := by
    rw [← fits_replicate_iff, ← fits_replicate_append_iff]
    rfl
  simp only [headWithin, lengthIn, Bool.and_eq_true, decide_eq_true_eq, hfits, List.length_drop]
  constructor
  · rintro ⟨⟨h2, hletters, h4, hdigits, hrest⟩, hleast, hmost⟩
    exact ⟨h2, hletters, h4, hdigits, by omega, by omega, hrest⟩
  · rintro ⟨h2, hletters, h4, hdigits, hleast, hmost, hrest⟩
    exact ⟨⟨h2, hletters, h4, hdigits, hrest⟩, by omega, by omega⟩

/-- To delete the blanks is to trim the text where no blank is left within. -/
theorem deleteBlanks_eq_trim {t : Text} (h : t.trim.AllAlphanum) : deleteBlanks t = trim t := by
  rw [deleteBlanks, ← filter_trim (by simp) t]
  exact List.filter_eq_self.2 fun c hc => by simp [isBlank_of_isAlphanum (h c hc)]

end Text

namespace Regex

theorem meaning_headWithin {least most : Nat} {t : Text} :
    (inRow [repeated (oneOf Text.letterRanges) 2 2, repeated (oneOf Text.digitRanges) 2 2,
      repeated (oneOf Text.alphanumericRanges) least most]).meaning [] t [] ↔
      Text.headWithin least most t = true := by
  simp only [inRow_cons, inRow_nil, meaning_append_oneOf, meaning_append_empty, meaning_repeated_oneOf,
    Text.inRanges_letterRanges, Text.inRanges_digitRanges, Text.inRanges_alphanumericRanges, Text.headWithin_iff]

end Regex

namespace Iban

theorem fullyMatches_iff_hasShape {t : Text} : Regex.FullyMatches shapeExpression t ↔ hasShape t = true := by
  have hread : Regex.read? shapeExpression = some (.inRow [.repeated (.oneOf Text.letterRanges) 2 2,
      .repeated (.oneOf Text.digitRanges) 2 2, .repeated (.oneOf Text.alphanumericRanges) 11 30]) := by
    decide +kernel
  rw [Regex.fullyMatches_iff hread, Regex.meaning_headWithin]
  rfl

theorem hasShape_asciiUpper (t : Text) : hasShape t.asciiUpper = hasShape t := Text.headWithin_asciiUpper 11 30 t

theorem hasShape_of_passes {t : Text} {l : Bban.Layout} (hcan : Text.IsCanonical t) (h : Passes t l) :
    hasShape t = true := by
  have hbban := l.length_of_accepts h.layout h.accepted
  obtain ⟨hleast, hmost, -⟩ := Bban.format_of_layoutOf h.layout
  obtain ⟨a, b, c, d, rest, rfl, ha, hb, hc, hd, -, hrest⟩ := (wellFormed_iff_isFormed hcan).1 h.formed
  simp only [List.drop_succ_cons, List.drop_zero] at hbban
  simp only [hasShape, Text.fits, Text.lengthIn, ha, hb, hc, hd, Bool.true_and, Bool.and_eq_true, List.all_eq_true,
    decide_eq_true_eq, List.length_cons]
  exact ⟨hrest, by omega, by omega⟩

theorem hasShape_of_parse {v : Text} {x : Iban} (h : parse v = .ok x) :
    hasShape v.deleteBlanks = true ∧ hasShape x.text = true := by
  obtain ⟨htext, l, hp⟩ := parse_eq_ok_iff.1 h
  have hshape := hasShape_of_passes (Text.isCanonical_canonical v) hp
  rw [htext, ← hasShape_asciiUpper]
  exact ⟨hshape, hshape⟩

end Iban

namespace Bic

theorem fullyMatches_iff_hasShape {t : Text} : Regex.FullyMatches shapeExpression t ↔ hasShape t = true := by
  have hread : Regex.read? shapeExpression = some (.inRow [.repeated (.oneOf Text.letterRanges) 4 4,
      .repeated (.oneOf Text.letterRanges) 2 2, .repeated (.oneOf Text.alphanumericRanges) 2 2,
      .repeated (.group (.inRow [.repeated (.oneOf Text.alphanumericRanges) 3 3])) 0 1]) := by
    decide +kernel
  rw [Regex.fullyMatches_iff hread, Regex.inRow_cons, Regex.inRow_cons, Regex.meaning_append_append_oneOf, hasShape_iff]
  simp only [Regex.inRow_cons, Regex.inRow_nil, Regex.meaning_append_oneOf, Regex.meaning_append_empty,
    Regex.meaning_optional, Regex.meaning_group, Regex.meaning_repeated_oneOf, Text.inRanges_letterRanges,
    Text.inRanges_alphanumericRanges, List.drop_drop, List.drop_eq_nil_iff, List.length_drop, Nat.reduceAdd]
  constructor
  · rintro ⟨h6, hletters, h8, hlocation, hbranch⟩
    have hpieces : t = t.take 6 ++ (t.drop 6).take 2 ++ t.drop 8 := by
      rw [List.append_assoc, ← List.drop_drop (i := 2) (j := 6), List.take_append_drop, List.take_append_drop]
    have hrest : ∀ c ∈ t.drop 8, c.isAlphanum = true := by
      rcases hbranch with hnone | ⟨-, -, hbranch⟩
      · simp [List.drop_eq_nil_of_le hnone]
      · exact hbranch
    refine ⟨by omega, ?_, hletters⟩
    rw [hpieces, Text.AllAlphanum, List.forall_mem_append, List.forall_mem_append]
    exact ⟨⟨fun c hc => Text.isAlphanum_of_isAlpha (hletters c hc), hlocation⟩, hrest⟩
  · rintro ⟨hlen, halphanum, hletters⟩
    have hmem {u : Text} (hu : u <:+ t) : ∀ c ∈ u, c.isAlphanum = true := fun c hc => halphanum c (hu.subset hc)
    refine ⟨by omega, hletters, by omega, fun c hc => hmem (List.drop_suffix 6 t) c (List.mem_of_mem_take hc), ?_⟩
    rcases hlen with hlen | hlen
    · exact .inl (by omega)
    · exact .inr ⟨by omega, by omega, hmem (List.drop_suffix 8 t)⟩

theorem hasShape_asciiUpper (t : Text) : hasShape t.asciiUpper = hasShape t := by
  apply Bool.eq_iff_iff.2
  rw [hasShape_iff, hasShape_iff, isShaped_asciiUpper_iff]

/-- Blanks are allowed at both ends only, so to delete them all is to trim the text. -/
theorem hasShape_of_parse {v : Text} {x : Bic} (h : parse v = .ok x) :
    hasShape v.deleteBlanks = true ∧ hasShape x.text = true := by
  obtain ⟨htext, hp⟩ := parse_eq_ok_iff.1 h
  have hcore : hasShape v.trim = true := by
    rw [← hasShape_asciiUpper]
    exact hp.formed
  rw [htext, Text.deleteBlanks_eq_trim (allAlphanum_of_hasShape hcore)]
  exact ⟨hcore, hasShape_completed hp.formed⟩

end Bic

namespace CreditorIdentifier

theorem fullyMatches_iff_hasShape {t : Text} : Regex.FullyMatches shapeExpression t ↔ hasShape t = true := by
  have hread : Regex.read? shapeExpression = some (.inRow [.repeated (.oneOf Text.letterRanges) 2 2,
      .repeated (.oneOf Text.digitRanges) 2 2, .repeated (.oneOf Text.alphanumericRanges) 3 3,
      .repeated (.oneOf Text.alphanumericRanges) 1 28]) := by
    decide +kernel
  rw [Regex.fullyMatches_iff hread, Regex.inRow_cons, Regex.inRow_cons, Regex.meaning_append_oneOf,
    Regex.meaning_append_oneOf, Regex.inRow_cons, Regex.inRow_cons, Regex.meaning_append_append_oneOf,
    ← Regex.meaning_append_oneOf, ← Regex.meaning_append_oneOf]
  exact Regex.meaning_headWithin

theorem hasShape_asciiUpper (t : Text) : hasShape t.asciiUpper = hasShape t := Text.headWithin_asciiUpper 4 31 t

theorem hasShape_of_parse {v : Text} {x : CreditorIdentifier} (h : parse v = .ok x) :
    hasShape v.deleteBlanks = true ∧ hasShape x.text = true := by
  obtain ⟨htext, hp⟩ := parse_eq_ok_iff.1 h
  rw [htext, ← hasShape_asciiUpper]
  exact ⟨hp.formed, hp.formed⟩

end CreditorIdentifier

/-- The quick tests have no false negatives. What is read as an identifier matches the expression of its kind as a whole
when its blanks are deleted, and so does the identifier. -/
theorem fullyMatches_shapeExpression_of_parse :
    (∀ (v : Text) (x : Iban), Iban.parse v = .ok x →
      Regex.FullyMatches Iban.shapeExpression v.deleteBlanks ∧ Regex.FullyMatches Iban.shapeExpression x.text) ∧
    (∀ (v : Text) (x : Bic), Bic.parse v = .ok x →
      Regex.FullyMatches Bic.shapeExpression v.deleteBlanks ∧ Regex.FullyMatches Bic.shapeExpression x.text) ∧
    (∀ (v : Text) (x : CreditorIdentifier), CreditorIdentifier.parse v = .ok x →
      Regex.FullyMatches CreditorIdentifier.shapeExpression v.deleteBlanks ∧
        Regex.FullyMatches CreditorIdentifier.shapeExpression x.text) := by
  refine ⟨fun v x h => ?_, fun v x h => ?_, fun v x h => ?_⟩
  · rw [Iban.fullyMatches_iff_hasShape, Iban.fullyMatches_iff_hasShape]
    exact Iban.hasShape_of_parse h
  · rw [Bic.fullyMatches_iff_hasShape, Bic.fullyMatches_iff_hasShape]
    exact Bic.hasShape_of_parse h
  · rw [CreditorIdentifier.fullyMatches_iff_hasShape, CreditorIdentifier.fullyMatches_iff_hasShape]
    exact CreditorIdentifier.hasShape_of_parse h

/-- Alone, the test says little about a text: no country has the code of the first, and the second has blanks. -/
example : Regex.FullyMatches Iban.shapeExpression "ZZ00AAAAAAAAAAA" ∧
    ¬ Regex.FullyMatches Iban.shapeExpression "NO93 8601 1117 947" := by
  decide +kernel

/-- A Norwegian account number with spaces, the shortest there is, an institution code between other blanks, which is
completed, and a creditor identifier. -/
theorem fullyMatches_shapeExpression_of_parse_no :
    Iban.parse "no93 8601 1117 947" = .ok ⟨"NO9386011117947"⟩ ∧
      Regex.FullyMatches Iban.shapeExpression "no9386011117947" ∧
      Regex.FullyMatches Iban.shapeExpression "NO9386011117947" ∧
      Bic.parse "\tpsstfrpp\u3000" = .ok ⟨"PSSTFRPPXXX"⟩ ∧
      Regex.FullyMatches Bic.shapeExpression "psstfrpp" ∧ Regex.FullyMatches Bic.shapeExpression "PSSTFRPPXXX" ∧
      CreditorIdentifier.parse "de98 zzz0 9999 999 999" = .ok ⟨"DE98ZZZ09999999999"⟩ ∧
      Regex.FullyMatches CreditorIdentifier.shapeExpression "de98zzz09999999999" ∧
      Regex.FullyMatches CreditorIdentifier.shapeExpression "DE98ZZZ09999999999" := by
  have hiban : Iban.parse "no93 8601 1117 947" = .ok ⟨"NO9386011117947"⟩ := by
    rw [Iban.parse_congr (w := "NO9386011117947") (by decide +kernel), Iban.parse_text_of_fromParts Iban.fromParts_no]
    rfl
  have hbic : Bic.parse "\tpsstfrpp\u3000" = .ok ⟨"PSSTFRPPXXX"⟩ := by decide +kernel
  have hcreditor : CreditorIdentifier.parse "de98 zzz0 9999 999 999" = .ok ⟨"DE98ZZZ09999999999"⟩ := by
    decide +kernel
  have hdeleted : Text.deleteBlanks "no93 8601 1117 947" = "no9386011117947".toList ∧
      Text.deleteBlanks "\tpsstfrpp\u3000" = "psstfrpp".toList ∧
      Text.deleteBlanks "de98 zzz0 9999 999 999" = "de98zzz09999999999".toList := by
    decide +kernel
  obtain ⟨ofIban, ofBic, ofCreditor⟩ := fullyMatches_shapeExpression_of_parse
  exact ⟨hiban, hdeleted.1 ▸ (ofIban _ _ hiban).1, (ofIban _ _ hiban).2, hbic, hdeleted.2.1 ▸ (ofBic _ _ hbic).1,
    (ofBic _ _ hbic).2, hcreditor, hdeleted.2.2 ▸ (ofCreditor _ _ hcreditor).1, (ofCreditor _ _ hcreditor).2⟩

end PaymentIdentifiers
