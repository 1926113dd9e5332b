import PaymentIdentifiers.Proofs.CreditorIdentifier.Parts
import PaymentIdentifiers.Proofs.Iban.Parts
import PaymentIdentifiers.Proofs.Identifier.Reading

/-!
# The characters of a text and those of its identifier

Reading and building drop separators and put ASCII letters in upper case, and they do nothing else. Any other character
stays what it is and stays in the text, where no shape allows it. So look-alike letters and digits are never accepted.
-/
namespace PaymentIdentifiers

namespace Text

/-- ASCII characters and blanks only. -/
def IsPlain (t : Text) : Prop := ∀ c ∈ t, c.toNat < 128 ∨ isBlank c = true

instance (t : Text) : Decidable (IsPlain t) :=
  decidable_of_iff ((t.all fun c => c.toNat < 128 || isBlank c) = true) (by simp [IsPlain])

/-- Nothing becomes a letter or digit in upper case that was none before. -/
theorem isAlphanum_of_toUpper {c : Char} (h : c.toUpper.isAlphanum = true) : c.isAlphanum = true :=
  (caseBlind_isAlphanum c).symm.trans h

theorem AllAlphanum.of_asciiUpper {t : Text} (h : AllAlphanum (asciiUpper t)) : AllAlphanum t := fun _ hc =>
  isAlphanum_of_toUpper (h _ (List.mem_map_of_mem hc))

theorem toNat_lt_of_isAlphanum {c : Char} (h : c.isAlphanum = true) : c.toNat < 128 := by
  rw [isAlphanum_iff] at h
  omega

variable {t : Text}

theorem isPlain_of_deleteBlanks (h : AllAlphanum (deleteBlanks t)) : IsPlain t := by
  intro c hc
  by_cases hb : isBlank c = true
  · exact .inr hb
  · exact .inl (toNat_lt_of_isAlphanum (h c (List.mem_filter.2 ⟨hc, by simpa using hb⟩)))

theorem isPlain_of_canonical (h : AllAlphanum (canonical t)) : IsPlain t := isPlain_of_deleteBlanks h.of_asciiUpper

theorem isPlain_of_trim (h : AllAlphanum (trim t)) : IsPlain t := fun c hc =>
  (mem_trim_or_isBlank hc).imp_left fun hmem => toNat_lt_of_isAlphanum (h c hmem)

end Text

theorem Card.isPlain_of_compact {t : Text} (h : (compact t).AllAlphanum) : t.IsPlain := by
  intro c hc
  by_cases hs : isSeparator c = true
  · rw [isSeparator, Bool.or_eq_true, beq_iff_eq] at hs
    rcases hs with hb | rfl
    · exact .inr hb
    · exact .inl (by decide)
  · exact .inl (Text.toNat_lt_of_isAlphanum (h c (List.mem_filter.2 ⟨hc, by simpa using hs⟩)))

/-- A country that is in the table is meant by plain characters. -/
theorem CountryRef.isPlain_of_mem_codes {c : CountryRef} (h : c.alpha2 ∈ Country.codes) {t : Text}
    (ht : c = .code t) : t.IsPlain := by
  subst ht
  have hcode : Text.AllAlphanum (Text.asciiUpper t.trim) := fun d hd =>
    Text.isAlphanum_of_isUpper (Country.isUpper_of_mem h hd)
  exact Text.isPlain_of_trim hcode.of_asciiUpper

namespace Kind

theorem isPlain_of_significant {k : Kind} {v : Text} (h : (k.significant v).AllAlphanum) : v.IsPlain := by
  cases k with
  | iban => exact Text.isPlain_of_canonical h
  | bic => exact Text.isPlain_of_trim h.of_asciiUpper
  | creditorIdentifier => exact Text.isPlain_of_canonical h
  | card => exact Card.isPlain_of_compact h

/-- The first check of each kind refuses significant characters that are neither letters nor digits. -/
theorem parse_of_not_allAlphanum {k : Kind} {v : Text} (h : ¬ (k.significant v).AllAlphanum) :
    ∃ r, k.parse v = .error r ∧ r.reason = .notWellFormed := by
  cases k with
  | iban =>
    have hs : Iban.wellFormed v.canonical = false := Bool.eq_false_iff.2 fun hs =>
      h fun c hc => Text.isAlphanum_of_isUpperOrDigit (Iban.isUpperOrDigit_of_wellFormed hs c hc)
    refine ⟨⟨.iban, v, .notWellFormed⟩, ?_, rfl⟩
    rw [parse, Iban.parse, hs]
    rfl
  | bic =>
    have hs : Bic.hasShape v.trim.asciiUpper = false := Bool.eq_false_iff.2 fun hs =>
      h (Bic.allAlphanum_of_hasShape hs)
    refine ⟨⟨.bic, v, .notWellFormed⟩, ?_, rfl⟩
    rw [parse, Bic.parse, hs]
    rfl
  | creditorIdentifier =>
    have hs : CreditorIdentifier.hasShape v.canonical = false := Bool.eq_false_iff.2 fun hs =>
      h (CreditorIdentifier.allAlphanum_of_hasShape hs)
    refine ⟨⟨.creditorIdentifier, v, .notWellFormed⟩, ?_, rfl⟩
    rw [parse, CreditorIdentifier.parse, hs]
    rfl
  | card =>
    have hs : Card.issuerOf? (Card.compact v) = none := Option.eq_none_iff_forall_ne_some.2 fun i hi =>
      h fun c hc => Text.isAlphanum_of_isDigit ((Card.length_of_issuerOf? hi).2 c hc)
    refine ⟨⟨.cardNumber, v, .notWellFormed⟩, ?_, rfl⟩
    rw [parse, Card.parse, hs]
    rfl

theorem construct_of_not_isPlain {k : Kind} {v : Text} (h : ¬ v.IsPlain) :
    ∃ r, k.construct (.text v) = .error (.rejected r) ∧ r.reason = .notWellFormed := by
  obtain ⟨r, hr, hreason⟩ := parse_of_not_allAlphanum (mt isPlain_of_significant h)
  refine ⟨r, ?_, hreason⟩
  rw [construct_text, hr]
  rfl

end Kind

theorem Iban.isPlain_of_fromParts {c : CountryRef} {b : Text} {x : Iban} (h : fromParts c b = .ok x) :
    b.IsPlain ∧ ∀ t, c = .code t → t.IsPlain := by
  obtain ⟨-, l, hparts⟩ := fromParts_eq_ok_iff.1 h
  have hbody := Bban.Layout.isUpperOrDigit_of_accepts hparts.layout hparts.accepted (Text.isCanonical_canonical b)
  exact ⟨Text.isPlain_of_canonical fun d hd => Text.isAlphanum_of_isUpperOrDigit (hbody d hd),
    fun t ht => CountryRef.isPlain_of_mem_codes hparts.listed ht⟩

theorem CreditorIdentifier.isPlain_of_fromParts {c : CountryRef} {b n : Text} {x : CreditorIdentifier}
    (h : fromParts c b n = .ok x) : b.IsPlain ∧ n.IsPlain ∧ ∀ t, c = .code t → t.IsPlain := by
  have hparts := (fromParts_eq_ok_iff.1 h).2
  exact ⟨Text.isPlain_of_canonical hparts.triple.2, Text.isPlain_of_canonical hparts.national.1,
    fun t ht => CountryRef.isPlain_of_mem_codes (Agreement.mem_codes_of_mem_area hparts.member) ht⟩

theorem Card.number_of_parse {v : Text} {x : Card} (h : parse v = .ok x) :
    x.number = Text.asciiUpper (v.filter fun c => !(Text.isBlank c || c == '-')) := by
  have hdigits : Text.IsCanonical x.number := Text.isCanonical_of_upperOrDigit fun c hc => by
    simp [Text.isUpperOrDigit, isDigit_of_parse h c hc]
  have hnumber := (parse_eq_ok_iff.1 h).1
  rw [← hdigits.asciiUpper_eq, hnumber]
  rfl

/-- Between its outer blanks, the text of a code has no blank, and the code is this core in upper case. -/
theorem Bic.exists_core_of_parse {v : Text} {x : Bic} (h : parse v = .ok x) :
    ∃ s core u, v = s ++ core ++ u ∧ (∀ c ∈ s ++ u, Text.isBlank c = true) ∧ (∀ c ∈ core, Text.isBlank c = false) ∧
      x.text = core.asciiUpper ++ if core.length = 8 then primaryOffice else [] := by
  obtain ⟨htext, hp⟩ := parse_eq_ok_iff.1 h
  obtain ⟨s, u, hs, hu, hv⟩ := Text.exists_eq_append_trim v
  have hcore : v.trim.AllAlphanum := (allAlphanum_of_hasShape hp.formed).of_asciiUpper
  refine ⟨s, v.trim, u, hv, List.forall_mem_append.2 ⟨hs, hu⟩, fun c hc => Text.isBlank_of_isAlphanum (hcore c hc), ?_⟩
  rw [htext, completed, Text.length_asciiUpper]
  split
  · rfl
  · rw [List.append_nil]

/-- What becomes of the characters of a text. Of an account number, a creditor identifier and a card number exactly the
separators are dropped, of an institution code exactly the outer blanks, and only the case of ASCII letters is changed.
No text with any other character than ASCII characters and blanks is accepted or built upon. -/
theorem spelling_kept :
    (∀ (v : Text) (x : Iban), Iban.parse v = .ok x →
      x.text = Text.asciiUpper (v.filter fun c => !Text.isBlank c)) ∧
    (∀ (v : Text) (x : CreditorIdentifier), CreditorIdentifier.parse v = .ok x →
      x.text = Text.asciiUpper (v.filter fun c => !Text.isBlank c)) ∧
    (∀ (v : Text) (x : Card), Card.parse v = .ok x →
      x.number = Text.asciiUpper (v.filter fun c => !(Text.isBlank c || c == '-'))) ∧
    (∀ (v : Text) (x : Bic), Bic.parse v = .ok x →
      ∃ s core u, v = s ++ core ++ u ∧ (∀ c ∈ s ++ u, Text.isBlank c = true) ∧
        (∀ c ∈ core, Text.isBlank c = false) ∧
        x.text = core.asciiUpper ++ if core.length = 8 then "XXX".toList else []) ∧
    (∀ (k : Kind) (v : Text), ¬ v.IsPlain →
      ∃ r, k.construct (.text v) = .error (.rejected r) ∧ r.reason = .notWellFormed) ∧
    (∀ (c : CountryRef) (b : Text) (x : Iban), Iban.fromParts c b = .ok x →
      b.IsPlain ∧ ∀ t, c = .code t → t.IsPlain) ∧
    (∀ (c : CountryRef) (b n : Text) (x : CreditorIdentifier), CreditorIdentifier.fromParts c b n = .ok x →
      b.IsPlain ∧ n.IsPlain ∧ ∀ t, c = .code t → t.IsPlain) :=
  ⟨fun _ _ h => (Iban.parse_eq_ok_iff.1 h).1, fun _ _ h => (CreditorIdentifier.parse_eq_ok_iff.1 h).1,
    fun _ _ h => Card.number_of_parse h, fun _ _ h => Bic.exists_core_of_parse h,
    fun _ _ h => Kind.construct_of_not_isPlain h, fun _ _ _ h => Iban.isPlain_of_fromParts h,
    fun _ _ _ _ h => CreditorIdentifier.isPlain_of_fromParts h⟩

/-- One text of each kind with separators and lower-case letters, one that ends in a full-width digit, and parts of an
account number and of a creditor identifier. -/
theorem spelling_kept_norway :
    Iban.parse "no93 8601 1117 947" = .ok ⟨"NO9386011117947"⟩ ∧
      "NO9386011117947".toList = Text.asciiUpper ("no93 8601 1117 947".toList.filter fun c => !Text.isBlank c) ∧
      CreditorIdentifier.parse "de98 zzz0 9999 999 999" = .ok ⟨"DE98ZZZ09999999999"⟩ ∧
      "DE98ZZZ09999999999".toList = Text.asciiUpper ("de98 zzz0 9999 999 999".toList.filter fun c => !Text.isBlank c) ∧
      Card.parse "4111-1111 1111-1111" = .ok ⟨"4111111111111111", .visa⟩ ∧
      "4111111111111111".toList =
        Text.asciiUpper ("4111-1111 1111-1111".toList.filter fun c => !(Text.isBlank c || c == '-')) ∧
      Bic.parse "\tpsstfrpp\u3000" = .ok ⟨"PSSTFRPPXXX"⟩ ∧
      (∃ s core u, "\tpsstfrpp\u3000".toList = s ++ core ++ u ∧ (∀ c ∈ s ++ u, Text.isBlank c = true) ∧
        (∀ c ∈ core, Text.isBlank c = false) ∧
        "PSSTFRPPXXX".toList = Text.asciiUpper core ++ if core.length = 8 then "XXX".toList else []) ∧
      ¬ Text.IsPlain "NO938601111794\uff17" ∧
      (∃ r, Kind.iban.construct (.text "NO938601111794\uff17") = .error (.rejected r) ∧ r.reason = .notWellFormed) ∧
      Iban.fromParts (.code " no ") "8601 1117 947" = .ok ⟨"NO9386011117947"⟩ ∧ Text.IsPlain "8601 1117 947" ∧
      CreditorIdentifier.fromParts (.code "DE") "zzz" "09999999999" = .ok ⟨"DE98ZZZ09999999999"⟩ ∧
      Text.IsPlain "zzz" := by
  have hiban : Iban.parse "no93 8601 1117 947" = .ok ⟨"NO9386011117947"⟩ := by
    rw [Iban.parse_congr (w := "NO9386011117947") (by decide +kernel), Iban.parse_text_of_fromParts Iban.fromParts_no]
    rfl
  have hcreditor : CreditorIdentifier.parse "de98 zzz0 9999 999 999" = .ok ⟨"DE98ZZZ09999999999"⟩ := by
    decide +kernel
  have hcard : Card.parse "4111-1111 1111-1111" = .ok ⟨"4111111111111111", .visa⟩ := by decide +kernel
  have hbic : Bic.parse "\tpsstfrpp\u3000" = .ok ⟨"PSSTFRPPXXX"⟩ := by decide +kernel
  have hforeign : ¬ Text.IsPlain "NO938601111794\uff17" := by decide +kernel
  have hbuilt : CreditorIdentifier.fromParts (.code "DE") "zzz" "09999999999" = .ok ⟨"DE98ZZZ09999999999"⟩ := by
    decide +kernel
  obtain ⟨ofIban, ofCreditor, ofCard, ofBic, ofForeign, ofIbanParts, ofCreditorParts⟩ := spelling_kept
  exact ⟨hiban, ofIban _ _ hiban, hcreditor, ofCreditor _ _ hcreditor, hcard, ofCard _ _ hcard, hbic, ofBic _ _ hbic,
    hforeign, ofForeign _ _ hforeign, Iban.fromParts_no, (ofIbanParts _ _ _ Iban.fromParts_no).1, hbuilt,
    (ofCreditorParts _ _ _ _ hbuilt).1⟩

end PaymentIdentifiers
