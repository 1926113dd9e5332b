import PaymentIdentifiers.Proofs.Iban.Acceptance

/-!
# Building an account number from its parts

Reading a country code, a pair of digits and an account number gives what is built from the country and the account
number, provided that the digits are the computed ones, and nothing otherwise. So building and reading are inverse.
-/
namespace PaymentIdentifiers

namespace Iban

/-- The text whose check digits are computed when an account number is built. -/
def blank (c : CountryRef) (b : Text) : Text := c.alpha2 ++ "00" ++ b.canonical

/-- What building asks of a country and a canonical account number. -/
structure Buildable (c : CountryRef) (t : Text) (l : Bban.Layout) : Prop where
  listed : c.alpha2 ∈ Country.codes
  layout : Bban.layoutOf c.alpha2 = some l
  accepted : l.accepts t = true

/-- The exits of building an account number: one for each check, and the account number with computed digits. -/
inductive Builds (c : CountryRef) (b : Text) : Except Rejection Iban → Prop
  | unknownCountry (h : c.alpha2 ∉ Country.codes) : Builds c b (.error ⟨.iban, c.alpha2, .unknownCountry⟩)
  | unsupportedCountry (hc : c.alpha2 ∈ Country.codes) (h : Bban.layoutOf c.alpha2 = none) :
      Builds c b (.error ⟨.iban, b, .unsupportedCountry c.alpha2⟩)
  | invalidStructure (hc : c.alpha2 ∈ Country.codes) (l : Bban.Layout) (hl : Bban.layoutOf c.alpha2 = some l)
      (h : l.accepts b.canonical = false) : Builds c b (.error ⟨.iban, b, .invalidStructure l.country⟩)
  | built (l : Bban.Layout) (h : Buildable c b.canonical l) :
      Builds c b (.ok ⟨c.alpha2 ++ CheckDigits.digitsFor (blank c b) ++ b.canonical⟩)

theorem builds_fromParts (c : CountryRef) (b : Text) : Builds c b (fromParts c b) := by
  have hlisted (h : ¬ (Country.ofAlpha2? c.alpha2).isNone = true) : c.alpha2 ∈ Country.codes :=
    not_not.1 (mt c.ofAlpha2?_isNone_iff.2 h)
  fun_cases fromParts c b with
  | case1 _ hc => exact .unknownCountry (c.ofAlpha2?_isNone_iff.1 hc)
  | case2 _ hc hl => exact .unsupportedCountry (hlisted hc) hl
  | case3 _ hc l hl _ ha => exact .invalidStructure (hlisted hc) l hl (by simpa using ha)
  | case4 _ hc l hl _ ha => exact .built l ⟨hlisted hc, hl, by simpa using ha⟩

theorem fromParts_eq_ok_iff {c : CountryRef} {b : Text} {x : Iban} :
    fromParts c b = .ok x ↔ x.text = c.alpha2 ++ CheckDigits.digitsFor (blank c b) ++ b.canonical ∧
      ∃ l, Buildable c b.canonical l := by
  have hbuilds := builds_fromParts c b
  generalize fromParts c b = r at hbuilds
  constructor
  · rintro rfl
    cases hbuilds with
    | built l h => exact ⟨rfl, l, h⟩
  · rintro ⟨htext, l, h⟩
    cases hbuilds with
    | unknownCountry hc => exact absurd h.listed hc
    | unsupportedCountry hc hl => simp [h.layout] at hl
    | invalidStructure hc k hk ha =>
      obtain rfl := Option.some.inj (h.layout.symm.trans hk)
      simp [h.accepted] at ha
    | built k hk => rw [← htext]

section
variable {c : CountryRef} {b d : Text}

theorem withDigits_blank (hc : c.alpha2.length = 2) :
    CheckDigits.withDigits (blank c b) d = c.alpha2 ++ d ++ b.canonical :=
  CheckDigits.withDigits_zeroed hc

/-- The check digits of an account number that follows the format of its country can be computed. -/
theorem fillable_blank {l : Bban.Layout} (hl : Bban.layoutOf c.alpha2 = some l) (ha : l.accepts b.canonical = true) :
    CheckDigits.Fillable (blank c b) := by
  have hlisted := Bban.mem_countryCodes_of_layoutOf hl
  have hbody := Bban.Layout.isUpperOrDigit_of_accepts hl ha (Text.isCanonical_canonical b)
  exact CheckDigits.fillable_zeroed (Country.length_of_mem_codes hlisted)
    (fun x hx => Text.isAlphanum_of_isUpper (Country.isUpper_of_mem hlisted hx))
    (List.length_pos_of_ne_nil (Bban.Layout.ne_nil_of_accepts hl ha))
    fun x hx => Text.isAlphanum_of_isUpperOrDigit (hbody x hx)

/-- Reading code, digits and account number gives what is built from code and account number, if the digits fit. -/
theorem parse_parts_iff {y : Iban} (hc : c.alpha2.length = 2) (hd : Text.DigitPair d) :
    parse (c.alpha2 ++ d ++ b) = .ok y ↔ fromParts c b = .ok y ∧ d = y.checkDigits := by
  rw [parse_eq_ok_iff, fromParts_eq_ok_iff, CountryRef.canonical_front hc hd.2]
  constructor
  · rintro ⟨htext, l, h⟩
    have hlayout := h.layout
    have haccepted := h.accepted
    rw [Text.take_two_pieces _ hc] at hlayout
    rw [Text.drop_four_pieces _ hc hd.1] at haccepted
    have hvalid := h.valid
    rw [← withDigits_blank hc, CheckDigits.validate_withDigits_iff_eq (fillable_blank hlayout haccepted) hd] at hvalid
    refine ⟨⟨?_, l, ⟨Bban.mem_countryCodes_of_layoutOf hlayout, hlayout, haccepted⟩⟩, ?_⟩
    · rw [htext, ← hvalid]
    · rw [checkDigits, htext, Text.slice_pieces _ hc hd.1]
  · rintro ⟨⟨htext, l, h⟩, hdigits⟩
    rw [checkDigits, htext, Text.slice_pieces _ hc (CheckDigits.digitPair_digitsFor _).1] at hdigits
    have hfill := fillable_blank h.layout h.accepted
    have hbody := Bban.Layout.isUpperOrDigit_of_accepts h.layout h.accepted (Text.isCanonical_canonical b)
    have hne := Bban.Layout.ne_nil_of_accepts h.layout h.accepted
    refine ⟨by rw [htext, hdigits], l, wellFormed_append h.listed hd hne hbody, ?_, ?_, ?_, ?_⟩
    · rw [Text.take_two_pieces _ hc]
      exact h.listed
    · rw [Text.take_two_pieces _ hc]
      exact h.layout
    · rw [Text.drop_four_pieces _ hc hd.1]
      exact h.accepted
    · rw [← withDigits_blank hc, CheckDigits.validate_withDigits_iff_eq hfill hd]
      exact hdigits

/-- Building does not distinguish an account number from its canonical form, unless it is rejected. -/
theorem fromParts_canonical_eq_ok_iff {x : Iban} : fromParts c b.canonical = .ok x ↔ fromParts c b = .ok x := by
  rw [fromParts_eq_ok_iff, fromParts_eq_ok_iff, blank, blank, (Text.isCanonical_canonical b).canonical_eq]

theorem parts_of_fromParts {x : Iban} (h : fromParts c b = .ok x) :
    c.alpha2 ∈ Country.codes ∧ x.countryCode = c.alpha2 ∧ x.bban = b.canonical ∧
      CheckDigits.calculate (blank c b) = .ok x.checkDigits := by
  obtain ⟨htext, l, hl⟩ := fromParts_eq_ok_iff.1 h
  have hc := Country.length_of_mem_codes hl.listed
  have hd := CheckDigits.digitPair_digitsFor (blank c b)
  refine ⟨hl.listed, ?_, ?_, ?_⟩
  · rw [countryCode, htext, Text.take_two_pieces _ hc]
  · rw [bban, htext, Text.drop_four_pieces _ hc hd.1]
  · rw [checkDigits, htext, Text.slice_pieces _ hc hd.1]
    exact CheckDigits.calculate_of_fillable (fillable_blank hl.layout hl.accepted)

/-- What is built is what is read from the code, the check digits and the account number as it was given. -/
theorem parse_parts_of_fromParts {x : Iban} (h : fromParts c b = .ok x) :
    Text.DigitPair x.checkDigits ∧ parse (c.alpha2 ++ x.checkDigits ++ b) = .ok x := by
  obtain ⟨htext, l, hl⟩ := fromParts_eq_ok_iff.1 h
  have hc := Country.length_of_mem_codes hl.listed
  have hd : Text.DigitPair x.checkDigits := by
    rw [checkDigits, htext, Text.slice_pieces _ hc (CheckDigits.digitPair_digitsFor _).1]
    exact CheckDigits.digitPair_digitsFor _
  exact ⟨hd, (parse_parts_iff hc hd).2 ⟨h, rfl⟩⟩

theorem text_eq_append (x : Iban) : x.text = x.countryCode ++ x.checkDigits ++ x.bban :=
  (Text.take_append_slice_append_drop x.text).symm

theorem parse_text_of_fromParts {x : Iban} (h : fromParts c b = .ok x) : parse x.text = .ok x := by
  obtain ⟨-, hcode, hbban, -⟩ := parts_of_fromParts h
  have hread := (parse_parts_of_fromParts (fromParts_canonical_eq_ok_iff.2 h)).2
  rw [text_eq_append, hcode, hbban]
  exact hread

theorem fromParts_of_parse {v : Text} {y : Iban} (h : parse v = .ok y) :
    fromParts (.code y.countryCode) y.bban = .ok y := by
  obtain ⟨htext, l, hl⟩ := parse_eq_ok_iff.1 h
  have hcan : Text.IsCanonical y.text := htext ▸ Text.isCanonical_canonical v
  have hcode : (CountryRef.code y.countryCode).alpha2 = y.countryCode := CountryRef.alpha2_code (hcan.take 2)
  have hc : (CountryRef.code y.countryCode).alpha2.length = 2 := by
    rw [hcode, countryCode, htext]
    exact Country.length_of_mem_codes hl.listed
  have hd : Text.DigitPair y.checkDigits := by
    rw [checkDigits, htext]
    exact digitPair_of_wellFormed hl.formed
  -- The text of `y` is read again, and it is made of the parts of `y`.
  have hread := parse_text_of_parse h
  rw [text_eq_append, ← hcode] at hread
  exact ((parse_parts_iff hc hd).1 hread).1

theorem exists_fromParts_iff (hc : c.alpha2.length = 2) :
    (∃ x, fromParts c b = .ok x) ↔ ∃ d, Text.DigitPair d ∧ ∃ y, parse (c.alpha2 ++ d ++ b) = .ok y := by
  constructor
  · rintro ⟨x, hx⟩
    obtain ⟨hd, hread⟩ := parse_parts_of_fromParts hx
    exact ⟨x.checkDigits, hd, x, hread⟩
  · rintro ⟨d, hd, y, hy⟩
    exact ⟨y, ((parse_parts_iff hc hd).1 hy).1⟩

/-- At most one pair of digits can stand between a code and an account number. -/
theorem digitPair_unique {e : Text} {y z : Iban} (hc : c.alpha2.length = 2) (hd : Text.DigitPair d)
    (he : Text.DigitPair e) (hy : parse (c.alpha2 ++ d ++ b) = .ok y) (hz : parse (c.alpha2 ++ e ++ b) = .ok z) :
    d = e := by
  obtain ⟨hbuilt, hdigits⟩ := (parse_parts_iff hc hd).1 hy
  obtain ⟨hother, hdigits'⟩ := (parse_parts_iff hc he).1 hz
  rw [hdigits, hdigits', Except.ok.inj (hbuilt.symm.trans hother)]

end

/-- Building and reading are inverse: what is built is read again, what is read is built from its parts, and a country
and an account number can be built exactly if some pair of digits between them is read, which is then the only one. -/
theorem fromParts_parse_inverse :
    (∀ (c : CountryRef) (b : Text) (x : Iban), fromParts c b = .ok x →
      c.alpha2 ∈ Country.codes ∧ x.countryCode = c.alpha2 ∧ x.bban = b.canonical ∧
        CheckDigits.calculate (c.alpha2 ++ "00" ++ b.canonical) = .ok x.checkDigits ∧ parse x.text = .ok x) ∧
    (∀ (v : Text) (y : Iban), parse v = .ok y → fromParts (.code y.countryCode) y.bban = .ok y) ∧
    (∀ (c : CountryRef) (b : Text), c.alpha2.length = 2 →
      ((∃ x, fromParts c b = .ok x) ↔ ∃ d, Text.DigitPair d ∧ ∃ y, parse (c.alpha2 ++ d ++ b) = .ok y) ∧
      ∀ d e, Text.DigitPair d → Text.DigitPair e → (∃ y, parse (c.alpha2 ++ d ++ b) = .ok y) →
        (∃ y, parse (c.alpha2 ++ e ++ b) = .ok y) → d = e) := by
  refine ⟨fun c b x hx => ?_, fun v y hy => fromParts_of_parse hy, fun c b hc => ⟨exists_fromParts_iff hc, ?_⟩⟩
  · obtain ⟨hlisted, hcode, hbban, hdigits⟩ := parts_of_fromParts hx
    exact ⟨hlisted, hcode, hbban, hdigits, parse_text_of_fromParts hx⟩
  · rintro d e hd he ⟨y, hy⟩ ⟨z, hz⟩
    exact digitPair_unique hc hd he hy hz

/-- The account number with this country and these digits is accepted, as the format of Norway shows. -/
theorem fromParts_no : fromParts (.code " no ") "8601 1117 947" = .ok ⟨"NO9386011117947"⟩ := by
  have hcode : (CountryRef.code " no ").alpha2 = "NO" := by decide +kernel
  have hcan : Text.canonical "8601 1117 947" = "86011117947" := by decide +kernel
  obtain ⟨l, hl, ha⟩ := exists_layout_no
  rw [fromParts_eq_ok_iff, blank, hcode, hcan]
  refine ⟨by decide +kernel, l, ?_, ?_, ha⟩
  · rw [hcode]
    decide +kernel
  · rw [hcode]
    exact hl

/-- A Norwegian account number, built from a code with blanks and an account number with spaces. -/
theorem fromParts_parse_inverse_no :
    fromParts (.code " no ") "8601 1117 947" = .ok ⟨"NO9386011117947"⟩ ∧
      parse "NO9386011117947" = .ok ⟨"NO9386011117947"⟩ ∧
      fromParts (.code "NO") "86011117947" = .ok ⟨"NO9386011117947"⟩ ∧
      ∀ d, Text.DigitPair d → (∃ y, parse ("NO" ++ d ++ "8601 1117 947") = .ok y) → d = "93" := by
  have hcode : (CountryRef.code " no ").alpha2 = "NO" := by decide +kernel
  have hbuilt := fromParts_no
  obtain ⟨hinv, hback, hpair⟩ := fromParts_parse_inverse
  obtain ⟨-, -, -, -, hread⟩ := hinv _ _ _ hbuilt
  have hc : (CountryRef.code " no ").alpha2.length = 2 := by
    rw [hcode]
    rfl
  have hagain := hback _ _ hread
  rw [show countryCode ⟨"NO9386011117947"⟩ = "NO" by decide +kernel,
    show bban ⟨"NO9386011117947"⟩ = "86011117947" by decide +kernel] at hagain
  obtain ⟨hdigits, hparts⟩ := parse_parts_of_fromParts hbuilt
  refine ⟨hbuilt, hread, hagain, fun d hd hy => ?_⟩
  exact (hpair _ _ hc).2 d "93" hd hdigits (by rw [hcode]; exact hy) ⟨_, hparts⟩

end Iban
end PaymentIdentifiers
