import PaymentIdentifiers.Proofs.CreditorIdentifier.Acceptance
import PaymentIdentifiers.Proofs.CheckDigits.Pair

/-!
# Building a creditor identifier from its parts

The checks run in this order: the business code, the form of the assembled text, the country. Only a refused business
code is quoted itself; all other rejections are about the national identifier. Behind the checks, building and reading
are inverse, and the business code plays no part in the check digits.
-/
namespace PaymentIdentifiers

namespace CreditorIdentifier

/-- The text whose check digits are computed when an identifier is built. -/
def assembled (c : CountryRef) (businessCode nationalId : Text) : Text :=
  c.alpha2 ++ "00" ++ businessCode.canonical ++ nationalId.canonical

/-- The exits of building an identifier: one for each check, and the identifier with computed digits. -/
inductive Builds (c : CountryRef) (businessCode nationalId : Text) : Except Rejection CreditorIdentifier → Prop
  | businessCode (h : isBusinessCode businessCode.canonical = false) :
      Builds c businessCode nationalId (.error ⟨.creditorIdentifier, businessCode, .notWellFormed⟩)
  | shape (hb : isBusinessCode businessCode.canonical = true)
      (h : hasShape (assembled c businessCode nationalId) = false) :
      Builds c businessCode nationalId (.error ⟨.creditorIdentifier, nationalId, .notWellFormed⟩)
  | unknownCountry (hb : isBusinessCode businessCode.canonical = true) (h : c.alpha2 ∉ Country.codes) :
      Builds c businessCode nationalId (.error ⟨.creditorIdentifier, nationalId, .unknownCountry⟩)
  | unsupportedCountry (hb : isBusinessCode businessCode.canonical = true)
      (hs : hasShape (assembled c businessCode nationalId) = true) (hc : c.alpha2 ∈ Country.codes) :
      Builds c businessCode nationalId (.error ⟨.creditorIdentifier, nationalId, .unsupportedCountry c.alpha2⟩)
  | built (hb : isBusinessCode businessCode.canonical = true)
      (hs : hasShape (assembled c businessCode nationalId) = true) (hc : c.alpha2 ∈ Country.codes)
      (x : CreditorIdentifier) : Builds c businessCode nationalId (.ok x)

theorem builds_fromParts (c : CountryRef) (businessCode nationalId : Text) :
    Builds c businessCode nationalId (fromParts c businessCode nationalId) := by
  fun_cases fromParts c businessCode nationalId with
  | case1 _ hb => exact .businessCode (by simpa using hb)
  | case2 _ _ _ _ hb hs =>
    rw [Bool.not_eq_true'] at hs
    exact .shape (by simpa using hb) hs
  | case3 _ _ _ _ hb hs cause hf =>
    rw [Bool.not_eq_true', Bool.not_eq_false] at hs
    rw [countryFault?_eq] at hf
    split at hf
    · obtain rfl := Option.some.inj hf
      exact .unknownCountry (by simpa using hb) ‹_›
    · split at hf
      · obtain rfl := Option.some.inj hf
        exact .unsupportedCountry (by simpa using hb) hs (not_not.1 ‹_›)
      · cases hf
  | case4 _ _ _ _ hb hs hf =>
    rw [Bool.not_eq_true', Bool.not_eq_false] at hs
    rw [countryFault?_eq] at hf
    split at hf
    · cases hf
    · exact .built (by simpa using hb) hs (not_not.1 ‹_›) _

/-- Three letters or digits of either case. -/
def IsTriple (t : Text) : Prop := t.length = 3 ∧ t.AllAlphanum

/-- One to twenty-eight letters or digits of either case. -/
def IsNational (t : Text) : Prop := t.AllAlphanum ∧ 1 ≤ t.length ∧ t.length ≤ 28

instance (t : Text) : Decidable (IsTriple t) := inferInstanceAs (Decidable (_ ∧ _))

instance (t : Text) : Decidable (IsNational t) := inferInstanceAs (Decidable (_ ∧ _))

/-- The text that the check digits are computed from. It lacks the business code. -/
def blank (code nationalId : Text) : Text := code ++ "00" ++ nationalId

/-- What building asks of a country code and the two canonical parts. -/
structure Buildable (code businessCode nationalId : Text) : Prop where
  member : code ∈ Agreement.singleEuroPaymentsArea.members
  triple : IsTriple businessCode
  national : IsNational nationalId

theorem IsTriple.asciiUpper {t : Text} (h : IsTriple t) : IsTriple t.asciiUpper := by
  refine ⟨(Text.length_asciiUpper t).trans h.1, fun c hc => ?_⟩
  obtain ⟨d, hd, rfl⟩ := List.mem_map.1 hc
  exact Text.isAlphanum_toUpper (h.2 d hd)

/-- In canonical form, three letters or digits are what a business code is tested for. -/
theorem isBusinessCode_canonical_iff (t : Text) : isBusinessCode t.canonical = true ↔ IsTriple t.canonical := by
  rw [isBusinessCode, Bool.and_eq_true, beq_iff_eq, List.all_eq_true, IsTriple, and_congr_right_iff]
  intro _
  constructor
  · exact fun h c hc => Text.isAlphanum_of_isUpperOrDigit (h c hc)
  · exact fun h c hc => Text.isUpperOrDigit_of_isAlphanum (h c hc) (Text.isCanonical_canonical t c hc).2

section
variable {code pair business national : Text} (hc : code.length = 2)
include hc

theorem withDigits_blank : CheckDigits.withDigits (blank code national) pair = code ++ pair ++ national :=
  CheckDigits.withDigits_zeroed hc

variable (hb : IsTriple business)
include hb

theorem withoutBusinessCode_pieces (hp : pair.length = 2) :
    withoutBusinessCode (code ++ pair ++ business ++ national) = code ++ pair ++ national := by
  rw [withoutBusinessCode, Text.drop_seven_pieces _ hc hp hb.1, List.append_assoc (code ++ pair),
    Text.take_four_pieces _ hc hp]

/-- The shape of an assembled text is about its country code and its national identifier. -/
theorem hasShape_assembled_iff (hp : Text.DigitPair pair) :
    hasShape (code ++ pair ++ business ++ national) = true ↔
      (∀ c ∈ code, c.isAlpha = true) ∧ IsNational national := by
  have hlen := hb.1
  rw [List.append_assoc (code ++ pair), hasShape_pieces_iff hc hp.1, List.length_append, Text.AllAlphanum,
    List.forall_mem_append]
  constructor
  · rintro ⟨hcode, -, ⟨-, hall⟩, hlo, hhi⟩
    exact ⟨hcode, hall, by omega, by omega⟩
  · rintro ⟨hcode, hall, hlo, hhi⟩
    exact ⟨hcode, hp.2, ⟨hb.2, hall⟩, by omega, by omega⟩

end

theorem isAlpha_of_mem_area {code : Text} (h : code ∈ Agreement.singleEuroPaymentsArea.members) :
    code.length = 2 ∧ ∀ c ∈ code, c.isAlpha = true := by
  have hlisted := Agreement.mem_codes_of_mem_area h
  exact ⟨Country.length_of_mem_codes hlisted, fun c hc => Text.isAlpha_iff.2 (.inl (Country.isUpper_of_mem hlisted hc))⟩

theorem fillable_blank {code national : Text} (h : code ∈ Agreement.singleEuroPaymentsArea.members)
    (hn : IsNational national) : CheckDigits.Fillable (blank code national) := by
  obtain ⟨hc, hcode⟩ := isAlpha_of_mem_area h
  exact CheckDigits.fillable_zeroed hc (fun c hmem => Text.isAlphanum_of_isAlpha (hcode c hmem)) hn.2.1 hn.1

/-- An assembled text passes the checks of reading exactly if its parts can be built upon and its digits are the
computed ones. -/
theorem passes_assembled_iff {code pair business national : Text} (hc : code.length = 2) (hp : Text.DigitPair pair)
    (hb : IsTriple business) : Passes (code ++ pair ++ business ++ national) ↔
      Buildable code business national ∧ pair = CheckDigits.digitsFor (blank code national) := by
  have hcode : (code ++ pair ++ business ++ national).take 2 = code := by
    rw [List.append_assoc (code ++ pair), Text.take_two_pieces _ hc]
  constructor
  · intro h
    have hmember := h.member
    rw [hcode] at hmember
    have hnational := ((hasShape_assembled_iff hc hb hp).1 h.formed).2
    have hvalid := h.valid
    rw [withoutBusinessCode_pieces hc hb hp.1, ← withDigits_blank hc,
      CheckDigits.validate_withDigits_iff_eq (fillable_blank hmember hnational) hp] at hvalid
    exact ⟨⟨hmember, hb, hnational⟩, hvalid⟩
  · rintro ⟨h, hdigits⟩
    refine ⟨(hasShape_assembled_iff hc hb hp).2 ⟨(isAlpha_of_mem_area h.member).2, h.national⟩, ?_, ?_⟩
    · rw [hcode]
      exact h.member
    · rw [withoutBusinessCode_pieces hc hb hp.1, ← withDigits_blank hc,
        CheckDigits.validate_withDigits_iff_eq (fillable_blank h.member h.national) hp]
      exact hdigits

section
variable {c : CountryRef} {b n : Text}

theorem fromParts_eq_ok_iff {x : CreditorIdentifier} : fromParts c b n = .ok x ↔
    x.text = c.alpha2 ++ CheckDigits.digitsFor (blank c.alpha2 n.canonical) ++ b.canonical ++ n.canonical ∧
      Buildable c.alpha2 b.canonical n.canonical := by
  have hshape (h : Buildable c.alpha2 b.canonical n.canonical) : hasShape (assembled c b n) = true := by
    obtain ⟨hc, hcode⟩ := isAlpha_of_mem_area h.member
    exact (hasShape_assembled_iff hc h.triple CheckDigits.digitPair_zeros).2 ⟨hcode, h.national⟩
  fun_cases fromParts c b n with
  | case1 _ hb =>
    rw [Bool.not_eq_true', Bool.eq_false_iff, ne_eq, isBusinessCode_canonical_iff] at hb
    exact iff_of_false (by simp [reject]) fun h => hb h.2.triple
  | case2 _ _ _ _ hb hs =>
    rw [Bool.not_eq_true', Bool.eq_false_iff] at hs
    exact iff_of_false (by simp [reject]) fun h => hs (hshape h.2)
  | case3 _ _ _ _ hb hs cause hf =>
    refine iff_of_false (by simp [reject]) fun h => ?_
    exact Option.some_ne_none cause (hf.symm.trans ((countryFault?_eq_none_iff c).2 h.2.member))
  | case4 _ _ _ _ hb hs hf =>
    rw [Bool.not_eq_true', Bool.not_eq_false, isBusinessCode_canonical_iff] at hb
    rw [Bool.not_eq_true', Bool.not_eq_false] at hs
    -- A country text of another length could move the pieces and still have the shape. It is no member, though.
    have hmember := (countryFault?_eq_none_iff c).1 hf
    have hc := (isAlpha_of_mem_area hmember).1
    have hnational := ((hasShape_assembled_iff hc hb CheckDigits.digitPair_zeros).1 hs).2
    rw [withoutBusinessCode_pieces hc hb rfl, ← blank]
    constructor
    · intro h
      obtain rfl := Except.ok.inj h
      exact ⟨rfl, hmember, hb, hnational⟩
    · rintro ⟨htext, -⟩
      rw [← htext]

theorem exists_fromParts_iff : (∃ x, fromParts c b n = .ok x) ↔ Buildable c.alpha2 b.canonical n.canonical := by
  constructor
  · rintro ⟨x, hx⟩
    exact (fromParts_eq_ok_iff.1 hx).2
  · exact fun h => ⟨⟨_⟩, fromParts_eq_ok_iff.2 ⟨rfl, h⟩⟩

theorem parts_of_fromParts {x : CreditorIdentifier} (h : fromParts c b n = .ok x) :
    x.countryCode = c.alpha2 ∧ x.businessCode = b.canonical ∧ x.nationalId = n.canonical ∧
      CheckDigits.calculate (blank c.alpha2 n.canonical) = .ok x.checkDigits := by
  obtain ⟨htext, hparts⟩ := fromParts_eq_ok_iff.1 h
  have hc := (isAlpha_of_mem_area hparts.member).1
  have hd := (CheckDigits.digitPair_digitsFor (blank c.alpha2 n.canonical)).1
  have hb := hparts.triple.1
  refine ⟨?_, ?_, ?_, ?_⟩
  · rw [countryCode, htext, List.append_assoc (c.alpha2 ++ _), Text.take_two_pieces _ hc]
  · rw [businessCode, htext, Text.slice_third_piece _ hc hd hb]
  · rw [nationalId, htext, Text.drop_seven_pieces _ hc hd hb]
  · rw [checkDigits, htext, List.append_assoc (c.alpha2 ++ _), Text.slice_pieces _ hc hd]
    exact CheckDigits.calculate_of_fillable (fillable_blank hparts.member hparts.national)

theorem digitPair_of_fromParts {x : CreditorIdentifier} (h : fromParts c b n = .ok x) :
    Text.DigitPair x.checkDigits ∧ x.checkDigits = CheckDigits.digitsFor (blank c.alpha2 n.canonical) := by
  have hparts := (fromParts_eq_ok_iff.1 h).2
  have hdigits := (parts_of_fromParts h).2.2.2
  rw [CheckDigits.calculate_of_fillable (fillable_blank hparts.member hparts.national)] at hdigits
  have heq := (Except.ok.inj hdigits).symm
  exact ⟨heq ▸ CheckDigits.digitPair_digitsFor _, heq⟩

/-- Reading code, digits, business code and national identifier gives what is built from the parts, if the digits are
the computed ones. -/
theorem parse_assembled_iff {d : Text} {y : CreditorIdentifier} (hc : c.alpha2.length = 2) (hd : Text.DigitPair d)
    (hb : IsTriple b.canonical) :
    parse (c.alpha2 ++ d ++ b ++ n) = .ok y ↔ fromParts c b n = .ok y ∧ d = y.checkDigits := by
  have hcan : (c.alpha2 ++ d ++ b ++ n).canonical = c.alpha2 ++ d ++ b.canonical ++ n.canonical := by
    rw [Text.canonical_append, CountryRef.canonical_front hc hd.2]
  rw [parse_eq_ok_iff, hcan, passes_assembled_iff hc hd hb]
  constructor
  -- Both sides put the same digits between the same pieces, so each is rewritten to the computed digits.
  · rintro ⟨htext, hparts, hdigits⟩
    rw [hdigits] at htext
    have hbuilt := fromParts_eq_ok_iff.2 ⟨htext, hparts⟩
    exact ⟨hbuilt, hdigits.trans (digitPair_of_fromParts hbuilt).2.symm⟩
  · rintro ⟨hbuilt, hdigits⟩
    obtain ⟨htext, hparts⟩ := fromParts_eq_ok_iff.1 hbuilt
    have hcomputed := hdigits.trans (digitPair_of_fromParts hbuilt).2
    rw [hcomputed]
    exact ⟨htext, hparts, rfl⟩

theorem text_eq_append (x : CreditorIdentifier) :
    x.text = x.countryCode ++ x.checkDigits ++ x.businessCode ++ x.nationalId := by
  rw [List.append_assoc, businessCode, nationalId, Text.slice_append_drop_seven]
  exact (Text.take_append_slice_append_drop x.text).symm

/-- Building does not distinguish the parts from their canonical forms, unless they are rejected. -/
theorem fromParts_canonical_eq_ok_iff {x : CreditorIdentifier} :
    fromParts c b.canonical n.canonical = .ok x ↔ fromParts c b n = .ok x := by
  rw [fromParts_eq_ok_iff, fromParts_eq_ok_iff, (Text.isCanonical_canonical b).canonical_eq,
    (Text.isCanonical_canonical n).canonical_eq]

theorem parse_text_of_fromParts {x : CreditorIdentifier} (h : fromParts c b n = .ok x) : parse x.text = .ok x := by
  obtain ⟨hcode, hbusiness, hnational, -⟩ := parts_of_fromParts h
  have hparts := (fromParts_eq_ok_iff.1 h).2
  have htriple : IsTriple b.canonical.canonical := by
    rw [(Text.isCanonical_canonical b).canonical_eq]
    exact hparts.triple
  rw [text_eq_append, hcode, hbusiness, hnational]
  exact (parse_assembled_iff (isAlpha_of_mem_area hparts.member).1 (digitPair_of_fromParts h).1 htriple).2
    ⟨fromParts_canonical_eq_ok_iff.2 h, rfl⟩

/-- The business code is not looked at, neither for success nor for the check digits. -/
theorem fromParts_of_other_business {b' : Text} {x : CreditorIdentifier} (hb' : IsTriple b'.canonical)
    (h : fromParts c b n = .ok x) : ∃ y, fromParts c b' n = .ok y ∧ y.checkDigits = x.checkDigits := by
  have hparts := (fromParts_eq_ok_iff.1 h).2
  obtain ⟨y, hy⟩ := exists_fromParts_iff.2 ⟨hparts.member, hb', hparts.national⟩
  exact ⟨y, hy, (digitPair_of_fromParts hy).2.trans (digitPair_of_fromParts h).2.symm⟩

end

theorem digitPair_of_hasShape {t : Text} (h : hasShape t = true) : Text.DigitPair (t.slice 2 4) := by
  have hlong := eight_le_length_of_hasShape h
  have hcode : (t.take 2).length = 2 := List.length_take_of_le (by omega)
  have hpair : (t.slice 2 4).length = 2 := by
    rw [Text.length_slice]
    omega
  rw [← Text.take_append_slice_append_drop t, hasShape_pieces_iff hcode hpair] at h
  exact ⟨hpair, h.2.1⟩

theorem isTriple_of_hasShape {t : Text} (h : hasShape t = true) : IsTriple (t.slice 4 7) := by
  have hlong := eight_le_length_of_hasShape h
  refine ⟨?_, fun c hc => allAlphanum_of_hasShape h c (List.mem_of_mem_take (List.mem_of_mem_drop hc))⟩
  rw [Text.length_slice]
  omega

theorem IsTriple.canonical {t : Text} (h : IsTriple t) : IsTriple t.canonical := by
  rw [h.2.canonical_eq]
  exact h.asciiUpper

/-- What was read is built from its parts. -/
theorem fromParts_of_parse {v : Text} {y : CreditorIdentifier} (h : parse v = .ok y) :
    fromParts (.code y.countryCode) y.businessCode y.nationalId = .ok y := by
  obtain ⟨htext, hpasses⟩ := parse_eq_ok_iff.1 h
  rw [← htext] at hpasses
  have hcan : Text.IsCanonical y.text := htext ▸ Text.isCanonical_canonical v
  have hcode : (CountryRef.code y.countryCode).alpha2 = y.countryCode := CountryRef.alpha2_code (hcan.take 2)
  have hc : (CountryRef.code y.countryCode).alpha2.length = 2 := by
    rw [hcode]
    exact (isAlpha_of_mem_area hpasses.member).1
  have hread := parse_text_of_parse h
  rw [text_eq_append, ← hcode] at hread
  exact ((parse_assembled_iff hc (digitPair_of_hasShape hpasses.formed)
    (isTriple_of_hasShape hpasses.formed).canonical).1 hread).1

/-- Another business code in the place of the one that was read makes another identifier. -/
theorem parse_replaced_business {v b : Text} {y : CreditorIdentifier} (hb : IsTriple b) (h : parse v = .ok y) :
    ∃ z, parse (y.text.take 4 ++ b ++ y.text.drop 7) = .ok z ∧ z.checkDigits = y.checkDigits := by
  have hbuilt := fromParts_of_parse h
  obtain ⟨z, hz, hdigits⟩ := fromParts_of_other_business hb.canonical hbuilt
  have hmember := (fromParts_eq_ok_iff.1 hz).2.member
  have hcode := (parts_of_fromParts hbuilt).1
  have hfront : y.text.take 4 = y.countryCode ++ y.checkDigits := by
    have := List.take_append_drop 2 (y.text.take 4)
    rw [List.take_take] at this
    exact this.symm
  refine ⟨z, ?_, hdigits⟩
  rw [hfront, hcode]
  exact (parse_assembled_iff (isAlpha_of_mem_area hmember).1 (digitPair_of_fromParts hbuilt).1 hb.canonical).2
    ⟨hz, hdigits.symm⟩

/-- Building and reading are inverse, and the business code is never looked at: what is built has the canonical parts
and is read again, what is read is built from its parts, and one business code in place of another changes neither
success nor the check digits. -/
theorem fromParts_parse_roundtrip :
    (∀ (c : CountryRef) (b n : Text) (x : CreditorIdentifier), fromParts c b n = .ok x →
      x.countryCode = c.alpha2 ∧ x.businessCode = b.canonical ∧ x.nationalId = n.canonical ∧
        x.businessCode.length = 3 ∧ (1 ≤ x.nationalId.length ∧ x.nationalId.length ≤ 28) ∧
        CheckDigits.calculate (c.alpha2 ++ "00" ++ n.canonical) = .ok x.checkDigits ∧ parse x.text = .ok x) ∧
    (∀ (v : Text) (y : CreditorIdentifier), parse v = .ok y →
      fromParts (.code y.countryCode) y.businessCode y.nationalId = .ok y) ∧
    (∀ (c : CountryRef) (n b b' : Text), IsTriple b → IsTriple b' →
      ((∃ x, fromParts c b n = .ok x) ↔ ∃ x, fromParts c b' n = .ok x) ∧
      ∀ x y, fromParts c b n = .ok x → fromParts c b' n = .ok y → x.checkDigits = y.checkDigits) ∧
    (∀ (v b : Text) (y : CreditorIdentifier), IsTriple b → parse v = .ok y →
      ∃ z, parse (y.text.take 4 ++ b ++ y.text.drop 7) = .ok z) := by
  refine ⟨fun c b n x hx => ?_, fun v y hy => fromParts_of_parse hy, fun c n b b' hb hb' => ⟨?_, fun x y hx hy => ?_⟩,
    fun v b y hb hy => ?_⟩
  · obtain ⟨hcode, hbusiness, hnational, hdigits⟩ := parts_of_fromParts hx
    have hparts := (fromParts_eq_ok_iff.1 hx).2
    refine ⟨hcode, hbusiness, hnational, ?_, ?_, hdigits, parse_text_of_fromParts hx⟩
    · rw [hbusiness]
      exact hparts.triple.1
    · rw [hnational]
      exact hparts.national.2
  · constructor
    · rintro ⟨x, hx⟩
      obtain ⟨y, hy, -⟩ := fromParts_of_other_business hb'.canonical hx
      exact ⟨y, hy⟩
    · rintro ⟨x, hx⟩
      obtain ⟨y, hy, -⟩ := fromParts_of_other_business hb.canonical hx
      exact ⟨y, hy⟩
  · exact (digitPair_of_fromParts hx).2.trans (digitPair_of_fromParts hy).2.symm
  · obtain ⟨z, hz, -⟩ := parse_replaced_business hb hy
    exact ⟨z, hz⟩

/-- A German creditor, built from a code with blanks and a lower-case business code, and with another business code. -/
theorem fromParts_parse_roundtrip_de :
    fromParts (.code " de ") "zzz" "0999 9999 999" = .ok ⟨"DE98ZZZ09999999999"⟩ ∧
      parse "DE98ZZZ09999999999" = .ok ⟨"DE98ZZZ09999999999"⟩ ∧
      fromParts (.code "DE") "ZZZ" "09999999999" = .ok ⟨"DE98ZZZ09999999999"⟩ ∧
      IsTriple "zzz" ∧ IsTriple "a1B" ∧ (∃ x, fromParts (.code " de ") "a1B" "0999 9999 999" = .ok x) ∧
      ∃ z, parse "DE98a1B09999999999" = .ok z := by
  have hbuilt : fromParts (.code " de ") "zzz" "0999 9999 999" = .ok ⟨"DE98ZZZ09999999999"⟩ := by decide +kernel
  have hzzz : IsTriple "zzz" := by decide
  have hother : IsTriple "a1B" := by decide
  obtain ⟨hinv, hback, hbusiness, hreplaced⟩ := fromParts_parse_roundtrip
  obtain ⟨-, -, -, -, -, -, hread⟩ := hinv _ _ _ _ hbuilt
  exact ⟨hbuilt, hread, hback _ _ hread, hzzz, hother, (hbusiness _ _ _ _ hzzz hother).1.1 ⟨_, hbuilt⟩,
    hreplaced _ _ _ hother hread⟩

end CreditorIdentifier

end PaymentIdentifiers
