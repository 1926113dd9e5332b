import PaymentIdentifiers.Iban
import PaymentIdentifiers.Proofs.Bban.Registration
import PaymentIdentifiers.Proofs.CheckDigits.Pair
import PaymentIdentifiers.Proofs.Swift.Matching
import PaymentIdentifiers.Proofs.Text.Canonical

/-!
# Which texts are account numbers

The five checks of reading an account number come down to one description of its canonical text: a registered
country, check digits from 02 to 98, an account number in the format of the country, and a number that leaves the
remainder one. Of several defects the first in the order of the checks is reported, with the text as it was given.
-/
namespace PaymentIdentifiers

namespace Bban

/-- The pattern of a structure of the registry is the compiled expression of its row. -/
theorem layoutOf_pattern {code : Text} {l : Layout} (h : layoutOf code = some l) :
    ∃ row ∈ tableRows, code ∈ row.codes ∧ Swift.Pattern.compile row.expression = .ok l.pattern := by
  obtain ⟨row, hrow, hcode, hl⟩ := layoutOf_eq_some_iff.1 h
  exact ⟨row, hrow, hcode, (Row.layout_eq_ok_iff.1 hl).1⟩

theorem Layout.length_of_accepts {code : Text} {l : Layout} (h : layoutOf code = some l) {t : Text}
    (ht : l.accepts t = true) : t.length = l.bbanLength := by
  obtain ⟨row, -, -, hp⟩ := layoutOf_pattern h
  exact Swift.Pattern.length_of_accepts hp ht

theorem Layout.ne_nil_of_accepts {code : Text} {l : Layout} (h : layoutOf code = some l) {t : Text}
    (ht : l.accepts t = true) : t ≠ [] := by
  obtain ⟨row, -, -, hp⟩ := layoutOf_pattern h
  have hlen := Swift.Pattern.length_of_accepts hp ht
  have hpos := Swift.Pattern.length_pos hp
  rintro rfl
  simp only [List.length_nil] at hlen
  omega

/-- A canonical account number that a structure accepts has upper-case letters and digits only. -/
theorem Layout.isUpperOrDigit_of_accepts {code : Text} {l : Layout} (h : layoutOf code = some l) {t : Text}
    (ht : l.accepts t = true) (hcan : Text.IsCanonical t) : ∀ c ∈ t, Text.isUpperOrDigit c = true := by
  intro c hc
  obtain ⟨row, -, -, hp⟩ := layoutOf_pattern h
  obtain ⟨hblank, hlower⟩ := hcan c hc
  rcases Swift.Pattern.isAlphanum_of_accepts hp ht hc with ha | rfl
  · exact Text.isUpperOrDigit_of_isAlphanum ha hlower
  · exact absurd hblank (by decide)

/-- Every code of the registry is a country of the table of countries. Both tables are in ascending order, so the
countries of the rows form a sublist. -/
theorem mem_countryCodes_of_mem_row {row : Row} {code : Text} (hrow : row ∈ tableRows) (hcode : code ∈ row.codes) :
    code ∈ Country.codes := by
  have hcountries : (tableRows.map Row.country).isSublist Country.codes = true := by decide +kernel
  have hsubdivisions :
      tableRows.all (fun row => row.subdivisions.all fun code => Country.codes.contains code) = true := by
    decide +kernel
  rcases List.mem_cons.1 hcode with rfl | hsub
  · exact (List.isSublist_iff_sublist.1 hcountries).subset (List.mem_map_of_mem hrow)
  · simpa using List.all_eq_true.1 (List.all_eq_true.1 hsubdivisions row hrow) code hsub

theorem mem_countryCodes_of_layoutOf {code : Text} {l : Layout} (h : layoutOf code = some l) :
    code ∈ Country.codes := by
  obtain ⟨row, hrow, hcode, -⟩ := layoutOf_pattern h
  exact mem_countryCodes_of_mem_row hrow hcode

theorem mem_codes_iff_layoutOf {code : Text} : code ∈ Registry.standard.codes ↔ ∃ l, layoutOf code = some l := by
  rw [← Option.ne_none_iff_exists', ne_eq, layoutOf, Registry.find?_eq_none_iff, Decidable.not_not]

theorem exists_layout_of_mem_row {row : Row} {code : Text} (hrow : row ∈ tableRows) (hcode : code ∈ row.codes) :
    ∃ l, layoutOf code = some l ∧ Swift.Pattern.compile row.expression = .ok l.pattern := by
  obtain ⟨l, hl⟩ := (Registry.build_eq_ok_iff.1 Registry.build_tableRows).1 row hrow
  exact ⟨l, layoutOf_eq_some_iff.2 ⟨row, hrow, hcode, hl⟩, (Row.layout_eq_ok_iff.1 hl).1⟩

end Bban

namespace Iban

/-- Two letters, two digits and at least one letter or digit. -/
def IsFormed (t : Text) : Prop :=
  ∃ a b c d rest, t = a :: b :: c :: d :: rest ∧ a.isAlpha = true ∧ b.isAlpha = true ∧ c.isDigit = true ∧
    d.isDigit = true ∧ rest ≠ [] ∧ ∀ x ∈ rest, x.isAlphanum = true

/-- The account number in the format of a country that has the code, cut into the tokens of its expression. -/
def FollowsFormat (t : Text) : Prop :=
  ∃ row ∈ Bban.tableRows, t.take 2 ∈ row.codes ∧ ∃ ts, Swift.Token.Spells ts row.expression ∧
    t.length = 4 + (ts.map Swift.Token.size).sum ∧ Swift.Token.Describe ts (t.drop 4)

/-- The check digits are a pair from 02 to 98. -/
def HasPair (t : Text) : Prop :=
  Text.DigitPair (t.slice 2 4) ∧ 2 ≤ Text.toNat (t.slice 2 4) ∧ Text.toNat (t.slice 2 4) ≤ 98

/-- What a canonical text has to be for an account number. -/
structure Genuine (t : Text) : Prop where
  registered : t.take 2 ∈ Bban.Registry.standard.codes
  pair : HasPair t
  format : FollowsFormat t
  congruent : CheckDigits.number t % 97 = 1

/-- The first defect of a text, in the order of the checks. -/
def FirstDefect (t : Text) : Reason → Prop
  | .notWellFormed => ¬ IsFormed t
  | .unknownCountry => IsFormed t ∧ t.take 2 ∉ Country.codes
  | .unsupportedCountry => IsFormed t ∧ t.take 2 ∈ Country.codes ∧ t.take 2 ∉ Bban.Registry.standard.codes
  | .invalidStructure =>
    IsFormed t ∧ t.take 2 ∈ Country.codes ∧ t.take 2 ∈ Bban.Registry.standard.codes ∧ ¬ FollowsFormat t
  | .incorrectCheckDigit =>
    IsFormed t ∧ t.take 2 ∈ Country.codes ∧ t.take 2 ∈ Bban.Registry.standard.codes ∧ FollowsFormat t ∧
      ¬ (HasPair t ∧ CheckDigits.number t % 97 = 1)

/-- What the five checks ask for. -/
structure Passes (t : Text) (l : Bban.Layout) : Prop where
  formed : wellFormed t = true
  listed : t.take 2 ∈ Country.codes
  layout : Bban.layoutOf (t.take 2) = some l
  accepted : l.accepts (t.drop 4) = true
  valid : CheckDigits.validate t = true

theorem wellFormed_iff_fits {t : Text} : wellFormed t = true ↔
    ∃ a b c d rest, t = a :: b :: c :: d :: rest ∧ a.isUpper = true ∧ b.isUpper = true ∧ c.isDigit = true ∧
      d.isDigit = true ∧ rest ≠ [] ∧ ∀ x ∈ rest, Text.isUpperOrDigit x = true := by
  constructor
  · intro h
    rw [wellFormed, Bool.and_eq_true, decide_eq_true_eq] at h
    obtain ⟨hfits, hlen⟩ := h
    match t, hfits, hlen with
    | a :: b :: c :: d :: rest, hfits, hlen =>
      simp only [Text.fits, Bool.and_eq_true, List.all_eq_true] at hfits
      obtain ⟨ha, hb, hc, hd, hrest⟩ := hfits
      refine ⟨a, b, c, d, rest, rfl, ha, hb, hc, hd, ?_, hrest⟩
      rintro rfl
      simp at hlen
  · rintro ⟨a, b, c, d, rest, rfl, ha, hb, hc, hd, hne, hrest⟩
    have hpos := List.length_pos_of_ne_nil hne
    simp only [wellFormed, Text.fits, ha, hb, hc, hd, Bool.true_and, Bool.and_eq_true, List.all_eq_true,
      decide_eq_true_eq, List.length_cons]
    exact ⟨hrest, by omega⟩

theorem isUpper_of_isAlpha {c : Char} (h : c.isAlpha = true) (hl : c.isLower = false) : c.isUpper = true := by
  simpa [Text.isAlpha_iff, hl] using h

/-- On canonical texts, the letters asked for are upper-case letters. -/
theorem wellFormed_iff_isFormed {t : Text} (h : Text.IsCanonical t) : wellFormed t = true ↔ IsFormed t := by
  rw [wellFormed_iff_fits]
  constructor
  · rintro ⟨a, b, c, d, rest, rfl, ha, hb, hc, hd, hne, hrest⟩
    exact ⟨a, b, c, d, rest, rfl, Text.isAlpha_iff.2 (.inl ha), Text.isAlpha_iff.2 (.inl hb), hc, hd, hne,
      fun x hx => Text.isAlphanum_of_isUpperOrDigit (hrest x hx)⟩
  · rintro ⟨a, b, c, d, rest, rfl, ha, hb, hc, hd, hne, hrest⟩
    exact ⟨a, b, c, d, rest, rfl, isUpper_of_isAlpha ha (h a (by simp)).2, isUpper_of_isAlpha hb (h b (by simp)).2,
      hc, hd, hne, fun x hx => Text.isUpperOrDigit_of_isAlphanum (hrest x hx) (h x (by simp [hx])).2⟩

/-- The exits of reading a text: one for each check that can fail, and the account number behind all of them. -/
inductive Reads (v : Text) : Except Rejection Iban → Prop
  | notWellFormed (h : wellFormed v.canonical = false) : Reads v (.error ⟨.iban, v, .notWellFormed⟩)
  | unknownCountry (hw : wellFormed v.canonical = true) (h : v.canonical.take 2 ∉ Country.codes) :
      Reads v (.error ⟨.iban, v, .unknownCountry⟩)
  | unsupportedCountry (hw : wellFormed v.canonical = true) (hc : v.canonical.take 2 ∈ Country.codes)
      (h : Bban.layoutOf (v.canonical.take 2) = none) :
      Reads v (.error ⟨.iban, v, .unsupportedCountry (v.canonical.take 2)⟩)
  | invalidStructure (hw : wellFormed v.canonical = true) (hc : v.canonical.take 2 ∈ Country.codes) (l : Bban.Layout)
      (hl : Bban.layoutOf (v.canonical.take 2) = some l) (h : l.accepts (v.canonical.drop 4) = false) :
      Reads v (.error ⟨.iban, v, .invalidStructure l.country⟩)
  | incorrectCheckDigit (hw : wellFormed v.canonical = true) (hc : v.canonical.take 2 ∈ Country.codes)
      (l : Bban.Layout) (hl : Bban.layoutOf (v.canonical.take 2) = some l)
      (ha : l.accepts (v.canonical.drop 4) = true) (h : CheckDigits.validate v.canonical = false) :
      Reads v (.error ⟨.iban, v, .incorrectCheckDigit⟩)
  | accepted (l : Bban.Layout) (h : Passes v.canonical l) : Reads v (.ok ⟨v.canonical⟩)

theorem reads_parse (v : Text) : Reads v (parse v) := by
  have hcode := Country.ofAlpha2?_isNone_iff ((Text.isCanonical_canonical v).take 2)
  have hlisted (h : ¬ (Country.ofAlpha2? (v.canonical.take 2)).isNone = true) : v.canonical.take 2 ∈ Country.codes :=
    not_not.1 (mt hcode.2 h)
  fun_cases parse v with
  | case1 _ hw => exact .notWellFormed (by simpa using hw)
  | case2 _ _ hw hc => exact .unknownCountry (by simpa using hw) (hcode.1 hc)
  | case3 _ _ hw hc hl => exact .unsupportedCountry (by simpa using hw) (hlisted hc) hl
  | case4 _ _ hw hc l hl ha =>
    exact .invalidStructure (by simpa using hw) (hlisted hc) l hl (by simpa using ha)
  | case5 _ _ hw hc l hl ha hv =>
    exact .incorrectCheckDigit (by simpa using hw) (hlisted hc) l hl (by simpa using ha) (by simpa using hv)
  | case6 _ _ hw hc l hl ha hv =>
    exact .accepted l ⟨by simpa using hw, hlisted hc, hl, by simpa using ha, by simpa using hv⟩

/-- Exactly the texts whose canonical form passes all checks are read, and as that form. -/
theorem parse_eq_ok_iff {v : Text} {x : Iban} : parse v = .ok x ↔ x.text = v.canonical ∧ ∃ l, Passes v.canonical l := by
  have hreads := reads_parse v
  generalize parse v = r at hreads
  constructor
  · rintro rfl
    cases hreads with
    | accepted l h => exact ⟨rfl, l, h⟩
  · rintro ⟨htext, l, h⟩
    cases hreads with
    | notWellFormed hw => simp [h.formed] at hw
    | unknownCountry hw hc => exact absurd h.listed hc
    | unsupportedCountry hw hc hl => simp [h.layout] at hl
    | invalidStructure hw hc k hk ha =>
      obtain rfl := Option.some.inj (h.layout.symm.trans hk)
      simp [h.accepted] at ha
    | incorrectCheckDigit hw hc k hk ha hv => simp [h.valid] at hv
    | accepted k hk => rw [← htext]

/-- With a structure for the country, following its format is acceptance by that structure. -/
theorem followsFormat_iff {t : Text} {l : Bban.Layout} (hl : Bban.layoutOf (t.take 2) = some l) (h4 : 4 ≤ t.length) :
    FollowsFormat t ↔ l.accepts (t.drop 4) = true := by
  constructor
  · rintro ⟨row, hrow, hcode, ts, hts, -, hdescribe⟩
    obtain ⟨k, hk, hp⟩ := Bban.exists_layout_of_mem_row hrow hcode
    obtain rfl := Option.some.inj (hl.symm.trans hk)
    exact (Swift.Pattern.accepts_iff_describe hp hts _).2 hdescribe
  · intro ha
    obtain ⟨row, hrow, hcode, hp⟩ := Bban.layoutOf_pattern hl
    obtain ⟨ts, hts, -, -⟩ := Swift.Pattern.compile_eq_ok_iff.1 hp
    have hdescribe := (Swift.Pattern.accepts_iff_describe hp hts _).1 ha
    refine ⟨row, hrow, hcode, ts, hts, ?_, hdescribe⟩
    rw [← hdescribe.length_eq, List.length_drop]
    omega

theorem four_le_length_of_wellFormed {t : Text} (h : wellFormed t = true) : 4 ≤ t.length := by
  simp only [wellFormed, Bool.and_eq_true, decide_eq_true_eq] at h
  omega

theorem isUpperOrDigit_of_wellFormed {t : Text} (h : wellFormed t = true) : ∀ c ∈ t, Text.isUpperOrDigit c = true := by
  obtain ⟨a, b, c, d, rest, rfl, ha, hb, hc, hd, -, hrest⟩ := wellFormed_iff_fits.1 h
  intro x hx
  simp only [List.mem_cons] at hx
  rcases hx with rfl | rfl | rfl | rfl | hx
  · simp [Text.isUpperOrDigit, ha]
  · simp [Text.isUpperOrDigit, hb]
  · simp [Text.isUpperOrDigit, hc]
  · simp [Text.isUpperOrDigit, hd]
  · exact hrest x hx

theorem isUpperOrDigit_of_parse {v : Text} {x : Iban} (h : parse v = .ok x) :
    ∀ c ∈ x.text, Text.isUpperOrDigit c = true := by
  obtain ⟨htext, l, hp⟩ := parse_eq_ok_iff.1 h
  rw [htext]
  exact isUpperOrDigit_of_wellFormed hp.formed

/-- An account number that was read is read from its own text. -/
theorem parse_text_of_parse {v : Text} {x : Iban} (h : parse v = .ok x) : parse x.text = .ok x := by
  obtain ⟨htext, l, hp⟩ := parse_eq_ok_iff.1 h
  have hcan : Text.IsCanonical x.text := htext ▸ Text.isCanonical_canonical v
  rw [parse_eq_ok_iff, hcan.canonical_eq]
  exact ⟨rfl, l, htext ▸ hp⟩

theorem digitPair_of_wellFormed {t : Text} (h : wellFormed t = true) : Text.DigitPair (t.slice 2 4) := by
  obtain ⟨a, b, c, d, rest, rfl, -, -, hc, hd, -, -⟩ := wellFormed_iff_fits.1 h
  refine ⟨rfl, fun x hx => ?_⟩
  simp only [Text.slice, List.take_succ_cons, List.take_zero, List.drop_succ_cons, List.drop_zero, List.mem_cons,
    List.not_mem_nil, or_false] at hx
  rcases hx with rfl | rfl <;> assumption

theorem wellFormed_append {code d t : Text} (hc : code ∈ Country.codes) (hd : Text.DigitPair d) (hne : t ≠ [])
    (ht : ∀ c ∈ t, Text.isUpperOrDigit c = true) : wellFormed (code ++ d ++ t) = true := by
  obtain ⟨a, b, rfl, ha, hb⟩ := Country.isUpper_of_mem_codes hc
  obtain ⟨hlen, hdigits⟩ := hd
  obtain ⟨x, y, rfl⟩ := List.length_eq_two.1 hlen
  exact wellFormed_iff_fits.2 ⟨a, b, x, y, t, rfl, ha, hb, hdigits x (by simp), hdigits y (by simp), hne, ht⟩

/-- The conditions of the checks on a canonical text are those of the description. -/
theorem genuine_iff_passes {t : Text} (hcan : Text.IsCanonical t) : Genuine t ↔ ∃ l, Passes t l := by
  constructor
  · rintro ⟨hreg, ⟨hpair, hbounds⟩, hformat, hcong⟩
    obtain ⟨l, hl⟩ := Bban.mem_codes_iff_layoutOf.1 hreg
    have hlisted := Bban.mem_countryCodes_of_layoutOf hl
    have h4 : 4 ≤ t.length := by
      obtain ⟨row, -, -, ts, -, hlen, -⟩ := hformat
      omega
    have haccepts := (followsFormat_iff hl h4).1 hformat
    have hne := Bban.Layout.ne_nil_of_accepts hl haccepts
    have hrest := Bban.Layout.isUpperOrDigit_of_accepts hl haccepts (hcan.drop 4)
    have hformed : wellFormed t = true := by
      have h := wellFormed_append hlisted hpair hne hrest
      rwa [Text.take_append_slice_append_drop] at h
    refine ⟨l, hformed, hlisted, hl, haccepts, (CheckDigits.validate_iff hpair).2 ⟨?_, ?_, hbounds, hcong⟩⟩
    · have := List.length_pos_of_ne_nil hne
      rw [List.length_drop] at this
      omega
    · exact fun c hc => Text.isAlphanum_of_isUpperOrDigit (isUpperOrDigit_of_wellFormed hformed c hc)
  · rintro ⟨l, h⟩
    have hpair := digitPair_of_wellFormed h.formed
    obtain ⟨-, -, hbounds, hcong⟩ := (CheckDigits.validate_iff hpair).1 h.valid
    have hformat := (followsFormat_iff h.layout (four_le_length_of_wellFormed h.formed)).2 h.accepted
    exact ⟨Bban.mem_codes_iff_layoutOf.2 ⟨l, h.layout⟩, ⟨hpair, hbounds⟩, hformat, hcong⟩

/-- A text that does not pass is rejected as it was given, for its first defect. -/
theorem firstDefect_of_parse_error {v : Text} {r : Rejection} (h : parse v = .error r) :
    r.subject = .iban ∧ r.input = v ∧ FirstDefect v.canonical r.reason := by
  have hcan := Text.isCanonical_canonical v
  have hreads := reads_parse v
  rw [h] at hreads
  have hregistered {l : Bban.Layout} (hl : Bban.layoutOf (v.canonical.take 2) = some l) :
      v.canonical.take 2 ∈ Bban.Registry.standard.codes := Bban.mem_codes_iff_layoutOf.2 ⟨l, hl⟩
  cases hreads with
  | notWellFormed hw =>
    refine ⟨rfl, rfl, fun hf => ?_⟩
    simp [(wellFormed_iff_isFormed hcan).2 hf] at hw
  | unknownCountry hw hc => exact ⟨rfl, rfl, (wellFormed_iff_isFormed hcan).1 hw, hc⟩
  | unsupportedCountry hw hc hl =>
    exact ⟨rfl, rfl, (wellFormed_iff_isFormed hcan).1 hw, hc, Bban.Registry.find?_eq_none_iff.1 hl⟩
  | invalidStructure hw hc l hl ha =>
    refine ⟨rfl, rfl, (wellFormed_iff_isFormed hcan).1 hw, hc, hregistered hl, ?_⟩
    rw [followsFormat_iff hl (four_le_length_of_wellFormed hw), ha]
    simp
  | incorrectCheckDigit hw hc l hl ha hv =>
    have hformat := (followsFormat_iff hl (four_le_length_of_wellFormed hw)).2 ha
    refine ⟨rfl, rfl, (wellFormed_iff_isFormed hcan).1 hw, hc, hregistered hl, hformat, ?_⟩
    rintro ⟨hpair, hcong⟩
    obtain ⟨k, hk⟩ := (genuine_iff_passes hcan).1 ⟨hregistered hl, hpair, hformat, hcong⟩
    simp [hk.valid] at hv

/-- The structure of Norway, and an account number that follows it. -/
theorem exists_layout_no : ∃ l, Bban.layoutOf "NO" = some l ∧ l.accepts "86011117947" = true := by
  have hrow : Bban.row "NO" "4!n6!n1!n" (some (0, 4)) none (some (10, 11)) (some (4, 10)) [] ∈ Bban.tableRows := by
    decide +kernel
  obtain ⟨l, hl, hp⟩ := Bban.exists_layout_of_mem_row hrow (List.mem_cons_self : "NO".toList ∈ _)
  have hspells : Swift.Token.Spells [⟨"4", true, .digits⟩, ⟨"6", true, .digits⟩, ⟨"1", true, .digits⟩] "4!n6!n1!n" := by
    rw [← Swift.Token.readAll?_eq_some_iff]
    decide +kernel
  have hcompiled := Swift.Pattern.compile_of_sound hspells (by decide)
  refine ⟨l, hl, ?_⟩
  rw [Bban.Layout.accepts, ← Except.ok.inj (hcompiled.symm.trans hp)]
  decide +kernel

/-- A text is read exactly if its canonical form has the four properties of an account number, and then as this form.
Any other text is rejected unchanged, with the first reason that applies. -/
theorem parse_exact_language (v : Text) :
    (parse v = .ok ⟨v.canonical⟩ ↔ Genuine v.canonical) ∧
      (∀ x, parse v = .ok x → x.text = v.canonical) ∧
      (¬ Genuine v.canonical → ∃ r, parse v = .error r ∧ r.subject = .iban ∧ r.input = v ∧
        FirstDefect v.canonical r.reason) := by
  have hok : parse v = .ok ⟨v.canonical⟩ ↔ Genuine v.canonical := by
    rw [parse_eq_ok_iff, genuine_iff_passes (Text.isCanonical_canonical v)]
    exact ⟨fun h => h.2, fun h => ⟨rfl, h⟩⟩
  refine ⟨hok, fun x hx => (parse_eq_ok_iff.1 hx).1, fun hn => ?_⟩
  cases hr : parse v with
  | ok x =>
    obtain ⟨htext, h⟩ := parse_eq_ok_iff.1 hr
    exact absurd ((genuine_iff_passes (Text.isCanonical_canonical v)).2 h) hn
  | error r =>
    obtain ⟨hsubject, hinput, hdefect⟩ := firstDefect_of_parse_error hr
    exact ⟨r, rfl, hsubject, hinput, hdefect⟩

/-- A Norwegian account number is read; with the check digits of another number it is not. -/
theorem parse_exact_language_no :
    Genuine (Text.canonical "no93 8601 1117 947") ∧
      parse "no93 8601 1117 947" = .ok ⟨"NO9386011117947"⟩ ∧
      ¬ Genuine (Text.canonical "NO94 8601 1117 947") ∧
      ∃ r, parse "NO94 8601 1117 947" = .error r ∧ r.subject = .iban ∧ r.input = "NO94 8601 1117 947" ∧
        FirstDefect (Text.canonical "NO94 8601 1117 947") r.reason := by
  have hcan : Text.canonical "no93 8601 1117 947" = "NO9386011117947" := by decide +kernel
  have hcode : List.take 2 "NO9386011117947".toList = "NO" := by decide +kernel
  have hrest : List.drop 4 "NO9386011117947".toList = "86011117947" := by decide +kernel
  obtain ⟨l, hl, haccepts⟩ := exists_layout_no
  rw [← hcode] at hl
  rw [← hrest] at haccepts
  have hgenuine : Genuine (Text.canonical "no93 8601 1117 947") := by
    rw [hcan]
    exact {
      registered := Bban.mem_codes_iff_layoutOf.2 ⟨l, hl⟩
      pair := ⟨by decide, by decide, by decide⟩
      format := (followsFormat_iff hl (by decide)).2 haccepts
      congruent := by decide +kernel }
  have hother : ¬ Genuine (Text.canonical "NO94 8601 1117 947") := fun h => absurd h.congruent (by decide +kernel)
  exact ⟨hgenuine, hcan ▸ (parse_exact_language _).1.2 hgenuine, hother, (parse_exact_language _).2.2 hother⟩

end Iban
end PaymentIdentifiers
