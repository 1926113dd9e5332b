import PaymentIdentifiers.Proofs.Bic.NormalForm

/-!
# Random institution codes are valid for listed countries

The country is put between drawn letters and drawn characters without a check, so one of another length moves all that
stands behind it. The text has a length that is allowed for two characters only, and then the country is read where it
was put. So the table of countries alone decides, whatever is drawn.
-/
namespace PaymentIdentifiers

namespace Text

theorem asciiUpper_asciiUpper (t : Text) : t.asciiUpper.asciiUpper = t.asciiUpper := by
  rw [asciiUpper, asciiUpper, List.map_map]
  apply List.map_congr_left
  intro c _
  exact toUpper_of_not_isLower (isLower_toUpper c)

end Text

theorem CountryRef.asciiUpper_alpha2 (c : CountryRef) : c.alpha2.asciiUpper = c.alpha2 := by
  cases c with
  | country c => exact (Country.isCanonical_of_mem_codes c.listed).asciiUpper_eq
  | code t => exact Text.asciiUpper_asciiUpper t.trim

namespace Bic

variable {code : Text} {test : Bool} {d : Draws}

/-- A code was drawn for a country. The letters in front of the country take the first draws behind that of the country,
and the characters behind it the next ones; the second of these is the test mark if one is asked for. -/
structure DrawnFor (x : Bic) (code : Text) (test : Bool) (d : Draws) : Prop where
  length : x.text.length = 11
  letter : ∀ i < 4, x.text[i]? = some (choose (d (i + 1)) sampleLetters sampleLetters_ne_nil)
  country : x.countryCode = code
  character : ∀ i < 5, (test = true → i ≠ 1) →
    x.text[i + 6]? = some (choose (d (i + 5)) sampleCharacters sampleCharacters_ne_nil)
  marked : test = true → x.isTest = true

/-- The letters before the country. -/
def drawnFront (d : Draws) : Text :=
  [1, 2, 3, 4].map fun k => choose (d k) sampleLetters sampleLetters_ne_nil

/-- The characters behind the country. -/
def drawnEnd (test : Bool) (d : Draws) : Text :=
  let character k := choose (d k) sampleCharacters sampleCharacters_ne_nil
  [character 5, if test then '0' else character 6, character 7, character 8, character 9]

theorem sampleText_eq (code : Text) (test : Bool) (d : Draws) :
    sampleText code test d = drawnFront d ++ code ++ drawnEnd test d := rfl

theorem isUpper_of_mem_drawnFront {c : Char} (h : c ∈ drawnFront d) : c.isUpper = true := by
  obtain ⟨k, -, rfl⟩ := List.mem_map.1 h
  have hall : ∀ c ∈ sampleLetters, c.isUpper = true := List.all_eq_true.1 (by decide)
  exact hall _ (choose_mem _ _ _)

theorem isUpperOrDigit_of_mem_drawnEnd {c : Char} (h : c ∈ drawnEnd test d) : Text.isUpperOrDigit c = true := by
  have hall : ∀ c ∈ sampleCharacters, Text.isUpperOrDigit c = true := List.all_eq_true.1 (by decide)
  have hdrawn (n : Int) : Text.isUpperOrDigit (choose n sampleCharacters sampleCharacters_ne_nil) = true :=
    hall _ (choose_mem _ _ _)
  have hmark : Text.isUpperOrDigit
      (if test then '0' else choose (d 6) sampleCharacters sampleCharacters_ne_nil) = true := by
    cases test with
    | false => exact hdrawn _
    | true => exact (by decide : Text.isUpperOrDigit '0' = true)
  simp only [drawnEnd, List.mem_cons, List.not_mem_nil, or_false] at h
  rcases h with rfl | rfl | rfl | rfl | rfl
  · exact hdrawn _
  · exact hmark
  · exact hdrawn _
  · exact hdrawn _
  · exact hdrawn _

theorem length_sampleText (code : Text) (test : Bool) (d : Draws) :
    (sampleText code test d).length = code.length + 9 := by
  rw [sampleText_eq, List.length_append, List.length_append]
  change 4 + code.length + 5 = _
  omega

/-- Neither end is blank, whatever the country is. -/
theorem trim_sampleText (code : Text) (test : Bool) (d : Draws) :
    (sampleText code test d).trim = sampleText code test d := by
  rw [sampleText_eq]
  apply Text.trim_eq_self
  · intro c hc
    have hmem : c ∈ drawnFront d := by
      obtain rfl := Option.some.inj hc
      exact List.mem_cons_self
    exact Text.isBlank_of_isAlphanum (Text.isAlphanum_of_isUpper (isUpper_of_mem_drawnFront hmem))
  · intro c hc
    have hne : drawnEnd test d ≠ [] := List.cons_ne_nil _ _
    rw [List.getLast?_append_of_ne_nil _ hne] at hc
    have hupper := isUpperOrDigit_of_mem_drawnEnd (List.mem_of_getLast? hc)
    exact Text.isBlank_of_isAlphanum (Text.isAlphanum_of_isUpperOrDigit hupper)

section
variable (hcode : code.length = 2)
include hcode

theorem take_six_sampleText : (sampleText code test d).take 6 = drawnFront d ++ code := by
  rw [sampleText_eq]
  exact List.take_left' (by rw [List.length_append, hcode]; rfl)

/-- A country of two characters is read where it was put. -/
theorem slice_sampleText : (sampleText code test d).slice 4 6 = code := by
  rw [Text.slice, take_six_sampleText hcode]
  exact List.drop_left' rfl

end

section
variable (test d)

theorem isShaped_sampleText_iff :
    IsShaped (sampleText code test d) ↔ code.length = 2 ∧ ∀ c ∈ code, c.isAlpha = true := by
  constructor
  · intro h
    have hlen := h.length
    rw [length_sampleText] at hlen
    have htwo : code.length = 2 := by omega
    have hletters := h.letters
    rw [take_six_sampleText htwo, List.forall_mem_append] at hletters
    exact ⟨htwo, hletters.2⟩
  · rintro ⟨htwo, hletters⟩
    have hfront (c : Char) (hc : c ∈ drawnFront d) : c.isAlpha = true :=
      Text.isAlpha_iff.2 (.inl (isUpper_of_mem_drawnFront hc))
    refine ⟨.inr (by rw [length_sampleText, htwo]), ?_, ?_⟩
    · rw [sampleText_eq, Text.AllAlphanum, List.forall_mem_append, List.forall_mem_append]
      exact ⟨⟨fun c hc => Text.isAlphanum_of_isAlpha (hfront c hc),
        fun c hc => Text.isAlphanum_of_isAlpha (hletters c hc)⟩,
        fun c hc => Text.isAlphanum_of_isUpperOrDigit (isUpperOrDigit_of_mem_drawnEnd hc)⟩
    · rw [take_six_sampleText htwo, List.forall_mem_append]
      exact ⟨hfront, hletters⟩

/-- The text is a code exactly if the country is listed. -/
theorem isCode_sampleText_iff (hupper : code.asciiUpper = code) :
    IsCode (sampleText code test d) ↔ code ∈ Country.codes := by
  constructor
  · intro h
    have hlisted := h.listed
    rwa [slice_sampleText ((isShaped_sampleText_iff test d).1 h.toIsShaped).1, hupper] at hlisted
  · intro h
    have htwo := Country.length_of_mem_codes h
    have hletters (c : Char) (hc : c ∈ code) : c.isAlpha = true :=
      Text.isAlpha_iff.2 (.inl (Country.isUpper_of_mem h hc))
    refine ⟨(isShaped_sampleText_iff test d).2 ⟨htwo, hletters⟩, ?_⟩
    rwa [slice_sampleText htwo, hupper]

theorem isNormal_sampleText (h : code ∈ Country.codes) : IsNormal (sampleText code test d) := by
  have htwo := Country.length_of_mem_codes h
  have hcode := (isCode_sampleText_iff test d (Country.isCanonical_of_mem_codes h).asciiUpper_eq).2 h
  refine ⟨by rw [length_sampleText, htwo], ?_, hcode.letters, by rwa [slice_sampleText htwo]⟩
  rw [sampleText_eq, List.forall_mem_append, List.forall_mem_append]
  exact ⟨⟨fun c hc => by simp [Text.isUpperOrDigit, isUpper_of_mem_drawnFront hc],
    fun c hc => by simp [Text.isUpperOrDigit, Country.isUpper_of_mem h hc]⟩, fun c => isUpperOrDigit_of_mem_drawnEnd⟩

theorem drawnFor_sampleText (h : code.length = 2) : DrawnFor ⟨sampleText code test d⟩ code test d := by
  refine ⟨by rw [length_sampleText, h], ?_, slice_sampleText h, ?_, ?_⟩
  all_goals obtain ⟨a, b, rfl⟩ := List.length_eq_two.1 h
  · intro i hi
    match i, hi with
    | 0, _ | 1, _ | 2, _ | 3, _ => rfl
  · intro i hi hmark
    match i, hi with
    | 0, _ | 2, _ | 3, _ | 4, _ => rfl
    | 1, _ =>
      cases test with
      | false => rfl
      | true => exact absurd rfl (hmark rfl)
  · rintro rfl
    rfl

theorem parse_sampleText_of_not_mem (hupper : code.asciiUpper = code) (h : code ∉ Country.codes) :
    parse (sampleText code test d) = .error ⟨.bic, sampleText code test d,
      if code.length = 2 ∧ code.all Char.isAlpha = true then .unknownCountry else .notWellFormed⟩ := by
  rw [← isCode_sampleText_iff test d hupper, ← trim_sampleText] at h
  split
  · rename_i hshaped
    rw [List.all_eq_true, ← isShaped_sampleText_iff test d, ← trim_sampleText] at hshaped
    exact parse_of_not_isCode hshaped h
  · rename_i hshaped
    rw [List.all_eq_true, ← isShaped_sampleText_iff test d, ← trim_sampleText] at hshaped
    exact parse_of_not_isShaped hshaped

end

theorem sample_eq (test : Bool) {countries : List CountryArgument} {hne : countries ≠ []} {ref : CountryRef}
    (h : (choose (d 0) countries hne).ref = .ok ref) :
    sample countries test d = (parse (sampleText ref.alpha2 test d)).mapError .rejected := by
  obtain ⟨c, cs, rfl⟩ := List.exists_cons_of_ne_nil hne
  rw [sample, chooseCode, h]
  rfl

/-- With a listed country, a code of it is drawn whatever the other draws are. -/
theorem exists_sample {countries : List CountryArgument}
    (h : sample countries test d = (parse (sampleText code test d)).mapError .rejected) (hcode : code ∈ Country.codes) :
    ∃ x, sample countries test d = .ok x ∧ x.DrawnFor code test d ∧ parse x.text = .ok x := by
  have hparse := (isNormal_sampleText test d hcode).parse_eq
  refine ⟨⟨sampleText code test d⟩, ?_, drawnFor_sampleText test d (Country.length_of_mem_codes hcode), hparse⟩
  rw [h, hparse]
  rfl

/-- From countries, a code is drawn exactly if the chosen one is listed, and it is a code of this country, with the test
mark if one is asked for. Any other country, whatever it is, makes the drawn text a rejected one. Without countries, a
code of a listed country is drawn. -/
theorem samples_of_listed :
    (∀ (countries : List CountryArgument) (hne : countries ≠ []) (test : Bool) (d : Draws) (ref : CountryRef),
      (choose (d 0) countries hne).ref = .ok ref →
        ((∃ x, sample countries test d = .ok x) ↔ ref.alpha2 ∈ Country.codes) ∧
        (∀ x, sample countries test d = .ok x → x.DrawnFor ref.alpha2 test d ∧ parse x.text = .ok x) ∧
        (ref.alpha2 ∉ Country.codes → sample countries test d =
          .error (.rejected ⟨.bic, sampleText ref.alpha2 test d,
            if ref.alpha2.length = 2 ∧ ref.alpha2.all Char.isAlpha = true then .unknownCountry
            else .notWellFormed⟩))) ∧
    (∀ (test : Bool) (d : Draws), ∃ x, sample [] test d = .ok x ∧
      x.DrawnFor (choose (d 0) Country.codes countryCodes_ne_nil) test d ∧ parse x.text = .ok x) := by
  refine ⟨fun countries hne test d ref href => ?_, fun test d => exists_sample rfl (choose_mem _ _ _)⟩
  have hsample := sample_eq test href
  have hrejected (h : ref.alpha2 ∉ Country.codes) : sample countries test d = _ :=
    hsample.trans (congrArg _ (parse_sampleText_of_not_mem test d ref.asciiUpper_alpha2 h))
  have hlisted (x : Bic) (h : sample countries test d = .ok x) : ref.alpha2 ∈ Country.codes := by
    by_contra hcode
    cases (hrejected hcode).symm.trans h
  refine ⟨⟨fun ⟨x, h⟩ => hlisted x h, fun h => ?_⟩, fun x h => ?_, hrejected⟩
  · obtain ⟨x, hx, -⟩ := exists_sample hsample h
    exact ⟨x, hx⟩
  · obtain ⟨y, hy, hdrawn⟩ := exists_sample hsample (hlisted x h)
    obtain rfl := Except.ok.inj (h.symm.trans hy)
    exact hdrawn

/-- Of two countries an even number draws the first one, whose code is listed, and an odd number the second one, which
is written with three letters. -/
theorem samples_of_listed_fr :
    (∃ x, sample [.datum (.text " fr\n"), .datum (.text "FRA")] true (fun k => 4 + 7 * k) = .ok x ∧
        x.text = "LSZGFRD0RY5" ∧ x.DrawnFor "FR" true (fun k => 4 + 7 * k)) ∧
      sample [.datum (.text " fr\n"), .datum (.text "FRA")] true (fun k => 3 + 7 * k) =
        .error (.rejected ⟨.bic, "KRYFFRAC0QX4", .notWellFormed⟩) := by
  have hfr : (CountryRef.code " fr\n").alpha2 = "FR" := by decide +kernel
  have hfra : (CountryRef.code "FRA").alpha2 = "FRA" := by decide +kernel
  have hchosen := samples_of_listed.1 [.datum (.text " fr\n"), .datum (.text "FRA")] (List.cons_ne_nil _ _) true
  constructor
  · obtain ⟨hiff, hdrawn, -⟩ := hchosen (fun k => 4 + 7 * k) (.code " fr\n") rfl
    rw [hfr] at hiff hdrawn
    obtain ⟨x, hx⟩ := hiff.2 (by decide +kernel)
    have htext : (sample [.datum (.text " fr\n"), .datum (.text "FRA")] true (fun k => 4 + 7 * k)).toOption.map
        Bic.text = some "LSZGFRD0RY5".toList := by
      decide +kernel
    rw [hx] at htext
    exact ⟨x, hx, Option.some.inj htext, (hdrawn x hx).1⟩
  · have hrejected := (hchosen (fun k => 3 + 7 * k) (.code "FRA") rfl).2.2
    rw [hfra] at hrejected
    exact (hrejected (by decide +kernel)).trans (by decide +kernel)

end Bic
end PaymentIdentifiers
