import PaymentIdentifiers.CreditorIdentifier
import PaymentIdentifiers.Proofs.Text.Ends
import PaymentIdentifiers.Proofs.Text.Shape

/-!
# Which texts are creditor identifiers

The shape of a canonical text is tested first, then its country, and its check digits last. What passes is kept as it
is, without another change.
-/
namespace PaymentIdentifiers

/-- The payments area lies within the table of countries. Both are in ascending order, the one as a sublist. -/
theorem Agreement.mem_codes_of_mem_area {code : Text} (h : code ∈ singleEuroPaymentsArea.members) :
    code ∈ Country.codes := by
  have hsorted : singleEuroPaymentsArea.participants.isSublist Country.codes = true := by decide +kernel
  exact (List.isSublist_iff_sublist.1 hsorted).subset (Text.mem_sortDistinct.2 h)

namespace CreditorIdentifier

/-- What the checks of reading ask for. -/
structure Passes (t : Text) : Prop where
  formed : hasShape t = true
  member : t.take 2 ∈ Agreement.singleEuroPaymentsArea.members
  valid : CheckDigits.validate (withoutBusinessCode t) = true

theorem countryFault?_eq (c : CountryRef) : countryFault? c.alpha2 =
    if c.alpha2 ∉ Country.codes then some .unknownCountry
    else if c.alpha2 ∉ Agreement.singleEuroPaymentsArea.members then some (.unsupportedCountry c.alpha2)
    else none := by
  rw [countryFault?]
  simp only [c.ofAlpha2?_isNone_iff]
  split
  · rfl
  · rename_i hlisted
    have hcan := Country.isCanonical_of_mem_codes (not_not.1 hlisted)
    simp [Agreement.includes, CountryRef.alpha2_code hcan]

/-- Nothing is wrong with the members of the payments area. -/
theorem countryFault?_eq_none_iff (c : CountryRef) :
    countryFault? c.alpha2 = none ↔ c.alpha2 ∈ Agreement.singleEuroPaymentsArea.members := by
  rw [countryFault?_eq]
  constructor
  · intro h
    split at h
    · contradiction
    · split at h
      · contradiction
      · exact not_not.1 ‹_›
  · intro h
    rw [if_neg (not_not.2 (Agreement.mem_codes_of_mem_area h)), if_neg (not_not.2 h)]

section
variable {code pair rest : Text} (hc : code.length = 2) (hp : pair.length = 2)
include hc hp

/-- The shape in terms of the three pieces of a text. -/
theorem hasShape_pieces_iff : hasShape (code ++ pair ++ rest) = true ↔
    (∀ c ∈ code, c.isAlpha = true) ∧ (∀ c ∈ pair, c.isDigit = true) ∧ rest.AllAlphanum ∧
      4 ≤ rest.length ∧ rest.length ≤ 31 := by
  obtain ⟨a, b, rfl⟩ := List.length_eq_two.1 hc
  obtain ⟨c, d, rfl⟩ := List.length_eq_two.1 hp
  simp only [hasShape, Text.fits, Text.lengthIn, List.cons_append, List.nil_append, List.length_cons,
    Bool.and_eq_true, decide_eq_true_eq, List.all_eq_true, Text.AllAlphanum, List.forall_mem_cons,
    List.not_mem_nil, false_implies, implies_true, and_true]
  constructor
  · rintro ⟨⟨ha, hb, hc, hd, hrest⟩, hlo, hhi⟩
    exact ⟨⟨ha, hb⟩, ⟨hc, hd⟩, hrest, by omega, by omega⟩
  · rintro ⟨⟨ha, hb⟩, ⟨hc, hd⟩, hrest, hlo, hhi⟩
    exact ⟨⟨ha, hb, hc, hd, hrest⟩, by omega, by omega⟩

end

theorem allAlphanum_of_hasShape {t : Text} (h : hasShape t = true) : t.AllAlphanum := by
  rw [hasShape, Bool.and_eq_true] at h
  refine Text.forall_mem_of_fits (fun test htest c hc => ?_) (fun c hc => hc) h.1
  simp only [List.mem_cons, List.not_mem_nil, or_false] at htest
  rcases htest with rfl | rfl | rfl | rfl
  · exact Text.isAlphanum_of_isAlpha hc
  · exact Text.isAlphanum_of_isAlpha hc
  · exact Text.isAlphanum_of_isDigit hc
  · exact Text.isAlphanum_of_isDigit hc

theorem eight_le_length_of_hasShape {t : Text} (h : hasShape t = true) : 8 ≤ t.length := by
  rw [hasShape, Bool.and_eq_true, Text.lengthIn, Bool.and_eq_true, decide_eq_true_eq] at h
  exact h.2.1

/-- The exits of reading an identifier: one for each check that can fail, and the identifier behind all of them. -/
inductive Reads (v : Text) : Except Rejection CreditorIdentifier → Prop
  | notWellFormed (h : hasShape v.canonical = false) : Reads v (.error ⟨.creditorIdentifier, v, .notWellFormed⟩)
  | unknownCountry (hs : hasShape v.canonical = true) (h : v.canonical.take 2 ∉ Country.codes) :
      Reads v (.error ⟨.creditorIdentifier, v, .unknownCountry⟩)
  | unsupportedCountry (hs : hasShape v.canonical = true) (hc : v.canonical.take 2 ∈ Country.codes)
      (h : v.canonical.take 2 ∉ Agreement.singleEuroPaymentsArea.members) :
      Reads v (.error ⟨.creditorIdentifier, v, .unsupportedCountry (v.canonical.take 2)⟩)
  | incorrectCheckDigit (hs : hasShape v.canonical = true)
      (hc : v.canonical.take 2 ∈ Agreement.singleEuroPaymentsArea.members)
      (h : CheckDigits.validate (withoutBusinessCode v.canonical) = false) :
      Reads v (.error ⟨.creditorIdentifier, v, .incorrectCheckDigit⟩)
  | accepted (h : Passes v.canonical) : Reads v (.ok ⟨v.canonical⟩)

theorem reads_parse (v : Text) : Reads v (parse v) := by
  have hcode : (CountryRef.code (v.canonical.take 2)).alpha2 = v.canonical.take 2 :=
    CountryRef.alpha2_code ((Text.isCanonical_canonical v).take 2)
  have hfault := countryFault?_eq (.code (v.canonical.take 2))
  have hmember (h : countryFault? (v.canonical.take 2) = none) :
      v.canonical.take 2 ∈ Agreement.singleEuroPaymentsArea.members := by
    rw [← hcode] at h ⊢
    exact (countryFault?_eq_none_iff _).1 h
  rw [hcode] at hfault
  fun_cases parse v with
  | case1 _ hs => exact .notWellFormed (by simpa using hs)
  | case2 _ hs cause hf =>
    rw [Bool.not_eq_true', Bool.not_eq_false] at hs
    rw [hf] at hfault
    split at hfault
    · obtain rfl := Option.some.inj hfault
      exact .unknownCountry hs ‹_›
    · split at hfault
      · obtain rfl := Option.some.inj hfault
        exact .unsupportedCountry hs (not_not.1 ‹_›) ‹_›
      · cases hfault
  | case3 _ hs hf hd =>
    rw [Bool.not_eq_true', Bool.not_eq_false] at hs
    exact .incorrectCheckDigit hs (hmember hf) (by simpa using hd)
  | case4 _ hs hf hd =>
    rw [Bool.not_eq_true', Bool.not_eq_false] at hs
    exact .accepted ⟨hs, hmember hf, by simpa using hd⟩

theorem parse_eq_ok_iff {v : Text} {x : CreditorIdentifier} :
    parse v = .ok x ↔ x.text = v.canonical ∧ Passes v.canonical := by
  have hreads := reads_parse v
  generalize parse v = r at hreads
  constructor
  · rintro rfl
    cases hreads with
    | accepted h => exact ⟨rfl, h⟩
  · rintro ⟨htext, h⟩
    cases hreads with
    | notWellFormed hs => simp [h.formed] at hs
    | unknownCountry hs hc => exact absurd (Agreement.mem_codes_of_mem_area h.member) hc
    | unsupportedCountry hs hc hm => exact absurd h.member hm
    | incorrectCheckDigit hs hm hd => simp [h.valid] at hd
    | accepted => rw [← htext]

theorem isUpperOrDigit_of_parse {v : Text} {x : CreditorIdentifier} (h : parse v = .ok x) :
    ∀ c ∈ x.text, Text.isUpperOrDigit c = true := by
  obtain ⟨htext, hp⟩ := parse_eq_ok_iff.1 h
  rw [htext]
  exact (allAlphanum_of_hasShape hp.formed).isUpperOrDigit_asciiUpper

/-- An identifier that was read is read from its own text. -/
theorem parse_text_of_parse {v : Text} {x : CreditorIdentifier} (h : parse v = .ok x) : parse x.text = .ok x := by
  obtain ⟨htext, hp⟩ := parse_eq_ok_iff.1 h
  have hcan : Text.IsCanonical x.text := htext ▸ Text.isCanonical_canonical v
  rw [parse_eq_ok_iff, hcan.canonical_eq]
  exact ⟨rfl, htext ▸ hp⟩

end CreditorIdentifier
end PaymentIdentifiers
