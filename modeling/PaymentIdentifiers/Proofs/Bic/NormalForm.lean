import PaymentIdentifiers.Proofs.Identifier.Provenance
import PaymentIdentifiers.Proofs.Identifier.Spelling

/-!
# The normal form of an institution code and its test mark

A code is kept as eleven upper-case letters and digits, which fall into institution, country, location and branch. Only
the first six places are tied to letters and to the table of countries, so a letter or digit behind them can be changed
and a code is left. The test mark is such a change, of the second character of the location.
-/
namespace PaymentIdentifiers

namespace Text

theorem slice_asciiUpper (t : Text) (start stop : Nat) :
    (asciiUpper t).slice start stop = asciiUpper (t.slice start stop) := by
  rw [slice, slice, asciiUpper, asciiUpper, ← List.map_take, ← List.map_drop]

/-- A slice goes on where the characters before it end. -/
theorem take_append_slice (t : Text) {start stop : Nat} (h : start ≤ stop) :
    t.take start ++ t.slice start stop = t.take stop := by
  have hpieces := List.take_append_drop start (t.take stop)
  rwa [List.take_take, Nat.min_eq_left h] at hpieces

end Text

namespace Bic

/-- Eight or eleven letters or digits of either case, the first six of them letters. -/
structure IsShaped (t : Text) : Prop where
  length : t.length = 8 ∨ t.length = 11
  alphanum : t.AllAlphanum
  letters : ∀ c ∈ t.take 6, c.isAlpha = true

/-- A text of this shape with a country of the table in it. -/
structure IsCode (t : Text) : Prop extends IsShaped t where
  listed : (t.slice 4 6).asciiUpper ∈ Country.codes

/-- The form in which a code is kept. -/
structure IsNormal (t : Text) : Prop where
  length : t.length = 11
  upper : ∀ c ∈ t, Text.isUpperOrDigit c = true
  letters : ∀ c ∈ t.take 6, c.isAlpha = true
  listed : t.slice 4 6 ∈ Country.codes

section
variable {t v : Text}

theorem hasShape_iff : hasShape t = true ↔ IsShaped t := by
  rw [hasShape, Bool.and_eq_true, Text.fits_replicate_iff, Bool.or_eq_true, beq_iff_eq, beq_iff_eq]
  constructor
  · rintro ⟨⟨-, hletters, hrest⟩, hlen⟩
    refine ⟨hlen, fun c hc => ?_, hletters⟩
    rw [← List.take_append_drop 6 t] at hc
    exact (List.mem_append.1 hc).elim (fun h => Text.isAlphanum_of_isAlpha (hletters c h)) (hrest c)
  · rintro ⟨hlen, halphanum, hletters⟩
    exact ⟨⟨by omega, hletters, fun c hc => halphanum c (List.mem_of_mem_drop hc)⟩, hlen⟩

instance (t : Text) : Decidable (IsShaped t) := decidable_of_iff _ hasShape_iff

theorem isShaped_asciiUpper_iff : IsShaped t.asciiUpper ↔ IsShaped t := by
  have hletters : (∀ c ∈ t.asciiUpper.take 6, c.isAlpha = true) ↔ ∀ c ∈ t.take 6, c.isAlpha = true := by
    rw [Text.asciiUpper, ← List.map_take, List.forall_mem_map]
    exact forall₂_congr fun c _ => Text.isAlpha_toUpper_iff
  constructor
  · rintro ⟨hlen, halphanum, h⟩
    exact ⟨by simpa using hlen, halphanum.of_asciiUpper, hletters.1 h⟩
  · rintro ⟨hlen, halphanum, h⟩
    refine ⟨by simpa using hlen, ?_, hletters.2 h⟩
    exact List.forall_mem_map.2 fun c hc => Text.isAlphanum_toUpper (halphanum c hc)

theorem passes_asciiUpper_iff : Passes t.asciiUpper ↔ IsCode t := by
  have hlisted : t.asciiUpper.slice 4 6 = (t.slice 4 6).asciiUpper := Text.slice_asciiUpper t 4 6
  constructor
  · rintro ⟨hformed, h⟩
    exact ⟨isShaped_asciiUpper_iff.1 (hasShape_iff.1 hformed), hlisted ▸ h⟩
  · rintro ⟨hshaped, h⟩
    exact ⟨hasShape_iff.2 (isShaped_asciiUpper_iff.2 hshaped), hlisted ▸ h⟩

theorem isCode_iff : IsCode t ↔ IsShaped t ∧ Country.codes.contains (t.slice 4 6).asciiUpper = true := by
  rw [List.contains_iff_mem]
  exact ⟨fun h => ⟨h.1, h.2⟩, fun h => ⟨h.1, h.2⟩⟩

instance (t : Text) : Decidable (IsCode t) := decidable_of_iff _ isCode_iff.symm

theorem exists_parse_iff : (∃ x, parse v = .ok x) ↔ IsCode v.trim := by
  rw [← passes_asciiUpper_iff]
  constructor
  · rintro ⟨x, h⟩
    exact (parse_eq_ok_iff.1 h).2
  · exact fun h => ⟨_, parse_eq_ok_iff.2 ⟨rfl, h⟩⟩

theorem parse_of_not_isShaped (h : ¬ IsShaped v.trim) : parse v = .error ⟨.bic, v, .notWellFormed⟩ := by
  rw [← isShaped_asciiUpper_iff, ← hasShape_iff] at h
  have hreads := reads_parse v
  generalize parse v = r at hreads
  cases hreads with
  | notWellFormed => rfl
  | unknownCountry hs => exact absurd hs h
  | accepted hp => exact absurd hp.formed h

theorem parse_of_not_isCode (hs : IsShaped v.trim) (h : ¬ IsCode v.trim) :
    parse v = .error ⟨.bic, v, .unknownCountry⟩ := by
  rw [← isShaped_asciiUpper_iff, ← hasShape_iff] at hs
  rw [← passes_asciiUpper_iff] at h
  have hreads := reads_parse v
  generalize parse v = r at hreads
  cases hreads with
  | notWellFormed hn => simp [hs] at hn
  | unknownCountry => rfl
  | accepted hp => exact absurd hp h

theorem IsNormal.isShaped (h : IsNormal t) : IsShaped t :=
  ⟨.inr h.length, fun c hc => Text.isAlphanum_of_isUpperOrDigit (h.upper c hc), h.letters⟩

theorem IsNormal.parse_eq (h : IsNormal t) : parse t = .ok ⟨t⟩ := by
  have hcanonical := Text.isCanonical_of_upperOrDigit h.upper
  have hcompleted : completed t = t := if_neg (by rw [h.length]; decide)
  rw [parse_eq_ok_iff, hcanonical.trim_eq, hcanonical.asciiUpper_eq]
  exact ⟨hcompleted.symm, hasShape_iff.2 h.isShaped, h.listed⟩

theorem isNormal_of_parse {x : Bic} (h : parse v = .ok x) : IsNormal x.text := by
  obtain ⟨htext, hp⟩ := parse_eq_ok_iff.1 h
  have hupper := isUpperOrDigit_of_parse h
  have hcompleted := hp.completed
  have hlength := length_completed hp.formed
  rw [← htext] at hcompleted hlength
  exact ⟨hlength, hupper, (hasShape_iff.1 hcompleted.formed).letters, hcompleted.listed⟩

theorem isNormal_of_obtained {x : Bic} (h : Obtained (.bic x)) : IsNormal x.text := by
  obtain ⟨y, hy, heq⟩ := map_eq_ok_iff.1 h.isCanonical.rereads
  obtain rfl := Identifier.bic.inj heq
  exact isNormal_of_parse hy

/-- Behind the first six places, any letter or digit can stand in the place of another. -/
theorem IsNormal.set (h : IsNormal t) {i : Nat} (hi : 6 ≤ i) {c : Char} (hc : Text.isUpperOrDigit c = true) :
    IsNormal (t.set i c) := by
  have hfront : (t.set i c).take 6 = t.take 6 := List.take_set_of_le hi
  refine ⟨by rw [List.length_set, h.length], fun d hd => ?_, by rw [hfront]; exact h.letters, ?_⟩
  · rcases List.mem_or_eq_of_mem_set hd with hd | rfl
    · exact h.upper d hd
    · exact hc
  · rw [Text.slice, hfront]
    exact h.listed

/-- The first eight characters are read as the code of the primary office. -/
theorem IsNormal.parse_take_eight (h : IsNormal t) : parse (t.take 8) = .ok ⟨t.take 8 ++ primaryOffice⟩ := by
  have hlength : (t.take 8).length = 8 := List.length_take_of_le (by rw [h.length]; decide)
  have hcanonical := (Text.isCanonical_of_upperOrDigit h.upper).take 8
  have hfront : (t.take 8).take 6 = t.take 6 := List.take_take
  have hcompleted : completed (t.take 8) = t.take 8 ++ primaryOffice := if_pos hlength
  rw [parse_eq_ok_iff, hcanonical.trim_eq, hcanonical.asciiUpper_eq]
  refine ⟨hcompleted.symm, hasShape_iff.2 ⟨.inl hlength, ?_, by rw [hfront]; exact h.letters⟩, ?_⟩
  · exact fun c hc => h.isShaped.alphanum c (List.mem_of_mem_take hc)
  · rw [Text.slice, hfront]
    exact h.listed

end

variable {x y : Bic}

/-- The place of the test mark, the second character of the location. -/
def markPlace : Nat := 7

/-- Two codes are alike in all places but that of the test mark. -/
def AlikeBesidesMark (x y : Bic) : Prop := ∀ i, i ≠ markPlace → x.text[i]? = y.text[i]?

theorem isTest_iff : x.isTest = true ↔ x.text[markPlace]? = some '0' := beq_iff_eq

theorem branch_eq_drop (h : IsNormal x.text) : x.branch = x.text.drop 8 := by
  rw [branch, Text.slice, List.take_of_length_le (by rw [h.length])]

/-- A code falls into its four fields. -/
theorem fields_append (h : IsNormal x.text) : x.institution ++ x.countryCode ++ x.location ++ x.branch = x.text := by
  rw [institution, countryCode, location, branch, Text.take_append_slice _ (by decide),
    Text.take_append_slice _ (by decide), Text.take_append_slice _ (by decide),
    List.take_of_length_le (by rw [h.length])]

theorem testText_eq_set (h : IsNormal x.text) : x.testText = x.text.set markPlace '0' := by
  rw [testText, List.set_eq_take_append_cons_drop, if_pos (by rw [h.length]; decide)]
  rfl

theorem asTest_eq (h : IsNormal x.text) : x.asTest = .ok ⟨x.text.set markPlace '0'⟩ := by
  rw [asTest]
  split
  · rename_i htest
    have hsame : x.text.set markPlace '0' = x.text := by
      apply List.ext_getElem?
      intro i
      rw [List.getElem?_set]
      split
      · rename_i hi
        rw [← hi, isTest_iff.1 htest, if_pos (by rw [h.length]; decide)]
      · rfl
    rw [hsame]
  · rw [testText_eq_set h]
    exact (h.set (by decide) (by decide)).parse_eq

theorem set_mark_eq_iff (hx : IsNormal x.text) (hy : IsNormal y.text) :
    x.text.set markPlace '0' = y.text.set markPlace '0' ↔ x.AlikeBesidesMark y := by
  constructor
  · intro h i hi
    have hget := congrArg (fun t : Text => t[i]?) h
    simpa only [List.getElem?_set_ne (Ne.symm hi)] using hget
  · intro h
    apply List.ext_getElem?
    intro i
    by_cases hi : i = markPlace
    · subst hi
      rw [List.getElem?_set_self (by rw [hx.length]; decide), List.getElem?_set_self (by rw [hy.length]; decide)]
    · rw [List.getElem?_set_ne (Ne.symm hi), List.getElem?_set_ne (Ne.symm hi)]
      exact h i hi

theorem asTest_of_isTest (h : x.isTest = true) : x.asTest = .ok x := if_pos h

theorem isTest_set_mark (h : IsNormal x.text) : Bic.isTest ⟨x.text.set markPlace '0'⟩ = true :=
  isTest_iff.2 (List.getElem?_set_self (by rw [h.length]; decide))

theorem set_mark_eq_self_iff (h : IsNormal x.text) : Bic.mk (x.text.set markPlace '0') = x ↔ x.isTest = true := by
  constructor
  · intro heq
    rw [← heq]
    exact isTest_set_mark h
  · intro htest
    exact Except.ok.inj ((asTest_eq h).symm.trans (asTest_of_isTest htest))

theorem take_eight_append_eq_iff (h : IsNormal x.text) :
    Bic.mk (x.text.take 8 ++ primaryOffice) = x ↔ x.branch = primaryOffice := by
  have htext : x.text.take 8 ++ x.branch = x.text := by rw [branch_eq_drop h, List.take_append_drop]
  constructor
  · intro heq
    have hsame := (congrArg Bic.text heq).trans htext.symm
    exact (List.append_cancel_left hsame).symm
  · intro hbranch
    rw [← hbranch, htext]

/-- A text is read exactly if its trimmed part is a code up to case; otherwise the shape is the reason, and the country
is one only if the shape is right. However a code was obtained, it falls into its fields, its first eight characters are
the code of its primary office, and its test code is made by a change in one place. So codes share their test code
exactly if they are alike in all others. -/
theorem parse_exact_and_marked :
    (∀ v : Text, ((∃ x, parse v = .ok x) ↔ IsCode v.trim) ∧
      (¬ IsShaped v.trim → parse v = .error ⟨.bic, v, .notWellFormed⟩) ∧
      (IsShaped v.trim → ¬ IsCode v.trim → parse v = .error ⟨.bic, v, .unknownCountry⟩)) ∧
    (∀ x : Bic, Obtained (.bic x) →
      (x.text.length = 11 ∧ x.institution.length = 4 ∧ x.countryCode.length = 2 ∧ x.location.length = 2 ∧
        x.branch.length = 3 ∧ x.text = x.institution ++ x.countryCode ++ x.location ++ x.branch) ∧
      (∃ y, parse (x.text.take 8) = .ok y ∧ (y = x ↔ x.branch = "XXX".toList)) ∧
      ∃ y, x.asTest = .ok y ∧ y.isTest = true ∧ y.AlikeBesidesMark x ∧ (y = x ↔ x.isTest = true) ∧
        y.asTest = .ok y) ∧
    ∀ x y : Bic, Obtained (.bic x) → Obtained (.bic y) → (x.asTest = y.asTest ↔ x.AlikeBesidesMark y) := by
  refine ⟨fun v => ⟨exists_parse_iff, parse_of_not_isShaped, parse_of_not_isCode⟩,
    fun x hx => ⟨?_, ?_, ?_⟩, fun x y hx hy => ?_⟩
  · have h := isNormal_of_obtained hx
    have hlen := h.length
    refine ⟨hlen, ?_, ?_, ?_, ?_, (fields_append h).symm⟩
    · simp [institution, hlen]
    · simp [countryCode, Text.length_slice, hlen]
    · simp [location, Text.length_slice, hlen]
    · simp [branch, Text.length_slice, hlen]
  · have h := isNormal_of_obtained hx
    exact ⟨_, h.parse_take_eight, take_eight_append_eq_iff h⟩
  · have h := isNormal_of_obtained hx
    have htest := isTest_set_mark h
    refine ⟨_, asTest_eq h, htest, fun i hi => ?_, set_mark_eq_self_iff h, asTest_of_isTest htest⟩
    exact List.getElem?_set_ne (Ne.symm hi)
  · have h := isNormal_of_obtained hx
    have h' := isNormal_of_obtained hy
    rw [asTest_eq h, asTest_eq h', Except.ok.injEq, Bic.mk.injEq, set_mark_eq_iff h h']

/-- A text that is too short, one of an unknown country, and two codes with the same test code. -/
theorem parse_exact_and_marked_psst :
    ¬ IsShaped (Text.trim "PSSTFRP") ∧ parse "PSSTFRP" = .error ⟨.bic, "PSSTFRP", .notWellFormed⟩ ∧
      IsShaped (Text.trim " psstzzpp") ∧ ¬ IsCode (Text.trim " psstzzpp") ∧
      parse " psstzzpp" = .error ⟨.bic, " psstzzpp", .unknownCountry⟩ ∧
      Obtained (.bic ⟨"PSSTFRPPXXX"⟩) ∧
      (∃ y : Bic, Bic.asTest ⟨"PSSTFRPPXXX"⟩ = .ok y ∧ y.isTest = true ∧ y.AlikeBesidesMark ⟨"PSSTFRPPXXX"⟩) ∧
      Obtained (.bic ⟨"PSSTFRP2XXX"⟩) ∧ AlikeBesidesMark ⟨"PSSTFRPPXXX"⟩ ⟨"PSSTFRP2XXX"⟩ := by
  have hcode : Obtained (.bic ⟨"PSSTFRPPXXX"⟩) := .read .bic (.text " psstfrpp ") (by decide +kernel)
  have hother : Obtained (.bic ⟨"PSSTFRP2XXX"⟩) := .read .bic (.text "psstfrp2xxx") (by decide +kernel)
  have hshort : ¬ IsShaped (Text.trim "PSSTFRP") := by decide +kernel
  have hshaped : IsShaped (Text.trim " psstzzpp") := by decide +kernel
  have hforeign : ¬ IsCode (Text.trim " psstzzpp") := by decide +kernel
  obtain ⟨hread, hobtained, hpair⟩ := parse_exact_and_marked
  obtain ⟨-, -, y, hy, htest, halike, -⟩ := hobtained _ hcode
  exact ⟨hshort, (hread "PSSTFRP").2.1 hshort, hshaped, hforeign, (hread " psstzzpp").2.2 hshaped hforeign, hcode,
    ⟨y, hy, htest, halike⟩, hother, (hpair _ _ hcode hother).1 (by decide +kernel)⟩

end Bic
end PaymentIdentifiers
