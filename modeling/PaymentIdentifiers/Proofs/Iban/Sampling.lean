import PaymentIdentifiers.Proofs.Bban.Construction
import PaymentIdentifiers.Proofs.Iban.Fields
import PaymentIdentifiers.Proofs.Text.Shape

/-!
# Random account numbers are valid

A random account number is drawn from the groups as they are written, and validated in upper case against the groups
with neighbours joined. Both go by the class of each position, and the classes of the registry keep their letters in
upper case. So whatever is drawn is accepted, and building an account number from it fails for a country without a
structure only.
-/
namespace PaymentIdentifiers

theorem exists_left_of_forall₂ {α β : Type} {R : α → β → Prop} {as : List α} {bs : List β} (h : List.Forall₂ R as bs)
    {b : β} (hb : b ∈ bs) : ∃ a ∈ as, R a b := by
  obtain ⟨i, hi, rfl⟩ := List.mem_iff_getElem.1 hb
  have hia : i < as.length := h.length_eq ▸ hi
  exact ⟨as[i], List.getElem_mem hia, h.get hia hi⟩

namespace Swift

variable {ks : List CharClass} {t : Text}

theorem CharClass.has_sample (k : CharClass) (n : Int) : k.has (k.sample n) = true :=
  has_of_mem_alphabet (choose_mem n k.alphabet k.alphabet_ne_nil)

/-- The members of a class stay members in upper case. -/
theorem CharClass.has_toUpper {k : CharClass} {c : Char} (h : k.has c = true) : k.has c.toUpper = true := by
  have hsame (hc : ¬ c.isLower = true) : k.has c.toUpper = true := by
    rwa [Text.toUpper_of_not_isLower (Bool.eq_false_iff.2 hc)]
  cases k with
  | digits =>
    have hdigit := Text.isDigit_iff.1 h
    exact hsame (by rw [Text.isLower_iff]; omega)
  | upperLetters =>
    have hupper := Text.isUpper_iff.1 h
    exact hsame (by rw [Text.isLower_iff]; omega)
  | alphanumerics => exact Text.isAlphanum_toUpper h
  | spaces =>
    obtain rfl : c = ' ' := by simpa [has] using h
    exact hsame (by decide)

theorem CharClass.isAlphanum_of_has_of_ne {k : CharClass} {c : Char} (h : k.has c = true) (hk : k ≠ .spaces) :
    c.isAlphanum = true := by
  apply (isAlphanum_of_has h).resolve_right
  rintro rfl
  cases k with
  | spaces => exact hk rfl
  | digits | upperLetters | alphanumerics => exact absurd h (by decide)

/-- Each character is chosen by the draw for its position. -/
theorem getElem?_sampleClasses (d : Draws) (ks : List CharClass) (i : Nat) :
    (sampleClasses d ks)[i]? = ks[i]?.map fun k => k.sample (d i) := by
  induction ks generalizing d i with
  | nil => rfl
  | cons k ks ih =>
    cases i with
    | zero => rfl
    | succ i =>
      rw [sampleClasses, List.getElem?_cons_succ, List.getElem?_cons_succ, ih, Draws.skip, Nat.add_comm]

theorem length_sampleClasses (d : Draws) (ks : List CharClass) : (sampleClasses d ks).length = ks.length := by
  induction ks generalizing d with
  | nil => rfl
  | cons k ks ih => rw [sampleClasses, List.length_cons, ih, List.length_cons]

theorem forall₂_sampleClasses (d : Draws) (ks : List CharClass) :
    List.Forall₂ (fun k c => k.has c = true) ks (sampleClasses d ks) := by
  induction ks generalizing d with
  | nil => exact .nil
  | cons k ks ih => exact .cons (k.has_sample (d 0)) (ih (d.skip 1))

/-- No other draws are looked at than those for the positions. -/
theorem sampleClasses_congr {d e : Draws} (h : ∀ i < ks.length, d i = e i) :
    sampleClasses d ks = sampleClasses e ks := by
  apply List.ext_getElem?
  intro i
  rw [getElem?_sampleClasses, getElem?_sampleClasses]
  rcases Nat.lt_or_ge i ks.length with hi | hi
  · rw [h i hi]
  · rw [List.getElem?_eq_none hi]
    rfl

theorem Pattern.accepts_asciiUpper {e : Text} {p : Pattern} (h : compile e = .ok p) (ht : p.accepts t = true) :
    p.accepts t.asciiUpper = true := by
  rw [accepts_iff_forall₂ h] at ht ⊢
  rw [Text.asciiUpper, List.forall₂_map_right_iff]
  exact ht.imp fun k c => CharClass.has_toUpper

end Swift

namespace Bban

variable {code t : Text} {l : Layout}

/-- A text is drawn for a structure: one character for each position, chosen from the class of the position by the
draw with its number. -/
structure Layout.DrawnBy (l : Layout) (d : Draws) (t : Text) : Prop where
  length_eq : t.length = l.bbanLength
  chosen : ∀ i < l.bbanLength, ∃ k, l.pattern.classes[i]? = some k ∧ t[i]? = some (k.sample (d i))

theorem Layout.drawnBy_sample (l : Layout) (d : Draws) : l.DrawnBy d (l.sample d) where
  length_eq := (Swift.length_sampleClasses d _).trans l.pattern.length_classes
  chosen i hi := by
    have hk : i < l.pattern.classes.length := l.pattern.length_classes.symm ▸ hi
    refine ⟨l.pattern.classes[i], List.getElem?_eq_getElem hk, ?_⟩
    rw [sample, Swift.getElem?_sampleClasses, List.getElem?_eq_getElem hk, Option.map_some]

/-- What is drawn for a structure is accepted by it. -/
theorem Layout.accepts_sample {e : Text} (h : Swift.Pattern.compile e = .ok l.pattern) (d : Draws) :
    l.accepts (l.sample d) = true :=
  (Swift.Pattern.accepts_iff_forall₂ h _).2 (Swift.forall₂_sampleClasses d l.pattern.classes)

/-- The structures of the registry accept letters and digits only. -/
theorem Layout.allAlphanum_of_accepts (h : layoutOf code = some l) (ht : l.accepts t = true) : t.AllAlphanum := by
  intro c hc
  obtain ⟨row, -, -, hp⟩ := layoutOf_pattern h
  obtain ⟨k, hk, hhas⟩ := exists_left_of_forall₂ ((Swift.Pattern.accepts_iff_forall₂ hp t).1 ht) hc
  apply Swift.CharClass.isAlphanum_of_has_of_ne hhas
  rintro rfl
  exact (format_of_layoutOf h).2.2 hk

/-- They accept the canonical form of what they accept. -/
theorem Layout.accepts_canonical (h : layoutOf code = some l) (ht : l.accepts t = true) :
    l.accepts t.canonical = true := by
  obtain ⟨row, -, -, hp⟩ := layoutOf_pattern h
  rw [(allAlphanum_of_accepts h ht).canonical_eq]
  exact Swift.Pattern.accepts_asciiUpper hp ht

/-- Each of them is the structure of its own country. -/
theorem layoutOf_country (h : l ∈ Registry.standard.layouts) : layoutOf l.country = some l := by
  obtain ⟨row, hrow, hl⟩ := exists_left_of_forall₂ (Registry.forall₂_layouts Registry.build_tableRows) h
  refine layoutOf_eq_some_iff.2 ⟨row, hrow, ?_, hl⟩
  rw [(Row.follows_of_layout hl).country]
  exact List.mem_cons_self

end Bban

/-- The code of the chosen country decides by itself whether there is a structure. -/
theorem chooseLayout_eq {countries : List CountryArgument} {hne : countries ≠ []} {n : Int} {ref : CountryRef}
    (h : (choose n countries hne).ref = .ok ref) : chooseLayout countries n =
      (Bban.layoutOf ref.alpha2).elim (.error (.noStructure ref.alpha2)) fun l => .ok (ref.alpha2, l) := by
  obtain ⟨c, cs, rfl⟩ := List.exists_cons_of_ne_nil hne
  -- The lookup is taken as any function, so that the table is not searched for an unknown country.
  obtain ⟨lookup, hlookup⟩ : ∃ lookup, lookup = Bban.layoutOf := ⟨_, rfl⟩
  rw [chooseLayout, ← hlookup, h]
  dsimp only
  cases lookup ref.alpha2 with
  | none => rfl
  | some l => rfl

theorem chooseLayout_nil (n : Int) : ∃ l ∈ Bban.Registry.standard.layouts, chooseLayout [] n = .ok (l.country, l) ∧
    l = choose n Bban.Registry.standard.layouts (Bban.Registry.layouts_ne_nil Bban.Registry.standard_ne_nil) :=
  ⟨_, choose_mem _ _ _, rfl, rfl⟩

namespace Iban

variable {countries : List CountryArgument} {d : Draws}

/-- With a structure for the chosen code, an account number is drawn whatever the other draws are. -/
theorem exists_sample {code : Text} {l : Bban.Layout} (h : chooseLayout countries (d 0) = .ok (code, l))
    (hl : Bban.layoutOf code = some l) :
    ∃ x, sample countries d = .ok x ∧ parse x.text = .ok x ∧ x.countryCode = code := by
  have hlisted := Bban.mem_countryCodes_of_layoutOf hl
  have hcode : (CountryRef.code code).alpha2 = code := CountryRef.alpha2_code (Country.isCanonical_of_mem_codes hlisted)
  obtain ⟨row, -, -, hp⟩ := Bban.layoutOf_pattern hl
  have haccepts := Bban.Layout.accepts_canonical hl (Bban.Layout.accepts_sample hp (d.skip 1))
  have hbuildable : Buildable (.code code) (l.sample (d.skip 1)).canonical l :=
    ⟨hcode.symm ▸ hlisted, hcode.symm ▸ hl, haccepts⟩
  obtain ⟨x, hx⟩ : ∃ x, fromParts (.code code) (l.sample (d.skip 1)) = .ok x :=
    ⟨_, fromParts_eq_ok_iff.2 ⟨rfl, l, hbuildable⟩⟩
  refine ⟨x, ?_, parse_text_of_fromParts hx, (parts_of_fromParts hx).2.1.trans hcode⟩
  rw [sample, h]
  exact mapError_eq_ok_iff.2 hx

/-- Whatever is drawn for a structure is accepted by it, and each of its positions takes one draw. From countries an
account number of the chosen one is drawn, or there is no structure for it; without countries, one of the chosen
structure. -/
theorem samples_valid :
    (∀ (e : Text) (l : Bban.Layout), Swift.Pattern.compile e = .ok l.pattern → ∀ d : Draws,
      l.accepts (l.sample d) = true ∧ l.DrawnBy d (l.sample d) ∧
        ∀ d' : Draws, (∀ i < l.bbanLength, d' i = d i) → l.sample d' = l.sample d) ∧
    (∀ (countries : List CountryArgument) (hne : countries ≠ []) (d : Draws) (ref : CountryRef),
      (choose (d 0) countries hne).ref = .ok ref →
        (ref.alpha2 ∈ Bban.Registry.standard.codes →
          ∃ x, sample countries d = .ok x ∧ parse x.text = .ok x ∧ x.countryCode = ref.alpha2) ∧
        (ref.alpha2 ∉ Bban.Registry.standard.codes → sample countries d = .error (.noStructure ref.alpha2))) ∧
    (∀ d : Draws, ∃ x, sample [] d = .ok x ∧ parse x.text = .ok x ∧ x.countryCode =
      (choose (d 0) Bban.Registry.standard.layouts
        (Bban.Registry.layouts_ne_nil Bban.Registry.standard_ne_nil)).country) := by
  refine ⟨fun e l hl d => ⟨?_, Bban.Layout.drawnBy_sample l d, ?_⟩, fun countries hne d ref href => ⟨?_, ?_⟩, ?_⟩
  · exact Bban.Layout.accepts_sample hl d
  · intro d' hd
    exact Swift.sampleClasses_congr (by rwa [Swift.Pattern.length_classes])
  · intro hcode
    obtain ⟨l, hl⟩ := Bban.mem_codes_iff_layoutOf.1 hcode
    apply exists_sample _ hl
    rw [chooseLayout_eq href, hl]
    rfl
  · intro hcode
    have hnone : Bban.layoutOf ref.alpha2 = none := Bban.Registry.find?_eq_none_iff.2 hcode
    rw [sample, chooseLayout_eq href, hnone]
    rfl
  · intro d
    obtain ⟨l, hmem, hchoose, hl⟩ := chooseLayout_nil (d 0)
    rw [← hl]
    exact exists_sample hchoose (Bban.layoutOf_country hmem)

/-- Ten draws for a pattern with all classes. From two countries an odd number draws the second one, which is Réunion,
and an even number the first one, which has no structure. -/
theorem samples_valid_re :
    (∃ l : Bban.Layout, Swift.Pattern.compile "2!a3!c1!e4!n" = .ok l.pattern ∧
        l.sample (fun k => 3 + 7 * k) = "DKhov 5296" ∧ l.accepts "DKhov 5296" = true) ∧
      (∃ x, sample [.datum (.text "US"), .datum (.text " re ")] (fun k => 3 + 7 * k) = .ok x ∧
        parse x.text = .ok x ∧ x.countryCode = "RE") ∧
      sample [.datum (.text "US"), .datum (.text " re ")] (fun k => 4 + 7 * k) = .error (.noStructure "US") := by
  refine ⟨?_, ?_, ?_⟩
  · obtain ⟨l, hl⟩ : ∃ l : Bban.Layout, Swift.Pattern.compile "2!a3!c1!e4!n" = .ok l.pattern :=
      ⟨⟨"XX", _, [], none, none, none, none⟩, rfl⟩
    have hsample : (Swift.Pattern.compile "2!a3!c1!e4!n").toOption.map
        (fun p => Swift.sampleClasses (fun k => 3 + 7 * k) p.classes) = some "DKhov 5296".toList := by
      decide +kernel
    rw [hl] at hsample
    have hdrawn : l.sample (fun k => 3 + 7 * k) = "DKhov 5296" := Option.some.inj hsample
    exact ⟨l, hl, hdrawn, hdrawn ▸ (samples_valid.1 _ l hl _).1⟩
  · have hcode : (CountryRef.code " re ").alpha2 = "RE" := by decide +kernel
    obtain ⟨l, hl, -⟩ := exists_layout_re
    have hdrawn := (samples_valid.2.1 [.datum (.text "US"), .datum (.text " re ")] (List.cons_ne_nil _ _)
      (fun k => 3 + 7 * k) (.code " re ") rfl).1
    rw [hcode] at hdrawn
    exact hdrawn (Bban.mem_codes_iff_layoutOf.2 ⟨l, hl⟩)
  · have hcode : (CountryRef.code "US").alpha2 = "US" := by decide +kernel
    have hnone : "US".toList ∉ Bban.Registry.standard.codes := by
      rw [Bban.Registry.codes_standard]
      decide +kernel
    have hdrawn := (samples_valid.2.1 [.datum (.text "US"), .datum (.text " re ")] (List.cons_ne_nil _ _)
      (fun k => 4 + 7 * k) (.code "US") rfl).2
    rw [hcode] at hdrawn
    exact hdrawn hnone

end Iban

end PaymentIdentifiers
