import PaymentIdentifiers.Proofs.Bban.Fields
import PaymentIdentifiers.Proofs.Identifier.Provenance

/-!
# Sub-fields of international account numbers

The sub-fields of an account number are looked up again each time, by its country code. However it was obtained, the
country has a structure, which the account number follows: it is as long as the structure says, and each of its
sub-fields is in place. The check digits follow from the country code and the rest, and so they do not distinguish
account numbers.
-/
namespace PaymentIdentifiers

namespace Iban

/-- An account number that follows the structure of its country: none of the sub-fields of the structure is cut short or
out of place, and there are no others. -/
structure Follows (x : Iban) (l : Bban.Layout) : Prop where
  layout : x.layout? = some l
  length_eq : x.text.length = l.ibanLength
  length_le : l.ibanLength ≤ 34
  field : ∀ f r, l.range f = some r → x.field? f = some (r.slice x.bban) ∧ r.InPlace l.pattern x.bban
  field_none : ∀ f, l.range f = none → x.field? f = none

theorem field?_eq {x : Iban} {l : Bban.Layout} (h : x.layout? = some l) (f : Bban.Field) :
    x.field? f = (l.range f).map fun r => r.slice x.bban := by
  -- Opened at an account number, the definition would be compared by a search of the table for an unknown country.
  -- So it is opened before it is applied.
  have hopened : ∀ g, g = field? → g x f = (l.range f).map fun r => r.slice x.bban := by
    intro g hg
    delta field? at hg
    subst hg
    beta_reduce
    rw [h]
  exact hopened field? rfl

theorem follows_of_passes {x : Iban} {l : Bban.Layout} (h : Passes x.text l) : x.Follows l := by
  obtain ⟨row, -, -, hrow⟩ := Bban.layoutOf_eq_some_iff.1 h.layout
  have hlayout : x.layout? = some l := h.layout
  have haccepted : l.accepts x.bban = true := h.accepted
  have hlength : x.text.length = l.ibanLength := by
    have hbban := Swift.Pattern.length_of_accepts (Bban.Row.layout_eq_ok_iff.1 hrow).1 haccepted
    have hfour := four_le_length_of_wellFormed h.formed
    rw [bban, List.length_drop] at hbban
    rw [Bban.Layout.ibanLength]
    omega
  exact {
    layout := hlayout
    length_eq := hlength
    length_le := Nat.add_le_add_left (Bban.format_of_layoutOf h.layout).2.1 4
    field := fun f r hr =>
      ⟨by rw [field?_eq hlayout, hr, Option.map_some], Bban.Layout.inPlace_of_accepts hrow haccepted hr⟩
    field_none := fun f hf => by rw [field?_eq hlayout, hf, Option.map_none] }

theorem exists_follows {x : Iban} (h : Obtained (.iban x)) : ∃ l, x.Follows l := by
  obtain ⟨htext, l, hl⟩ := parse_eq_ok_iff.1 (parse_text_of_obtained h)
  exact ⟨l, follows_of_passes (htext ▸ hl)⟩

/-- The check digits of an account number are computed from the rest of it. -/
theorem eq_iff_of_obtained {x y : Iban} (hx : Obtained (.iban x)) (hy : Obtained (.iban y)) :
    x = y ↔ x.countryCode = y.countryCode ∧ x.bban = y.bban := by
  constructor
  · rintro rfl
    exact ⟨rfl, rfl⟩
  · rintro ⟨hcode, hbban⟩
    have hbuilt := fromParts_of_parse (parse_text_of_obtained hx)
    rw [hcode, hbban, fromParts_of_parse (parse_text_of_obtained hy)] at hbuilt
    exact (Except.ok.inj hbuilt).symm

/-- No sub-field is cut short or out of place: neither in what a structure accepts, nor in an account number however
it was obtained. Such account numbers are equal if their countries and national account numbers are. -/
theorem fields_in_place :
    (∀ (row : Bban.Row) (l : Bban.Layout), row.layout = .ok l → ∀ t, l.accepts t = true → ∀ f r, l.range f = some r →
      r.InPlace l.pattern t) ∧
    (∀ x, Obtained (.iban x) → ∃ l, x.Follows l) ∧
    (∀ x y, Obtained (.iban x) → Obtained (.iban y) → (x = y ↔ x.countryCode = y.countryCode ∧ x.bban = y.bban)) :=
  ⟨fun _ _ hl _ ht _ _ hr => Bban.Layout.inPlace_of_accepts hl ht hr, fun _ hx => exists_follows hx,
    fun _ _ hx hy => eq_iff_of_obtained hx hy⟩

/-- Réunion has the structure of France. -/
theorem exists_layout_re : ∃ l, Bban.layoutOf "RE" = some l ∧ l.accepts "20041010050500013M02606" = true ∧
    l.Follows (Bban.row "FR" "5!n5!n11!c2!n" (some (0, 5)) (some (5, 10)) (some (21, 23)) (some (10, 21))
      Bban.frenchTerritories) := by
  have hrow : Bban.row "FR" "5!n5!n11!c2!n" (some (0, 5)) (some (5, 10)) (some (21, 23)) (some (10, 21))
      Bban.frenchTerritories ∈ Bban.tableRows := by
    decide +kernel
  have haccepts : (Swift.Pattern.compile "5!n5!n11!c2!n").toOption.map
      (fun p => p.accepts "20041010050500013M02606") = some true := by
    decide +kernel
  obtain ⟨l, hl, hfollows⟩ := Bban.exists_follows_of_mem_tableRows hrow (by decide : "RE".toList ∈ _)
  rw [show Swift.Pattern.compile "5!n5!n11!c2!n" = .ok l.pattern from hfollows.pattern] at haccepts
  exact ⟨l, hl, Option.some.inj haccepts, hfollows⟩

/-- An account number of Réunion is built with the fields of the French structure. -/
theorem fields_in_place_re :
    ∃ x l, Obtained (.iban x) ∧ x.text = "RE4220041010050500013M02606" ∧ x.Follows l ∧ l.country = "FR" ∧
      x.field? .branch = some "01005".toList ∧ x.field? .nationalCheck = some "06".toList := by
  have hcode : (CountryRef.code "re").alpha2 = "RE" := by decide +kernel
  have hcan : Text.canonical "2004 1010 0505 0001 3m02 606" = "20041010050500013M02606" := by decide +kernel
  obtain ⟨l, hlayout, haccepts, hfrance⟩ := exists_layout_re
  have hbuilt : fromParts (.code "re") "2004 1010 0505 0001 3m02 606" = .ok ⟨"RE4220041010050500013M02606"⟩ := by
    rw [fromParts_eq_ok_iff, blank, hcode, hcan]
    exact ⟨by decide +kernel, l, by rw [hcode]; decide +kernel, by rw [hcode]; exact hlayout, haccepts⟩
  have hobtained := Obtained.ibanBuilt _ _ (ofArguments_text_eq_ok_iff.2 hbuilt)
  obtain ⟨k, hk⟩ := fields_in_place.2.1 _ hobtained
  have hlookup := hk.layout
  rw [layout?, show countryCode ⟨"RE4220041010050500013M02606"⟩ = "RE" by decide +kernel, hlayout] at hlookup
  obtain rfl := Option.some.inj hlookup
  have hbranch : l.range .branch = some ⟨5, 10, by decide⟩ := hfrance.range_eq_some_iff.2 rfl
  have hcheck : l.range .nationalCheck = some ⟨21, 23, by decide⟩ := hfrance.range_eq_some_iff.2 rfl
  exact ⟨_, l, hobtained, rfl, hk, hfrance.country, (hk.field _ _ hbranch).1, (hk.field _ _ hcheck).1⟩

end Iban
end PaymentIdentifiers
