import PaymentIdentifiers.Proofs.Identifier.Reading
import PaymentIdentifiers.Proofs.Luhn.Detection
import PaymentIdentifiers.Proofs.Text.Regular

/-!
# The issuer of a card number

The issuer is found from the beginning and the length of a number, which can be said of its digits or written as a regular
expression, and reading a number goes by the same rule: without an issuer it is not well formed, and with one only the
checksum decides. Separators are put in and taken out one by one without any effect on either.
-/
namespace PaymentIdentifiers

/-- The numbers of an issuer: how long they are and what they begin with. -/
def Issuer.Issues : Issuer → Text → Prop
  | .visa, n => Text.AllDigits n ∧ (n.length = 13 ∨ n.length = 16) ∧ n.head? = some '4'
  | .mastercard, n => Text.AllDigits n ∧ n.length = 16 ∧ 51 ≤ Text.toNat (n.take 2) ∧ Text.toNat (n.take 2) ≤ 55

instance : (i : Issuer) → (n : Text) → Decidable (i.Issues n)
  | .visa, _ => inferInstanceAs (Decidable (_ ∧ _))
  | .mastercard, _ => inferInstanceAs (Decidable (_ ∧ _))

/-- The numbers of an issuer as a regular expression. -/
def Issuer.expression : Issuer → RegularExpression Char
  | .visa => .char '4' * (Text.oneOf Text.decimals ^ 12 * (Text.oneOf Text.decimals ^ 3 + 1))
  | .mastercard => .char '5' * (Text.oneOf "12345" * Text.oneOf Text.decimals ^ 14)

namespace Card

variable {n : Text} {i : Issuer}

theorem one_to_five_iff {d : Char} : '1' ≤ d ∧ d ≤ '5' ↔ 49 ≤ d.toNat ∧ d.toNat ≤ 53 := Iff.rfl

/-- Two digits make a number from 51 to 55 only as a 5 with a digit from 1 to 5. -/
theorem toNat_two_iff {c d : Char} (hc : c.isDigit = true) (hd : d.isDigit = true) :
    51 ≤ Text.toNat [c, d] ∧ Text.toNat [c, d] ≤ 55 ↔ c = '5' ∧ '1' ≤ d ∧ d ≤ '5' := by
  rw [Text.isDigit_iff] at hc hd
  rw [Text.toNat_cons, Text.toNat_singleton, one_to_five_iff, ← Char.toNat_inj]
  change _ ↔ c.toNat = 53 ∧ _
  simp only [List.length_singleton, pow_one]
  omega

theorem issues_of_issuerOf? (h : issuerOf? n = some i) : i.Issues n := by
  obtain ⟨-, hdigits⟩ := length_of_issuerOf? h
  have hall : n.all Char.isDigit = true := List.all_eq_true.2 hdigits
  simp only [issuerOf?, hall, Bool.not_true, Bool.false_eq_true, if_false] at h
  split at h
  · split at h
    · rename_i hlen
      obtain rfl := Option.some.inj h
      exact ⟨hdigits, hlen, rfl⟩
    · contradiction
  · rename_i d r
    split at h
    · rename_i hd
      obtain rfl := Option.some.inj h
      exact ⟨hdigits, hd.2.2, (toNat_two_iff rfl (hdigits d (by simp))).2 ⟨rfl, hd.1, hd.2.1⟩⟩
    · contradiction
  · contradiction

theorem issuerOf?_of_issues (h : i.Issues n) : issuerOf? n = some i := by
  cases i with
  | visa =>
    obtain ⟨hdigits, hlen, hhead⟩ := h
    obtain ⟨r, rfl⟩ := List.head?_eq_some_iff.1 hhead
    have hall : ('4' :: r).all Char.isDigit = true := List.all_eq_true.2 hdigits
    simp only [issuerOf?, hall, Bool.not_true, Bool.false_eq_true, if_false, if_pos hlen]
  | mastercard =>
    obtain ⟨hdigits, hlen, hstart⟩ := h
    match n with
    | c :: d :: r =>
      obtain ⟨rfl, hd⟩ := (toNat_two_iff (hdigits c (by simp)) (hdigits d (by simp))).1 hstart
      have hall : ('5' :: d :: r).all Char.isDigit = true := List.all_eq_true.2 hdigits
      simp only [issuerOf?, hall, Bool.not_true, Bool.false_eq_true, if_false, hd, hlen, and_self, if_true]

theorem issuerOf?_eq_some_iff : issuerOf? n = some i ↔ i.Issues n := ⟨issues_of_issuerOf?, issuerOf?_of_issues⟩

theorem issuerOf?_eq_none_iff : issuerOf? n = none ↔ ∀ i : Issuer, ¬ i.Issues n := by
  simp only [Option.eq_none_iff_forall_ne_some, ne_eq, issuerOf?_eq_some_iff]

/-- Twelve digits, and then three more or nothing. -/
theorem mem_visa_tail_iff {u : Text} :
    u ∈ (Text.oneOf Text.decimals ^ 12 * (Text.oneOf Text.decimals ^ 3 + 1)).matches' ↔
      (u.length = 12 ∨ u.length = 15) ∧ Text.AllDigits u := by
  rw [RegularExpression.matches'_mul, Language.mem_mul]
  simp only [RegularExpression.matches'_add, RegularExpression.matches'_epsilon, Language.mem_add, Language.mem_one,
    Text.mem_decimals_pow_iff]
  constructor
  · rintro ⟨a, ⟨hlen, ha⟩, b, ⟨hlen', hb⟩ | rfl, rfl⟩
    · exact ⟨.inr (by rw [List.length_append, hlen, hlen']), Text.allDigits_append.2 ⟨ha, hb⟩⟩
    · rw [List.append_nil]
      exact ⟨.inl hlen, ha⟩
  · rintro ⟨hlen, hu⟩
    have hpieces := List.take_append_drop 12 u
    rw [← hpieces, Text.allDigits_append] at hu
    refine ⟨u.take 12, ⟨List.length_take_of_le (by omega), hu.1⟩, u.drop 12, ?_, hpieces⟩
    rcases hlen with h | h
    · exact .inr (List.drop_of_length_le (by omega))
    · exact .inl ⟨by rw [List.length_drop, h], hu.2⟩

/-- A digit from 1 to 5, and then fourteen digits. -/
theorem mem_mastercard_tail_iff {u : Text} :
    u ∈ (Text.oneOf "12345" * Text.oneOf Text.decimals ^ 14).matches' ↔
      ∃ d r, u = d :: r ∧ ('1' ≤ d ∧ d ≤ '5') ∧ r.length = 14 ∧ Text.AllDigits r := by
  have hsecond {d : Char} : d ∈ "12345".toList ↔ '1' ≤ d ∧ d ≤ '5' := by
    have hcodes : "12345".toList.map Char.toNat = List.range' 49 5 := by decide
    rw [Text.mem_iff_of_toNat hcodes, one_to_five_iff]
    omega
  rw [RegularExpression.matches'_mul, Language.mem_mul]
  simp only [Text.mem_oneOf_iff, Text.mem_decimals_pow_iff, hsecond]
  constructor
  · rintro ⟨_, ⟨d, hd, rfl⟩, r, hr, rfl⟩
    exact ⟨d, r, rfl, hd, hr⟩
  · rintro ⟨d, r, rfl, hd, hr⟩
    exact ⟨[d], ⟨d, hd, rfl⟩, r, hr, rfl⟩

theorem mem_expression_iff : n ∈ i.expression.matches' ↔ i.Issues n := by
  cases i with
  | visa =>
    simp only [Issuer.expression, Issuer.Issues, Text.mem_char_mul_iff, mem_visa_tail_iff]
    constructor
    · rintro ⟨u, ⟨hlen, hu⟩, rfl⟩
      exact ⟨List.forall_mem_cons.2 ⟨rfl, hu⟩, by rw [List.length_cons]; omega, rfl⟩
    · rintro ⟨hn, hlen, hhead⟩
      obtain ⟨u, rfl⟩ := List.head?_eq_some_iff.1 hhead
      rw [List.length_cons] at hlen
      exact ⟨u, ⟨by omega, (List.forall_mem_cons.1 hn).2⟩, rfl⟩
  | mastercard =>
    simp only [Issuer.expression, Issuer.Issues, Text.mem_char_mul_iff, mem_mastercard_tail_iff]
    constructor
    · rintro ⟨_, ⟨d, r, rfl, hd, hlen, hr⟩, rfl⟩
      have hdigit : d.isDigit = true := by
        rw [one_to_five_iff] at hd
        exact Text.isDigit_iff.2 ⟨by omega, by omega⟩
      refine ⟨?_, by simp [hlen], (toNat_two_iff rfl hdigit).2 ⟨rfl, hd⟩⟩
      exact List.forall_mem_cons.2 ⟨rfl, List.forall_mem_cons.2 ⟨hdigit, hr⟩⟩
    · rintro ⟨hn, hlen, hstart⟩
      match n with
      | c :: d :: r =>
        obtain ⟨hc, hn⟩ := List.forall_mem_cons.1 hn
        obtain ⟨hd, hr⟩ := List.forall_mem_cons.1 hn
        obtain ⟨rfl, hd⟩ := (toNat_two_iff hc hd).1 hstart
        exact ⟨d :: r, ⟨d, r, rfl, hd, by simpa using hlen, hr⟩, rfl⟩

/-- A text, and the text with one separator more. -/
inductive Spread : Text → Text → Prop
  | insert (s t : Text) {c : Char} (h : isSeparator c = true) : Spread (s ++ t) (s ++ c :: t)

theorem compact_eq_of_spread {v w : Text} (h : Spread v w) : compact v = compact w := by
  cases h with
  | insert s t hc => simp [compact, hc]

/-- Every text is spread from its compact form, one separator at a time. -/
theorem eqvGen_compact (s v : Text) : Relation.EqvGen Spread (s ++ compact v) (s ++ v) := by
  induction v generalizing s with
  | nil => exact .refl _
  | cons c v ih =>
    by_cases hc : isSeparator c = true
    · have hcompact : compact (c :: v) = compact v := by simp [compact, hc]
      rw [hcompact]
      exact .trans _ _ _ (ih s) (.rel _ _ (.insert s v hc))
    · have hcompact : compact (c :: v) = c :: compact v := by simp [compact, hc]
      rw [hcompact, List.append_cons s c (compact v), List.append_cons s c v]
      exact ih (s ++ [c])

/-- Texts with the same compact form are those that separators put in and taken out turn into each other. -/
theorem eqvGen_spread_iff {v w : Text} : Relation.EqvGen Spread v w ↔ compact v = compact w := by
  constructor
  · intro h
    induction h with
    | rel v w h => exact compact_eq_of_spread h
    | refl v => rfl
    | symm v w _ ih => exact ih.symm
    | trans u v w _ _ ih ih' => exact ih.trans ih'
  · intro h
    have hv := eqvGen_compact [] v
    have hw := eqvGen_compact [] w
    rw [h] at hv
    exact .trans _ _ _ (.symm _ _ hv) hw

theorem parse_of_issuerFor? {v : Text} (h : issuerFor? v = some i) : parse v =
    if 10 ∣ Luhn.checksum (compact v) then .ok ⟨compact v, i⟩ else .error ⟨.cardNumber, v, .incorrectCheckDigit⟩ := by
  obtain ⟨hlen, hdigits⟩ := length_of_issuerOf? h
  have hne : compact v ≠ [] := List.ne_nil_of_length_pos (by omega)
  have hvalid : Luhn.isValid (compact v) = true ↔ 10 ∣ Luhn.checksum (compact v) := by
    rw [Luhn.isValid_iff]
    exact ⟨fun h => h.2.2, fun h => ⟨hne, hdigits, h⟩⟩
  rw [issuerFor?] at h
  have hreads := reads_parse v
  generalize parse v = r at hreads
  cases hreads with
  | notWellFormed hi => simp [hi] at h
  | incorrectCheckDigit j hi hl => rw [if_neg fun h => by simp [hvalid.2 h] at hl]
  | accepted j hi hl =>
    obtain rfl := Option.some.inj (hi.symm.trans h)
    rw [if_pos (hvalid.1 hl)]

theorem parse_of_issuerFor?_eq_none {v : Text} (h : issuerFor? v = none) :
    parse v = .error ⟨.cardNumber, v, .notWellFormed⟩ := by
  rw [issuerFor?] at h
  rw [parse, h]
  rfl

/-- The issuer of a number and its reading agree. The issuer is the one whose rule and whose expression the number fits, and
there is none if it fits no rule. A number is rejected as not well formed just when it has no issuer; with an issuer, the
checksum alone decides between the card and an incorrect check digit. Separators put in or taken out anywhere change
neither the issuer nor the outcome, but for the text that a rejection quotes. -/
theorem issuer_and_reading_agree (v : Text) :
    (∀ i : Issuer, (issuerFor? v = some i ↔ i.Issues (compact v)) ∧
      (issuerFor? v = some i ↔ compact v ∈ i.expression.matches')) ∧
    (issuerFor? v = none ↔ ∀ i : Issuer, ¬ i.Issues (compact v)) ∧
    (parse v = .error ⟨.cardNumber, v, .notWellFormed⟩ ↔ issuerFor? v = none) ∧
    (∀ i, issuerFor? v = some i → parse v =
      if 10 ∣ Luhn.checksum (compact v) then .ok ⟨compact v, i⟩
      else .error ⟨.cardNumber, v, .incorrectCheckDigit⟩) ∧
    ∀ w, Relation.EqvGen Spread v w →
      issuerFor? w = issuerFor? v ∧ parse w = (parse v).mapError (Rejection.about w) := by
  refine ⟨fun i => ⟨issuerOf?_eq_some_iff, issuerOf?_eq_some_iff.trans mem_expression_iff.symm⟩, issuerOf?_eq_none_iff,
    ⟨fun h => ?_, parse_of_issuerFor?_eq_none⟩, fun i => parse_of_issuerFor?, fun w h => ?_⟩
  · cases hissuer : issuerFor? v with
    | none => rfl
    | some i =>
      rw [parse_of_issuerFor? hissuer] at h
      split at h <;> simp at h
  · rw [eqvGen_spread_iff] at h
    exact ⟨by rw [issuerFor?, issuerFor?, h], parse_congr h.symm⟩

/-- A Visa number with blanks and with hyphens, and a Mastercard number with an incorrect check digit. -/
theorem issuer_and_reading_agree_visa :
    let v : Text := "4779 4434 2971 7849"
    let w : Text := "4779-4434-29717849"
    let x : Text := "5412345678912345"
    issuerFor? v = some .visa ∧ parse v = .ok ⟨"4779443429717849", .visa⟩ ∧ Relation.EqvGen Spread v w ∧
      parse w = .ok ⟨"4779443429717849", .visa⟩ ∧ issuerFor? x = some .mastercard ∧
      parse x = .error ⟨.cardNumber, x, .incorrectCheckDigit⟩ := by
  intro v w x
  obtain ⟨hissuer, -, -, hparse, hspread⟩ := issuer_and_reading_agree v
  obtain ⟨hissuer', -, -, hparse', -⟩ := issuer_and_reading_agree x
  have hvisa : issuerFor? v = some .visa := (hissuer .visa).1.2 (by decide)
  have hmastercard : issuerFor? x = some .mastercard := (hissuer' .mastercard).1.2 (by decide)
  have hv : parse v = .ok ⟨"4779443429717849", .visa⟩ := by
    rw [hparse .visa hvisa, if_pos (by decide)]
    rfl
  have hsame : Relation.EqvGen Spread v w := eqvGen_spread_iff.2 (by decide)
  refine ⟨hvisa, hv, hsame, ?_, hmastercard, ?_⟩
  · rw [(hspread w hsame).2, hv]
    rfl
  · rw [hparse' .mastercard hmastercard, if_neg (by decide)]

end Card
end PaymentIdentifiers
