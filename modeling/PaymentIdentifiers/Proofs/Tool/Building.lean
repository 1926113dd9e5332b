import PaymentIdentifiers.Proofs.CreditorIdentifier.Parts
import PaymentIdentifiers.Proofs.Iban.Parts
import PaymentIdentifiers.Proofs.Log.Discretion

/-!
# What the log shows of parts that cannot be put together

A tool that cannot build an identifier writes the message of the rejection to the log, and this message quotes a text as
it was given. The mask changes the quoted text only if it has the form of an account number or of a card number, which
national account numbers and identifiers mostly do not have. So most parts that are rejected stand in the log unmasked.
-/
namespace PaymentIdentifiers

namespace Text

/-- A part without a character lies on one side of it. -/
theorem infix_append_cons_iff {c : Char} {b s t : Text} (h : c ∉ b) : b <:+: s ++ c :: t ↔ b <:+: s ∨ b <:+: t := by
  constructor
  · rintro ⟨p, q, heq⟩
    rcases List.append_eq_append_iff.1 heq with ⟨x, hs, -⟩ | ⟨x, hpb, hq⟩
    · exact .inl ⟨p, x, hs.symm⟩
    · cases x with
      | nil => exact .inl ⟨p, [], by simpa using hpb⟩
      | cons d x =>
        obtain ⟨rfl, ht⟩ := List.cons.inj hq
        rcases List.append_eq_append_iff.1 hpb with ⟨y, -, hb⟩ | ⟨y, -, hy⟩
        · exact absurd (by simp [hb]) h
        · cases y with
          | nil => exact absurd (by simp [← show c :: x = b by simpa using hy]) h
          | cons e y =>
            refine .inr ⟨y, q, ?_⟩
            rw [ht, (List.cons.inj hy).2]
            rfl
  · rintro (hs | ht)
    · exact hs.trans (List.prefix_append s _).isInfix
    · exact ht.trans ((List.suffix_cons c t).trans (List.suffix_append s _)).isInfix

/-- The number of ASCII digits. -/
def digitCount (t : Text) : Nat := t.countP Char.isDigit

theorem digitCount_le_of_infix {b t : Text} (h : b <:+: t) : digitCount b ≤ digitCount t := h.sublist.countP_le

/-- Letters and digits, and at least nine digits. -/
structure IsNumberLike (b : Text) : Prop where
  alphanum : ∀ c ∈ b, c.isAlphanum = true
  digits : 9 ≤ digitCount b

@[simp] theorem digitCount_append (s t : Text) : digitCount (s ++ t) = digitCount s + digitCount t := List.countP_append

variable {b : Text} (h : IsNumberLike b)
include h

theorem IsNumberLike.isWord : IsWord b := by
  refine ⟨?_, fun c hc => isWordChar_of_isAlphanum (h.alphanum c hc)⟩
  rintro rfl
  exact absurd h.digits (by decide)

theorem IsNumberLike.not_mem {c : Char} (hc : c.isAlphanum = false) : c ∉ b := fun hb => by
  simp [h.alphanum c hb] at hc

theorem IsNumberLike.not_infix {t : Text} (ht : digitCount t < 9) : ¬ b <:+: t := fun hb => by
  have := digitCount_le_of_infix hb
  have := h.digits
  omega

end Text

namespace Log

theorem digitCount_le_of_forall₂ {s t : Text} (h : List.Forall₂ Obscures s t) :
    Text.digitCount t ≤ Text.digitCount s := by
  unfold Text.digitCount
  induction h with
  | nil => exact Nat.le_refl _
  | cons hcd _ ih =>
    rw [List.countP_cons, List.countP_cons]
    rcases hcd with rfl | rfl
    · omega
    · have hstar : ('*').isDigit = false := by decide
      simp only [hstar, Bool.false_eq_true, if_false]
      omega

/-- Masking adds no digit. -/
theorem digitCount_maskText_le (t : Text) : Text.digitCount (maskText t) ≤ Text.digitCount t :=
  digitCount_le_of_forall₂ (forall₂_maskText t)

/-- A text is in its own masked form only if nothing of it is masked. -/
theorem infix_maskText_iff {t : Text} : t <:+: maskText t ↔ Clean t := by
  rw [clean_iff_maskText_eq]
  constructor
  · intro h
    exact (h.eq_of_length (forall₂_maskText t).length_eq).symm
  · intro h
    simp only [h, List.infix_rfl]

theorem clean_word_iff {w : Text} (h : Text.IsWord w) : Clean w ↔ ¬ Sensitive w := by
  rw [Clean, Text.pieces_word h]
  simp

theorem maskText_append_cons {c : Char} (h : Text.isWordChar c = false) (s t : Text) :
    maskText (s ++ c :: t) = maskText s ++ c :: maskText t := by
  simp only [maskText_eq_mapWords]
  rw [Text.mapWords_append _ (Text.startsFree_cons.2 h), Text.mapWords_cons_gap _ h]

/-- Some message of the log has the text in it. -/
def Logged.Shows {α : Type} (x : Logged α) (t : Text) : Prop :=
  ∃ r ∈ x.records, ∃ m, r.maskedMessage = .ok m ∧ t <:+: m

end Log

namespace Rejection

/-- The text that a message quotes. -/
def cited (r : Rejection) : Text :=
  match r.cause with
  | .unsupportedCountry country => country
  | _ => r.input

/-- What a message says about the quoted text. -/
def remark (r : Rejection) : Text :=
  match r.cause with
  | .notWellFormed => " format is not appropriate for " ++ r.subject.article ++ " " ++ r.subject.name
  | .unknownCountry => " country code is not an ISO 3166-1-alpha-2 code"
  | .unsupportedCountry _ => " country does not support " ++ r.subject.name
  | .invalidStructure country =>
    " structure is not valid against the " ++ r.subject.name ++ " structure used in " ++ country
  | .incorrectCheckDigit => " check digits are incorrect"

theorem message_eq (r : Rejection) : r.message = '\'' :: (r.cited ++ '\'' :: r.remark) := by
  unfold message cited remark
  cases r.cause <;> simp [Text.quoted]

/-- The country that the message ends with has few digits. -/
def IsPlain (r : Rejection) : Prop := ∀ country, r.cause = .invalidStructure country → Text.digitCount country < 9

theorem digitCount_remark {r : Rejection} (h : r.IsPlain) : Text.digitCount r.remark < 9 := by
  obtain ⟨subject, input, cause⟩ := r
  cases cause with
  | notWellFormed =>
    simp only [remark]
    cases subject <;> decide +kernel
  | unknownCountry =>
    simp only [remark]
    decide +kernel
  | unsupportedCountry country =>
    simp only [remark]
    cases subject <;> decide +kernel
  | invalidStructure country =>
    have hcountry := h country rfl
    have hwords : Text.digitCount
        (" structure is not valid against the " ++ subject.name ++ " structure used in ") = 0 := by
      cases subject <;> decide +kernel
    simp only [remark]
    rw [Text.digitCount_append, hwords]
    omega
  | incorrectCheckDigit =>
    simp only [remark]
    decide +kernel

/-- Only the quoted text can bring a number into the log. -/
theorem infix_maskText_message_iff {r : Rejection} (h : r.IsPlain) {b : Text} (hb : Text.IsNumberLike b) :
    b <:+: Log.maskText r.message ↔ b <:+: Log.maskText r.cited := by
  have hquote : '\'' ∉ b := hb.not_mem (by decide)
  have hfront : ¬ b <:+: [] := hb.not_infix (by decide)
  have hremark : ¬ b <:+: Log.maskText r.remark :=
    hb.not_infix (Nat.lt_of_le_of_lt (Log.digitCount_maskText_le _) (digitCount_remark h))
  have hmask : Log.maskText r.message =
      [] ++ '\'' :: (Log.maskText r.cited ++ '\'' :: Log.maskText r.remark) := by
    rw [message_eq, ← List.nil_append ('\'' :: _), Log.maskText_append_cons (by decide),
      Log.maskText_append_cons (by decide)]
    rfl
  rw [hmask, Text.infix_append_cons_iff hquote, Text.infix_append_cons_iff hquote]
  simp [hfront, hremark]

end Rejection

namespace Tool

/-- A builder's log shows a number exactly if the mask leaves it in what the message quotes. -/
theorem shows_cannotBuild_iff (k : Kind) {r : Rejection} (h : r.IsPlain) {b : Text} (hb : Text.IsNumberLike b) :
    (cannotBuild k r.message).Shows b ↔ b <:+: Log.maskText r.cited := by
  have hspace : ' ' ∉ b := hb.not_mem (by decide)
  have hline : (cannotBuild k r.message).Shows b ↔ b <:+: buildWords k ++ Log.maskText r.message := by
    constructor
    · rintro ⟨q, hq, m, hm, hbm⟩
      rw [(tells_of_mem_cannotBuild hq).maskedMessage_eq] at hm
      rwa [Except.ok.inj hm]
    · intro hbm
      obtain ⟨q, hq⟩ : ∃ q, q ∈ (cannotBuild k r.message).records := ⟨_, List.mem_singleton_self _⟩
      exact ⟨q, hq, _, (tells_of_mem_cannotBuild hq).maskedMessage_eq, hbm⟩
  have hwords : buildWords k ++ Log.maskText r.message =
      (k.title ++ "-Aufbau fehlgeschlagen:") ++ ' ' :: Log.maskText r.message := by
    rw [buildWords]
    simp
  have hfront : ¬ b <:+: k.title ++ "-Aufbau fehlgeschlagen:" :=
    hb.not_infix (by cases k <;> decide +kernel)
  rw [hline, hwords, Text.infix_append_cons_iff hspace, Rejection.infix_maskText_message_iff h hb]
  simp only [hfront, false_or]

end Tool

theorem Country.digitCount_lt {code : Text} (h : code ∈ Country.codes) : Text.digitCount code < 9 := by
  have hlen := Country.length_of_mem_codes h
  have hle : Text.digitCount code ≤ code.length := List.countP_le_length
  omega

namespace Bban

theorem country_mem_codes_of_layoutOf {code : Text} {l : Layout} (h : layoutOf code = some l) :
    l.country ∈ Country.codes := by
  obtain ⟨row, hrow, -, hl⟩ := layoutOf_eq_some_iff.1 h
  rw [(Row.layout_eq_ok_iff.1 hl).2.1]
  exact mem_countryCodes_of_mem_row hrow List.mem_cons_self

end Bban

namespace Tool

theorem buildIbanReply_text (c b : Text) : buildIbanReply (.datum (.text c)) (.text b) =
    match Iban.fromParts (.code c) b with
    | .ok x => .quiet (text (describeIban x))
    | .error r => cannotBuild .iban r.message := by
  have harguments : Iban.ofArguments (.datum (.text c)) (.text b) =
      (Iban.fromParts (.code c) b).mapError .rejected := rfl
  rw [buildIbanReply, harguments]
  cases Iban.fromParts (.code c) b <;> rfl

theorem buildCreditorIdReply_text (c n business : Text) :
    buildCreditorIdReply (.datum (.text c)) (.text n) (.text business) =
      match CreditorIdentifier.fromParts (.code c) business n with
      | .ok x => .quiet ("Glaeubiger-ID: " ++ x.text)
      | .error r => cannotBuild .creditorIdentifier r.message := by
  have harguments : CreditorIdentifier.ofArguments (.datum (.text c)) (.text business) (.text n) =
      (CreditorIdentifier.fromParts (.code c) business n).mapError .rejected := rfl
  rw [buildCreditorIdReply, harguments]
  cases CreditorIdentifier.fromParts (.code c) business n <;> rfl

theorem not_shows_quiet {α : Type} (a : α) (t : Text) : ¬ (Log.Logged.quiet a).Shows t := by
  simp [Log.Logged.Shows, Log.Logged.quiet]

/-- A quoted country is too short for a number. -/
theorem not_infix_country {code b : Text} (h : code ∈ Country.codes) (hb : Text.IsNumberLike b) :
    ¬ b <:+: Log.maskText code :=
  hb.not_infix (Nat.lt_of_le_of_lt (Log.digitCount_maskText_le code) (Country.digitCount_lt h))

theorem not_infix_maskText_iff {b : Text} (hb : Text.IsNumberLike b) : ¬ b <:+: Log.maskText b ↔ Log.Sensitive b := by
  rw [Log.infix_maskText_iff, Log.clean_word_iff hb.isWord, not_not]

theorem not_shows_buildIbanReply_iff (c : Text) {b : Text} (hb : Text.IsNumberLike b) :
    ¬ (buildIbanReply (.datum (.text c)) (.text b)).Shows b ↔
      (c.trim.asciiUpper ∉ Country.codes → ¬ b <:+: Log.maskText c.trim.asciiUpper) ∧
      ∀ l, Bban.layoutOf c.trim.asciiUpper = some l → l.accepts b.canonical = true ∨ Log.Sensitive b := by
  have hbuilds := Iban.builds_fromParts (.code c) b
  rw [buildIbanReply_text]
  generalize Iban.fromParts (.code c) b = x at hbuilds
  cases hbuilds with
  | unknownCountry h =>
    rw [shows_cannotBuild_iff _ (by simp [Rejection.IsPlain]) hb]
    constructor
    · exact fun hq => ⟨fun _ => hq, fun l hl => absurd (Bban.mem_countryCodes_of_layoutOf hl) h⟩
    · exact fun hq => hq.1 h
  | unsupportedCountry hc h =>
    rw [shows_cannotBuild_iff _ (by simp [Rejection.IsPlain]) hb]
    constructor
    · exact fun _ => ⟨fun hno => absurd hc hno, fun l hl => by cases h.symm.trans hl⟩
    · exact fun _ => not_infix_country hc hb
  | invalidStructure hc l hl h =>
    have hplain : Rejection.IsPlain ⟨.iban, b, .invalidStructure l.country⟩ := by
      rintro country hcause
      obtain rfl := Cause.invalidStructure.inj hcause
      exact Country.digitCount_lt (Bban.country_mem_codes_of_layoutOf hl)
    rw [shows_cannotBuild_iff _ hplain hb]
    change ¬ b <:+: Log.maskText b ↔ _
    rw [not_infix_maskText_iff hb]
    constructor
    · exact fun hs => ⟨fun hno => absurd hc hno, fun _ _ => .inr hs⟩
    · exact fun hq => (hq.2 l hl).resolve_left (by simp [h])
  | built l h =>
    constructor
    · refine fun _ => ⟨fun hno => absurd h.listed hno, fun k hk => ?_⟩
      obtain rfl := Option.some.inj (h.layout.symm.trans hk)
      exact .inl h.accepted
    · exact fun _ => not_shows_quiet _ b

theorem not_shows_buildCreditorIdReply_iff (c business : Text) {n : Text} (hn : Text.IsNumberLike n) :
    ¬ (buildCreditorIdReply (.datum (.text c)) (.text n) (.text business)).Shows n ↔
      (CreditorIdentifier.isBusinessCode business.canonical = false → ¬ n <:+: Log.maskText business) ∧
      (CreditorIdentifier.isBusinessCode business.canonical = true →
        (CreditorIdentifier.hasShape (CreditorIdentifier.assembled (.code c) business n) = true ∧
          c.trim.asciiUpper ∈ Country.codes) ∨ Log.Sensitive n) := by
  have hbuilds := CreditorIdentifier.builds_fromParts (.code c) business n
  rw [buildCreditorIdReply_text]
  generalize CreditorIdentifier.fromParts (.code c) business n = x at hbuilds
  cases hbuilds with
  | businessCode h =>
    rw [shows_cannotBuild_iff _ (by simp [Rejection.IsPlain]) hn]
    constructor
    · exact fun hq => ⟨fun _ => hq, fun hb => by simp [h] at hb⟩
    · exact fun hq => hq.1 h
  | shape hb h =>
    rw [shows_cannotBuild_iff _ (by simp [Rejection.IsPlain]) hn]
    change ¬ n <:+: Log.maskText n ↔ _
    rw [not_infix_maskText_iff hn]
    constructor
    · exact fun hs => ⟨fun hno => by simp [hb] at hno, fun _ => .inr hs⟩
    · exact fun hq => (hq.2 hb).resolve_left (by simp [h])
  | unknownCountry hb h =>
    rw [shows_cannotBuild_iff _ (by simp [Rejection.IsPlain]) hn]
    change ¬ n <:+: Log.maskText n ↔ _
    rw [not_infix_maskText_iff hn]
    constructor
    · exact fun hs => ⟨fun hno => by simp [hb] at hno, fun _ => .inr hs⟩
    · exact fun hq => (hq.2 hb).resolve_left fun hlisted => h hlisted.2
  | unsupportedCountry hb hs hc =>
    rw [shows_cannotBuild_iff _ (by simp [Rejection.IsPlain]) hn]
    constructor
    · exact fun _ => ⟨fun hno => by simp [hb] at hno, fun _ => .inl ⟨hs, hc⟩⟩
    · exact fun _ => not_infix_country hc hn
  | built hb hs hc x =>
    constructor
    · exact fun _ => ⟨fun hno => by simp [hb] at hno, fun _ => .inl ⟨hs, hc⟩⟩
    · exact fun _ => not_shows_quiet _ n

/-- Over all countries, business codes and numbers, the builders keep a number out of their logs exactly in these cases.
The number must not stand in a country or a business code that is refused, since the message quotes that instead. And
where the number itself is refused, it must have one of the forms that are masked. -/
theorem builders_discreet_iff (c business b : Text) (hb : Text.IsNumberLike b) :
    (¬ (buildIbanReply (.datum (.text c)) (.text b)).Shows b ↔
      (c.trim.asciiUpper ∉ Country.codes → ¬ b <:+: Log.maskText c.trim.asciiUpper) ∧
      ∀ l, Bban.layoutOf c.trim.asciiUpper = some l → l.accepts b.canonical = true ∨ Log.Sensitive b) ∧
    (¬ (buildCreditorIdReply (.datum (.text c)) (.text b) (.text business)).Shows b ↔
      (CreditorIdentifier.isBusinessCode business.canonical = false → ¬ b <:+: Log.maskText business) ∧
      (CreditorIdentifier.isBusinessCode business.canonical = true →
        (CreditorIdentifier.hasShape (c.trim.asciiUpper ++ "00" ++ business.canonical ++ b.canonical) = true ∧
          c.trim.asciiUpper ∈ Country.codes) ∨ Log.Sensitive b)) :=
  ⟨not_shows_buildIbanReply_iff c hb, not_shows_buildCreditorIdReply_iff c business hb⟩

/-- The French structure has one character more. -/
theorem exists_layout_fr : ∃ l, Bban.layoutOf "FR" = some l ∧ l.accepts "20041010050500013M0260" = false := by
  have hrow : Bban.row "FR" "5!n5!n11!c2!n" (some (0, 5)) (some (5, 10)) (some (21, 23)) (some (10, 21))
      Bban.frenchTerritories ∈ Bban.tableRows := by
    decide +kernel
  obtain ⟨l, hl, hp⟩ := Bban.exists_layout_of_mem_row hrow (List.mem_cons_self : "FR".toList ∈ _)
  have hlength : (Swift.Pattern.compile "5!n5!n11!c2!n").toOption.map Swift.Pattern.length = some 23 := by
    decide +kernel
  refine ⟨l, hl, Bool.eq_false_iff.2 fun ha => ?_⟩
  have hfit := Swift.Pattern.length_of_accepts hp ha
  rw [show Swift.Pattern.compile "5!n5!n11!c2!n" = .ok l.pattern from hp] at hlength
  have htwentythree : l.pattern.length = 23 := Option.some.inj hlength
  rw [htwentythree] at hfit
  exact absurd hfit (by decide)

theorem isNumberLike_short : Text.IsNumberLike "20041010050500013M0260" :=
  ⟨List.all_eq_true.1 (by decide +kernel), by decide +kernel⟩

/-- What a French account number without its last digit would have to be. -/
theorem not_discreet_short : ¬ ∀ l, Bban.layoutOf (Text.asciiUpper (Text.trim "FR")) = some l →
    l.accepts (Text.canonical "20041010050500013M0260") = true ∨ Log.Sensitive "20041010050500013M0260" := by
  intro h
  obtain ⟨l, hl, hrefused⟩ := exists_layout_fr
  rw [show Text.asciiUpper (Text.trim "FR") = "FR" by decide +kernel,
    show Text.canonical "20041010050500013M0260" = "20041010050500013M0260" by decide +kernel] at h
  rcases h l hl with haccepted | hmasked
  · rw [hrefused] at haccepted
    cases haccepted
  · exact absurd hmasked (by decide +kernel)

/-- A French account number without its last digit stands in the log. As the national identifier of a creditor the same
number is taken, and the log stays empty. -/
theorem builders_discreet_iff_fr :
    Text.IsNumberLike "20041010050500013M0260" ∧
      (buildIbanReply (.datum (.text "FR")) (.text "20041010050500013M0260")).Shows "20041010050500013M0260" ∧
      ¬ (buildCreditorIdReply (.datum (.text "FR")) (.text "20041010050500013M0260") (.text "ZZZ")).Shows
        "20041010050500013M0260" := by
  obtain ⟨hiban, hcreditor⟩ := builders_discreet_iff "FR" "ZZZ" _ isNumberLike_short
  refine ⟨isNumberLike_short, ?_, hcreditor.2 ⟨fun hno => absurd hno (by decide +kernel), fun _ => .inl ?_⟩⟩
  · by_contra hquiet
    exact not_discreet_short (hiban.1 hquiet).2
  · exact ⟨by decide +kernel, by decide +kernel⟩

/-- Neither builder keeps every number out of its log: a French account number without its last digit and a national
identifier of an unknown country stand there as they are. -/
theorem builders_not_discreet :
    ¬ (∀ c b : Text, Text.IsNumberLike b → ¬ (buildIbanReply (.datum (.text c)) (.text b)).Shows b) ∧
      ¬ (∀ c business n : Text, Text.IsNumberLike n →
        ¬ (buildCreditorIdReply (.datum (.text c)) (.text n) (.text business)).Shows n) := by
  constructor
  · intro h
    have hquiet := h "FR" _ isNumberLike_short
    exact not_discreet_short ((not_shows_buildIbanReply_iff "FR" isNumberLike_short).1 hquiet).2
  · intro h
    have hnumber : Text.IsNumberLike "09999999999" := ⟨List.all_eq_true.1 (by decide +kernel), by decide +kernel⟩
    have hquiet := (not_shows_buildCreditorIdReply_iff "ZZ" "ZZZ" hnumber).1 (h "ZZ" "ZZZ" _ hnumber)
    rcases hquiet.2 (by decide +kernel) with ⟨-, hlisted⟩ | hmasked
    · exact absurd hlisted (by decide +kernel)
    · exact absurd hmasked (by decide +kernel)

end Tool

end PaymentIdentifiers
