import PaymentIdentifiers.Log.Mask
import PaymentIdentifiers.Proofs.Card.Acceptance
import PaymentIdentifiers.Proofs.Iban.Acceptance
import PaymentIdentifiers.Proofs.Text.Expression

/-!
# Words that look like identifiers

The two forms of words that are masked. A word has such a form exactly if it passes the test of the mask, and exactly if
the runs of its expression fill it. Every account number has the first form, and every card number the second.
-/
namespace PaymentIdentifiers

namespace Text

theorem isWordChar_of_isAlpha {c : Char} (h : c.isAlpha = true) : isWordChar c = true :=
  isWordChar_of_isAlphanum (by simp [Char.isAlphanum, h])

theorem isDecimalDigit_of_isDigit {c : Char} (h : c.isDigit = true) : isDecimalDigit c = true := by
  have hc : c.toNat < 128 := by
    rw [isDigit_iff] at h
    omega
  simp [isDecimalDigit, hc, h]

theorem isWordChar_of_isDecimalDigit {c : Char} (h : isDecimalDigit c = true) : isWordChar c = true := by
  unfold isDecimalDigit at h
  split at h
  · exact isWordChar_of_isAlphanum (isAlphanum_of_isDigit h)
  · rename_i hc
    simp [isWordChar, hc, h]

end Text

namespace Log

/-- Two ASCII letters, two decimal digits and at least eight more letters or digits. -/
structure AccountForm (w : Text) : Prop where
  length : 12 ≤ w.length
  letters : ∀ c ∈ w.take 2, c.isAlpha = true
  digits : ∀ c ∈ w.slice 2 4, Text.isDecimalDigit c = true
  rest : ∀ c ∈ w.drop 4, c.isAlpha = true ∨ Text.isDecimalDigit c = true

/-- Thirteen to nineteen decimal digits. -/
structure CardForm (w : Text) : Prop where
  least : 13 ≤ w.length
  most : w.length ≤ 19
  digits : ∀ c ∈ w, Text.isDecimalDigit c = true

/-- The form of an account number or of a card number. -/
def Sensitive (w : Text) : Prop := AccountForm w ∨ CardForm w

theorem isAccountChar_iff {c : Char} : isAccountChar c = true ↔ c.isAlpha = true ∨ Text.isDecimalDigit c = true :=
  Bool.or_eq_true_iff

theorem isAccountWord_iff {w : Text} : isAccountWord w = true ↔ AccountForm w := by
  rw [isAccountWord, Bool.and_eq_true, decide_eq_true_eq]
  match w with
  | [] | [_] | [_, _] | [_, _, _] =>
    exact ⟨fun h => absurd h.2 (by simp), fun h => absurd h.length (by simp)⟩
  | a :: b :: c :: d :: rest =>
    simp only [Text.fits, Bool.and_eq_true, List.all_eq_true, isAccountChar_iff]
    constructor
    · rintro ⟨⟨ha, hb, hc, hd, hrest⟩, hlen⟩
      exact ⟨hlen, by simp [ha, hb], by simp [Text.slice, hc, hd], by simpa using hrest⟩
    · rintro ⟨hlen, hletters, hdigits, hrest⟩
      simp only [List.take_succ_cons, List.take_zero, List.forall_mem_cons, Text.slice, List.drop_succ_cons,
        List.drop_zero] at hletters hdigits hrest
      exact ⟨⟨hletters.1, hletters.2.1, hdigits.1, hdigits.2.1, hrest⟩, hlen⟩

theorem isCardWord_iff {w : Text} : isCardWord w = true ↔ CardForm w := by
  simp only [isCardWord, Text.lengthIn, Bool.and_eq_true, decide_eq_true_eq, List.all_eq_true]
  exact ⟨fun ⟨⟨hl, hm⟩, hd⟩ => ⟨hl, hm, hd⟩, fun ⟨hl, hm, hd⟩ => ⟨⟨hl, hm⟩, hd⟩⟩

instance (w : Text) : Decidable (AccountForm w) := decidable_of_iff _ isAccountWord_iff

instance (w : Text) : Decidable (CardForm w) := decidable_of_iff _ isCardWord_iff

instance (w : Text) : Decidable (Sensitive w) := inferInstanceAs (Decidable (_ ∨ _))

theorem Sensitive.length_le {w : Text} (h : Sensitive w) : 12 ≤ w.length := by
  cases h with
  | inl h => exact h.length
  | inr h => exact Nat.le_of_succ_le h.least

/-- Two letters, two digits, four or more letters or digits, and another four. -/
def accountRuns : List Text.Run :=
  [⟨Char.isAlpha, 2, some 2⟩, ⟨Text.isDecimalDigit, 2, some 2⟩, ⟨isAccountChar, 4, none⟩, ⟨isAccountChar, 4, some 4⟩]

/-- Thirteen to nineteen digits. -/
def cardRuns : List Text.Run := [⟨Text.isDecimalDigit, 13, some 19⟩]

/-- Masks all matches of an expression that fills a word. -/
def maskMatches (rs : List Text.Run) (t : Text) : Text := Text.replaceAll (Text.whole rs) maskEnds t

theorem fills_cardRuns_iff {w : Text} : Text.Fills cardRuns w ↔ CardForm w := by
  constructor
  · rintro ⟨s, u, rfl, hs, hu⟩
    rw [show u = [] from hu, List.append_nil]
    exact ⟨hs.least, hs.most 19 rfl, hs.test⟩
  · intro h
    refine ⟨w, [], (List.append_nil w).symm, ⟨h.digits, h.least, fun m hm => ?_⟩, rfl⟩
    obtain rfl := Option.some.inj hm
    exact h.most

/-- The last run takes what the third one has to give back. -/
theorem fills_accountRuns_iff {w : Text} : Text.Fills accountRuns w ↔ AccountForm w := by
  constructor
  · rintro ⟨s₁, _, rfl, h₁, s₂, _, rfl, h₂, s₃, _, rfl, h₃, s₄, u, rfl, h₄, hu⟩
    have hlen₁ : s₁.length = 2 := Nat.le_antisymm (h₁.most 2 rfl) h₁.least
    have hlen₂ : s₂.length = 2 := Nat.le_antisymm (h₂.most 2 rfl) h₂.least
    have hlen₃ : 4 ≤ s₃.length := h₃.least
    have hlen₄ : 4 ≤ s₄.length := h₄.least
    rw [show u = [] from hu, List.append_nil, ← List.append_assoc]
    refine ⟨?_, ?_, ?_, ?_⟩
    · simp only [List.length_append]
      omega
    · rw [Text.take_two_pieces _ hlen₁]
      exact h₁.test
    · rw [Text.slice_pieces _ hlen₁ hlen₂]
      exact h₂.test
    · rw [Text.drop_four_pieces _ hlen₁ hlen₂]
      intro c hc
      exact isAccountChar_iff.1 ((List.mem_append.1 hc).elim (h₃.test c) (h₄.test c))
  · intro h
    have hlen := h.length
    have hrest : ∀ c ∈ w.drop 4, isAccountChar c = true := fun c hc => isAccountChar_iff.2 (h.rest c hc)
    have hback : ((w.drop 4).drop (w.length - 8)).length = 4 := by
      simp only [List.length_drop]
      omega
    have hfront : 4 ≤ ((w.drop 4).take (w.length - 8)).length := by
      simp only [List.length_take, List.length_drop]
      omega
    have htwo : (w.take 2).length = 2 := List.length_take_of_le (by omega)
    have hpair : (w.slice 2 4).length = 2 := by
      rw [Text.length_slice]
      omega
    refine ⟨w.take 2, _, (Text.take_append_slice_append_drop w).symm.trans (List.append_assoc _ _ _),
      ⟨h.letters, htwo.ge, fun m hm => ?_⟩, _, _, rfl, ⟨h.digits, hpair.ge, fun m hm => ?_⟩, _, _,
      (List.take_append_drop (w.length - 8) _).symm,
      ⟨fun c hc => hrest c (List.mem_of_mem_take hc), hfront, fun m hm => by cases hm⟩, _, [],
      (List.append_nil _).symm, ⟨fun c hc => hrest c (List.mem_of_mem_drop hc), hback.ge, fun m hm => ?_⟩, rfl⟩
    · obtain rfl := Option.some.inj hm
      exact htwo.le
    · obtain rfl := Option.some.inj hm
      exact hpair.le
    · obtain rfl := Option.some.inj hm
      exact hback.le

theorem wordy_accountRuns : Text.Wordy accountRuns where
  isWordChar r hr c hc := by
    simp only [accountRuns, List.mem_cons, List.not_mem_nil, or_false] at hr
    have hmixed (h : isAccountChar c = true) : Text.isWordChar c = true :=
      (isAccountChar_iff.1 h).elim Text.isWordChar_of_isAlpha Text.isWordChar_of_isDecimalDigit
    rcases hr with rfl | rfl | rfl | rfl
    · exact Text.isWordChar_of_isAlpha hc
    · exact Text.isWordChar_of_isDecimalDigit hc
    · exact hmixed hc
    · exact hmixed hc
  ne_nil h := absurd (fills_accountRuns_iff.1 h).length (by simp)

theorem wordy_cardRuns : Text.Wordy cardRuns where
  isWordChar r hr c hc := by
    obtain rfl := List.mem_singleton.1 hr
    exact Text.isWordChar_of_isDecimalDigit hc
  ne_nil h := absurd (fills_cardRuns_iff.1 h).least (by simp)

theorem Sensitive.isWord {w : Text} (h : Sensitive w) : Text.IsWord w := by
  cases h with
  | inl h => exact wordy_accountRuns.isWord (fills_accountRuns_iff.2 h)
  | inr h => exact wordy_cardRuns.isWord (fills_cardRuns_iff.2 h)

/-- To search for an expression, run by run, is to test the words. -/
theorem maskMatches_accountRuns (t : Text) : maskMatches accountRuns t = maskWords isAccountWord t :=
  Text.replaceAll_whole wordy_accountRuns _ (fun _ => isAccountWord_iff.trans fills_accountRuns_iff.symm) t

example : maskMatches accountRuns "Konto DE89370400440532013000".toList = "Konto DE89**************3000".toList := by
  decide +kernel

theorem maskMatches_cardRuns (t : Text) : maskMatches cardRuns t = maskWords isCardWord t :=
  Text.replaceAll_whole wordy_cardRuns _ (fun _ => isCardWord_iff.trans fills_cardRuns_iff.symm) t

end Log

namespace Bban

/-- No account number is shorter than the Norwegian one. -/
theorem Layout.le_length_of_accepts {code : Text} {l : Layout} (h : layoutOf code = some l) {t : Text}
    (ht : l.accepts t = true) : 11 ≤ t.length := by
  rw [l.length_of_accepts h ht]
  exact (format_of_layoutOf h).1

end Bban

/-- Every account number has the form that is masked. -/
theorem Iban.accountForm_of_parse {v : Text} {x : Iban} (h : parse v = .ok x) : Log.AccountForm x.text := by
  obtain ⟨htext, l, hl⟩ := parse_eq_ok_iff.1 h
  have hbban := Bban.Layout.le_length_of_accepts hl.layout hl.accepted
  obtain ⟨a, b, c, d, rest, heq, ha, hb, hc, hd, -, hrest⟩ := wellFormed_iff_fits.1 hl.formed
  rw [htext, heq]
  rw [heq] at hbban
  refine ⟨?_, ?_, ?_, ?_⟩
  · simp only [List.drop_succ_cons, List.drop_zero] at hbban
    simp only [List.length_cons]
    omega
  · simp [Text.isAlpha_iff, ha, hb]
  · simp [Text.slice, Text.isDecimalDigit_of_isDigit hc, Text.isDecimalDigit_of_isDigit hd]
  · intro e he
    have hupper := hrest e he
    rw [Text.isUpperOrDigit, Bool.or_eq_true] at hupper
    exact hupper.imp (fun h => Text.isAlpha_iff.2 (.inl h)) Text.isDecimalDigit_of_isDigit

/-- Every card number has the form that is masked. -/
theorem Card.cardForm_of_parse {v : Text} {x : Card} (h : parse v = .ok x) : Log.CardForm x.number := by
  obtain ⟨hlen, hdigits⟩ := length_of_issuerOf? (issuerOf?_of_parse h)
  exact ⟨by omega, by omega, fun c hc => Text.isDecimalDigit_of_isDigit (hdigits c hc)⟩

end PaymentIdentifiers
