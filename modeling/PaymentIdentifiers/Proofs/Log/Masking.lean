import PaymentIdentifiers.Identifier
import PaymentIdentifiers.Proofs.Log.Forms

/-!
# Masking word by word

Both searches together are one map over the words of a text. Masking the ends of a word of one of the two forms leaves
two words of four characters with asterisks between them. These have neither form, so nothing is left to be masked.
-/
namespace PaymentIdentifiers

namespace Text

theorem forall₂_mapWords {R : Char → Char → Prop} [Std.Refl R] {f : Text → Text} (h : ∀ w, List.Forall₂ R w (f w))
    (t : Text) : List.Forall₂ R t (mapWords f t) := by
  induction t using words_induction with
  | nil => exact .nil
  | gap c t hc ih =>
    rw [mapWords_cons_gap f hc]
    exact .cons (Std.Refl.refl c) ih
  | word w t hw ht ih =>
    rw [mapWords_word_append f hw ht]
    exact List.rel_append (h w) ih

theorem pieces_stars (n : Nat) (t : Text) :
    pieces (List.replicate n '*' ++ t) = List.replicate n (.gap '*') ++ pieces t := by
  induction n with
  | zero => rfl
  | succ n ih =>
    have hstar : isWordChar '*' = false := by decide
    rw [List.replicate_succ, List.cons_append, pieces_cons_gap hstar, ih, List.replicate_succ, List.cons_append]

end Text

namespace Log

/-- A word as the log shows it. -/
def shownWord (w : Text) : Text :=
  if Sensitive w then w.take 4 ++ List.replicate (w.length - 8) '*' ++ w.takeEnd 4 else w

def shownPiece : Text.Piece → Text
  | .word w => shownWord w
  | .gap c => [c]

/-- A character is unchanged or an asterisk. -/
def Obscures (c d : Char) : Prop := d = c ∨ d = '*'

instance : Std.Refl Obscures := ⟨fun _ => .inl rfl⟩

theorem forall₂_stars (t : Text) : List.Forall₂ Obscures t (List.replicate t.length '*') := by
  induction t with
  | nil => exact .nil
  | cons c t ih => exact .cons (.inr rfl) ih

theorem maskEnds_of_le {w : Text} (h : 8 ≤ w.length) :
    maskEnds w = w.take 4 ++ List.replicate (w.length - 8) '*' ++ w.takeEnd 4 :=
  if_neg (Nat.not_lt.2 h)

theorem maskEnds_of_sensitive {w : Text} (h : Sensitive w) :
    maskEnds w = w.take 4 ++ List.replicate (w.length - 8) '*' ++ w.takeEnd 4 :=
  maskEnds_of_le (Nat.le_trans (by decide) h.length_le)

theorem shownWord_of_sensitive {w : Text} (h : Sensitive w) : shownWord w = maskEnds w := by
  rw [shownWord, if_pos h, maskEnds_of_sensitive h]

theorem shownWord_of_not_sensitive {w : Text} (h : ¬ Sensitive w) : shownWord w = w := if_neg h

theorem forall₂_maskEnds (w : Text) : List.Forall₂ Obscures w (maskEnds w) := by
  by_cases h : w.length < 8
  · rw [maskEnds, if_pos h]
    exact List.forall₂_refl w
  · have hmid : ((w.drop 4).take (w.length - 8)).length = w.length - 8 := by
      simp only [List.length_take, List.length_drop]
      omega
    have hw : w.take 4 ++ (w.drop 4).take (w.length - 8) ++ w.takeEnd 4 = w := by
      rw [Text.takeEnd, show w.length - 4 = 4 + (w.length - 8) by omega, ← List.drop_drop, List.append_assoc,
        List.take_append_drop, List.take_append_drop]
    have hstars := forall₂_stars ((w.drop 4).take (w.length - 8))
    rw [hmid] at hstars
    have hall : List.Forall₂ Obscures (w.take 4 ++ (w.drop 4).take (w.length - 8) ++ w.takeEnd 4)
        (w.take 4 ++ List.replicate (w.length - 8) '*' ++ w.takeEnd 4) :=
      List.rel_append (List.rel_append (List.forall₂_refl _) hstars) (List.forall₂_refl _)
    rwa [hw, ← maskEnds_of_le (Nat.le_of_not_lt h)] at hall

theorem forall₂_shownWord (w : Text) : List.Forall₂ Obscures w (shownWord w) := by
  by_cases h : Sensitive w
  · rw [shownWord_of_sensitive h]
    exact forall₂_maskEnds w
  · rw [shownWord_of_not_sensitive h]
    exact List.forall₂_refl w

/-- Masking the ends of a word leaves its first four and its last four characters as words. -/
theorem length_of_mem_pieces_maskEnds {v w : Text} (hw : Text.IsWord w) (hlen : 8 < w.length)
    (h : .word v ∈ Text.pieces (maskEnds w)) : v.length = 4 := by
  have hfront : Text.IsWord (w.take 4) :=
    ⟨List.ne_nil_of_length_pos (by rw [List.length_take]; omega), fun c hc => hw.2 c (List.mem_of_mem_take hc)⟩
  have hend : Text.IsWord (w.takeEnd 4) :=
    ⟨List.ne_nil_of_length_pos (by rw [Text.takeEnd, List.length_drop]; omega),
      fun c hc => hw.2 c (List.mem_of_mem_drop hc)⟩
  obtain ⟨n, hn⟩ := Nat.exists_eq_succ_of_ne_zero (show w.length - 8 ≠ 0 by omega)
  have hfree : Text.StartsFree (List.replicate (w.length - 8) '*' ++ w.takeEnd 4) := by
    rw [hn, List.replicate_succ, List.cons_append]
    exact Text.startsFree_cons.2 (by decide)
  rw [maskEnds_of_le hlen.le, List.append_assoc, Text.pieces_word_append hfront hfree, Text.pieces_stars,
    Text.pieces_word hend] at h
  simp only [List.mem_cons, List.mem_append, List.mem_replicate, Text.Piece.word.injEq, reduceCtorEq, and_false,
    false_or, List.not_mem_nil, or_false] at h
  rcases h with rfl | rfl
  · exact List.length_take_of_le (by omega)
  · rw [Text.takeEnd, List.length_drop]
    omega

/-- What is left of a masked word has neither form. -/
theorem not_sensitive_of_mem_pieces_maskEnds {v w : Text} (hw : Sensitive w)
    (h : .word v ∈ Text.pieces (maskEnds w)) : ¬ Sensitive v := by
  have hlen := hw.length_le
  have hfour := length_of_mem_pieces_maskEnds hw.isWord (by omega) h
  intro hv
  have := hv.length_le
  omega

/-- The two searches are one map over the words. -/
theorem maskText_eq_mapWords (t : Text) : maskText t = Text.mapWords shownWord t := by
  rw [maskText, maskWords, maskWords, Text.mapWords_mapWords]
  apply Text.mapWords_congr
  intro w hw
  have hword := Text.isWord_of_mem_pieces hw
  by_cases ha : AccountForm w
  · rw [if_pos (isAccountWord_iff.2 ha), shownWord_of_sensitive (.inl ha)]
    apply Text.mapWords_eq_self
    intro v hv
    have hrest := not_sensitive_of_mem_pieces_maskEnds (.inl ha) hv
    exact if_neg (mt isCardWord_iff.1 fun hc => hrest (.inr hc))
  · rw [if_neg (mt isAccountWord_iff.1 ha), Text.mapWords_word _ hword]
    by_cases hc : CardForm w
    · rw [if_pos (isCardWord_iff.2 hc), shownWord_of_sensitive (.inr hc)]
    · rw [if_neg (mt isCardWord_iff.1 hc), shownWord_of_not_sensitive (not_or.2 ⟨ha, hc⟩)]

theorem maskText_of_isCut {ps : List Text.Piece} {t : Text} (h : Text.IsCut ps t) :
    maskText t = ps.flatMap shownPiece := by
  rw [maskText_eq_mapWords, Text.mapWords, ← h.eq_pieces]
  apply List.flatMap_congr
  intro p _
  cases p <;> rfl

theorem not_sensitive_of_mem_pieces_maskText {w t : Text} (h : .word w ∈ Text.pieces (maskText t)) :
    ¬ Sensitive w := by
  rw [maskText_eq_mapWords] at h
  obtain ⟨v, hv, hw⟩ := Text.word_mem_pieces_mapWords shownWord h
  by_cases hs : Sensitive v
  · rw [shownWord_of_sensitive hs] at hw
    exact not_sensitive_of_mem_pieces_maskEnds hs hw
  · rw [shownWord_of_not_sensitive hs, Text.pieces_word (Text.isWord_of_mem_pieces hv), List.mem_singleton] at hw
    rwa [Text.Piece.word.inj hw]

theorem forall₂_maskText (t : Text) : List.Forall₂ Obscures t (maskText t) := by
  rw [maskText_eq_mapWords]
  exact Text.forall₂_mapWords forall₂_shownWord t

theorem maskText_maskText (t : Text) : maskText (maskText t) = maskText t := by
  rw [maskText_eq_mapWords (maskText t)]
  exact Text.mapWords_eq_self fun w hw => shownWord_of_not_sensitive (not_sensitive_of_mem_pieces_maskText hw)

/-- A word of one of the two forms is masked, whatever stands around it. -/
theorem maskText_sensitive {s w u : Text} (hw : Sensitive w) (hs : Text.EndsFree s) (hu : Text.StartsFree u) :
    maskText (s ++ w ++ u) = maskText s ++ maskEnds w ++ maskText u := by
  simp only [maskText_eq_mapWords]
  rw [Text.mapWords_append _ hu, Text.mapWords_append_of_endsFree _ hs, Text.mapWords_word _ hw.isWord,
    shownWord_of_sensitive hw]

theorem sensitive_of_parse {k : Kind} (hk : k = .iban ∨ k = .card) {v : Text} {x : Identifier}
    (h : k.parse v = .ok x) : Sensitive x.text := by
  rcases hk with rfl | rfl
  · cases hy : Iban.parse v with
    | error r => simp [Kind.parse, hy, Except.map] at h
    | ok y =>
      obtain rfl : Identifier.iban y = x := by simpa [Kind.parse, hy, Except.map] using h
      exact .inl (Iban.accountForm_of_parse hy)
  · cases hy : Card.parse v with
    | error r => simp [Kind.parse, hy, Except.map] at h
    | ok y =>
      obtain rfl : Identifier.card y = x := by simpa [Kind.parse, hy, Except.map] using h
      exact .inr (Card.cardForm_of_parse hy)

/-- Masking shows every text word by word: words of the two forms lose their middle, and everything else stays. It is
what the two searches make of the text. No character moves, nothing is left to be masked, and account numbers and card
numbers are masked wherever they stand as a word. -/
theorem maskText_wordwise :
    (∀ t : Text, (∃ ps, Text.IsCut ps t) ∧ ∀ ps, Text.IsCut ps t → maskText t = ps.flatMap shownPiece) ∧
    (∀ t : Text, maskMatches cardRuns (maskMatches accountRuns t) = maskText t) ∧
    (∀ t : Text, (maskText t).length = t.length ∧ List.Forall₂ Obscures t (maskText t) ∧
      (∀ ps, Text.IsCut ps (maskText t) → ∀ w, .word w ∈ ps → ¬ Sensitive w) ∧ maskText (maskText t) = maskText t) ∧
    (∀ k : Kind, k = .iban ∨ k = .card → ∀ (v : Text) (x : Identifier), k.parse v = .ok x →
      12 ≤ x.text.length ∧ ∀ s u : Text, Text.EndsFree s → Text.StartsFree u →
        maskText (s ++ x.text ++ u) =
          maskText s ++ (x.text.take 4 ++ List.replicate (x.text.length - 8) '*' ++ x.text.takeEnd 4) ++
            maskText u) := by
  refine ⟨fun t => ⟨⟨_, Text.isCut_pieces t⟩, fun ps => maskText_of_isCut⟩, fun t => ?_, fun t => ?_,
    fun k hk v x hx => ?_⟩
  · rw [maskMatches_accountRuns, maskMatches_cardRuns, maskText]
  · have hall := forall₂_maskText t
    refine ⟨hall.length_eq.symm, hall, fun ps hps w hw => ?_, maskText_maskText t⟩
    rw [hps.eq_pieces] at hw
    exact not_sensitive_of_mem_pieces_maskText hw
  · have hw := sensitive_of_parse hk hx
    refine ⟨hw.length_le, fun s u hs hu => ?_⟩
    rw [maskText_sensitive hw hs hu, maskEnds_of_sensitive hw]

/-- A card number is read with its blanks and masked between a quotation mark and a full stop. The same digits stay
where a letter stands before them, since the word has neither form. -/
theorem maskText_wordwise_card :
    maskText "Karte \"4111111111111111. X4111111111111111" = "Karte \"4111********1111. X4111111111111111" ∧
      Kind.card.parse "4111 1111 1111 1111" = .ok (.card ⟨"4111111111111111", .visa⟩) ∧
      12 ≤ "4111111111111111".toList.length := by
  have hread : Kind.card.parse "4111 1111 1111 1111" = .ok (.card ⟨"4111111111111111", .visa⟩) := by decide +kernel
  obtain ⟨-, -, -, hmasked⟩ := maskText_wordwise
  obtain ⟨hlen, haround⟩ := hmasked .card (.inr rfl) _ _ hread
  have h := haround "Karte \"" ". X4111111111111111" (by decide +kernel) (by decide +kernel)
  exact ⟨h.trans (by decide +kernel), hread, hlen⟩

end Log
end PaymentIdentifiers
