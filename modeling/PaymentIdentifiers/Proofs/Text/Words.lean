import PaymentIdentifiers.Text.Word
import Mathlib.Data.List.Basic
import Mathlib.Data.List.TakeWhile

/-!
# Words of a text

A text has only one cut into words and the characters between them. The cut of a concatenation is the concatenation of
the cuts, provided that no word goes across the seam, so what a map makes of the words is cut word by word.
-/
namespace PaymentIdentifiers.Text

/-- No word goes on at the beginning of the text. -/
def StartsFree (t : Text) : Prop := ∀ c ∈ t.head?, isWordChar c = false

/-- No word is left open at the end of the text. -/
def EndsFree (t : Text) : Prop := ∀ c ∈ t.getLast?, isWordChar c = false

/-- At least one character, and word characters only. -/
def IsWord (w : Text) : Prop := w ≠ [] ∧ ∀ c ∈ w, isWordChar c = true

theorem any_head?_eq_false_iff {t : Text} : t.head?.any isWordChar = false ↔ StartsFree t := by
  unfold StartsFree
  cases t.head? <;> simp

theorem any_getLast?_eq_false_iff {t : Text} : t.getLast?.any isWordChar = false ↔ EndsFree t := by
  unfold EndsFree
  cases t.getLast? <;> simp

instance (t : Text) : Decidable (StartsFree t) := decidable_of_iff _ any_head?_eq_false_iff

instance (t : Text) : Decidable (EndsFree t) := decidable_of_iff _ any_getLast?_eq_false_iff

theorem startsFree_nil : StartsFree [] := by simp [StartsFree]

theorem startsFree_cons {c : Char} {t : Text} : StartsFree (c :: t) ↔ isWordChar c = false := by
  simp [StartsFree]

theorem endsFree_concat {c : Char} {t : Text} : EndsFree (t ++ [c]) ↔ isWordChar c = false := by
  simp [EndsFree]

theorem IsWord.not_startsFree {w : Text} (h : IsWord w) (t : Text) : ¬ StartsFree (w ++ t) := by
  obtain ⟨c, s, rfl⟩ := List.exists_cons_of_ne_nil h.1
  rw [List.cons_append, startsFree_cons, h.2 c (by simp)]
  simp

/-- A text is empty, or begins with a character between words, or with a word that is not longer than it. -/
@[elab_as_elim]
theorem words_induction {motive : Text → Prop} (nil : motive [])
    (gap : ∀ c t, isWordChar c = false → motive t → motive (c :: t))
    (word : ∀ w t, IsWord w → StartsFree t → motive t → motive (w ++ t)) (t : Text) : motive t := by
  induction hn : t.length using Nat.strongRecOn generalizing t with
  | ind n ih =>
    cases t with
    | nil => exact nil
    | cons c t =>
      cases hc : isWordChar c with
      | false => exact gap c t hc (ih t.length (by simp [← hn]) t rfl)
      | true =>
        have hshort : (t.dropWhile isWordChar).length < n := by
          have := (List.dropWhile_suffix isWordChar (l := t)).length_le
          simp at hn
          omega
        have hword : IsWord (c :: t.takeWhile isWordChar) := by
          refine ⟨by simp, fun d hd => ?_⟩
          rcases List.mem_cons.1 hd with rfl | hd
          · exact hc
          · exact List.mem_takeWhile_imp hd
        have hfree : StartsFree (t.dropWhile isWordChar) := by
          intro d hd
          have hhead := List.head?_dropWhile_not isWordChar t
          rw [Option.mem_def.1 hd] at hhead
          simpa using hhead
        have h := word _ _ hword hfree (ih _ hshort _ rfl)
        rwa [List.cons_append, List.takeWhile_append_dropWhile] at h

theorem pieces_cons_gap {c : Char} (h : isWordChar c = false) (t : Text) : pieces (c :: t) = .gap c :: pieces t := by
  simp [pieces, h]

theorem pieces_cons_word {c : Char} (h : isWordChar c = true) (t : Text) :
    pieces (c :: t) = extendWord c (pieces t) := by
  simp [pieces, h]

theorem extendWord_pieces {t : Text} (h : StartsFree t) (c : Char) :
    extendWord c (pieces t) = .word [c] :: pieces t := by
  cases t with
  | nil => rfl
  | cons d t => rw [pieces_cons_gap (startsFree_cons.1 h), extendWord]; simp

theorem extendWord_append (c : Char) {ps : List Piece} (h : ps ≠ []) (qs : List Piece) :
    extendWord c (ps ++ qs) = extendWord c ps ++ qs := by
  obtain ⟨p, ps, rfl⟩ := List.exists_cons_of_ne_nil h
  cases p with
  | word w => rfl
  | gap d => rfl

theorem pieces_ne_nil {t : Text} (h : t ≠ []) : pieces t ≠ [] := by
  intro hp
  apply h
  rw [← flatMap_text_pieces t, hp, List.flatMap_nil]

/-- A text that begins between words is cut apart from what stands before it. -/
theorem pieces_append {t : Text} (h : StartsFree t) (s : Text) : pieces (s ++ t) = pieces s ++ pieces t := by
  induction s with
  | nil => rfl
  | cons c s ih =>
    rw [List.cons_append]
    cases hc : isWordChar c with
    | false => rw [pieces_cons_gap hc, pieces_cons_gap hc, ih, List.cons_append]
    | true =>
      rw [pieces_cons_word hc, pieces_cons_word hc, ih]
      cases s with
      | nil => exact extendWord_pieces h c
      | cons d s => exact extendWord_append c (pieces_ne_nil (by simp)) _

theorem pieces_append_gap {c : Char} (h : isWordChar c = false) (s t : Text) :
    pieces (s ++ c :: t) = pieces s ++ .gap c :: pieces t := by
  rw [pieces_append (startsFree_cons.2 h), pieces_cons_gap h]

/-- A text that ends between words is cut apart from what stands behind it. -/
theorem pieces_append_of_endsFree {s : Text} (h : EndsFree s) (t : Text) : pieces (s ++ t) = pieces s ++ pieces t := by
  rcases List.eq_nil_or_concat' s with rfl | ⟨s, c, rfl⟩
  · rfl
  · have hc := endsFree_concat.1 h
    have hone := pieces_append_gap hc s []
    rw [List.append_assoc, List.singleton_append, pieces_append_gap hc, hone]
    simp [pieces]

theorem pieces_word {w : Text} (h : IsWord w) : pieces w = [.word w] := by
  obtain ⟨hne, hall⟩ := h
  induction w with
  | nil => exact absurd rfl hne
  | cons c w ih =>
    rw [pieces_cons_word (hall c (by simp))]
    cases w with
    | nil => rfl
    | cons d w => rw [ih (by simp) fun x hx => hall x (by simp [hx]), extendWord]

theorem pieces_word_append {w t : Text} (hw : IsWord w) (ht : StartsFree t) :
    pieces (w ++ t) = .word w :: pieces t := by
  rw [pieces_append ht, pieces_word hw, List.singleton_append]

/-- A text begins with one word at most. -/
theorem IsWord.unique {v w s t : Text} (hv : IsWord v) (hw : IsWord w) (hs : StartsFree s) (ht : StartsFree t)
    (h : v ++ s = w ++ t) : v = w := by
  have hp := congrArg pieces h
  rw [pieces_word_append hv hs, pieces_word_append hw ht] at hp
  exact Piece.word.inj (List.cons.inj hp).1

theorem isWord_of_mem_pieces {w t : Text} (h : .word w ∈ pieces t) : IsWord w := by
  induction t using words_induction with
  | nil => simp [pieces] at h
  | gap c t hc ih =>
    rw [pieces_cons_gap hc] at h
    exact ih (by simpa using h)
  | word v t hv ht ih =>
    rw [pieces_word_append hv ht] at h
    rcases List.mem_cons.1 h with hw | h
    · rwa [Piece.word.inj hw]
    · exact ih h

theorem isWordChar_of_gap_mem_pieces {c : Char} {t : Text} (h : .gap c ∈ pieces t) : isWordChar c = false := by
  induction t using words_induction with
  | nil => simp [pieces] at h
  | gap d t hd ih =>
    rw [pieces_cons_gap hd] at h
    rcases List.mem_cons.1 h with hc | h
    · rwa [Piece.gap.inj hc]
    · exact ih h
  | word v t hv ht ih =>
    rw [pieces_word_append hv ht] at h
    exact ih (by simpa using h)

theorem length_le_of_mem_pieces {w t : Text} (h : .word w ∈ pieces t) : w.length ≤ t.length := by
  have hmem := List.mem_map_of_mem (f := Piece.text) h
  rw [← flatMap_text_pieces t, List.flatMap_def]
  exact (List.sublist_flatten_of_mem hmem).length_le

/-- The pieces of a text in order: maximal runs of word characters, and the characters between them. -/
structure IsCut (ps : List Piece) (t : Text) : Prop where
  text_eq : ps.flatMap Piece.text = t
  isWord : ∀ w, .word w ∈ ps → IsWord w
  gap : ∀ c, .gap c ∈ ps → isWordChar c = false
  /-- A word is maximal: the piece behind it is not another word. -/
  maximal : ∀ pre v w post, ps ≠ pre ++ .word v :: .word w :: post

theorem IsCut.tail {p : Piece} {ps : List Piece} {t : Text} (h : IsCut (p :: ps) t) :
    IsCut ps (ps.flatMap Piece.text) where
  text_eq := rfl
  isWord w hw := h.isWord w (by simp [hw])
  gap c hc := h.gap c (by simp [hc])
  maximal pre v w post hps := h.maximal (p :: pre) v w post (by simp [hps])

theorem IsCut.eq_pieces {ps : List Piece} {t : Text} (h : IsCut ps t) : ps = pieces t := by
  induction ps generalizing t with
  | nil => rw [← h.text_eq]; rfl
  | cons p ps ih =>
    have htail := ih h.tail
    rw [← h.text_eq, List.flatMap_cons]
    cases p with
    | gap c =>
      rw [Piece.text, List.singleton_append, pieces_cons_gap (h.gap c (by simp)), ← htail]
    | word w =>
      have hfree : StartsFree (ps.flatMap Piece.text) := by
        cases ps with
        | nil => exact startsFree_nil
        | cons q qs =>
          cases q with
          | word v => exact absurd rfl (h.maximal [] w v qs)
          | gap c => exact startsFree_cons.2 (h.gap c (by simp))
      rw [Piece.text, pieces_word_append (h.isWord w (by simp)) hfree, ← htail]

/-- Every text has a cut. -/
theorem isCut_pieces (t : Text) : IsCut (pieces t) t where
  text_eq := flatMap_text_pieces t
  isWord _ := isWord_of_mem_pieces
  gap _ := isWordChar_of_gap_mem_pieces
  maximal := by
    induction t using words_induction with
    | nil => simp [pieces]
    | gap c t hc ih =>
      intro pre v w post h
      rw [pieces_cons_gap hc] at h
      cases pre with
      | nil => simp at h
      | cons p pre => exact ih pre v w post (List.cons.inj h).2
    | word u t hu ht ih =>
      intro pre v w post h
      rw [pieces_word_append hu ht] at h
      cases pre with
      | nil =>
        have hrest := (List.cons.inj h).2
        cases t with
        | nil => simp [pieces] at hrest
        | cons c t => simp [pieces_cons_gap (startsFree_cons.1 ht)] at hrest
      | cons p pre => exact ih pre v w post (List.cons.inj h).2

section
variable (f : Text → Text)

theorem mapWords_append {t : Text} (h : StartsFree t) (s : Text) :
    mapWords f (s ++ t) = mapWords f s ++ mapWords f t := by
  rw [mapWords, pieces_append h, List.flatMap_append]
  rfl

theorem mapWords_append_of_endsFree {s : Text} (h : EndsFree s) (t : Text) :
    mapWords f (s ++ t) = mapWords f s ++ mapWords f t := by
  rw [mapWords, pieces_append_of_endsFree h, List.flatMap_append]
  rfl

theorem mapWords_cons_gap {c : Char} (h : isWordChar c = false) (t : Text) :
    mapWords f (c :: t) = c :: mapWords f t := by
  rw [mapWords, pieces_cons_gap h, List.flatMap_cons]
  rfl

theorem mapWords_word {w : Text} (h : IsWord w) : mapWords f w = f w := by
  rw [mapWords, pieces_word h]
  simp

theorem mapWords_word_append {w t : Text} (hw : IsWord w) (ht : StartsFree t) :
    mapWords f (w ++ t) = f w ++ mapWords f t := by
  rw [mapWords_append f ht, mapWords_word f hw]

theorem startsFree_mapWords {t : Text} (h : StartsFree t) : StartsFree (mapWords f t) := by
  cases t with
  | nil => exact startsFree_nil
  | cons c t =>
    have hc := startsFree_cons.1 h
    rw [mapWords_cons_gap f hc]
    exact startsFree_cons.2 hc

/-- The images of the words are cut one by one, since each of them stands between characters that stay. -/
theorem mapWords_mapWords (g : Text → Text) (t : Text) :
    mapWords g (mapWords f t) = mapWords (fun w => mapWords g (f w)) t := by
  induction t using words_induction with
  | nil => rfl
  | gap c t hc ih => rw [mapWords_cons_gap f hc, mapWords_cons_gap g hc, mapWords_cons_gap _ hc, ih]
  | word w t hw ht ih =>
    rw [mapWords_word_append f hw ht, mapWords_append g (startsFree_mapWords f ht), mapWords_word_append _ hw ht, ih]

/-- A word of the mapped text is a word of the image of some word. -/
theorem word_mem_pieces_mapWords {v t : Text} (h : .word v ∈ pieces (mapWords f t)) :
    ∃ w, .word w ∈ pieces t ∧ .word v ∈ pieces (f w) := by
  induction t using words_induction with
  | nil => simp [mapWords, pieces] at h
  | gap c t hc ih =>
    rw [mapWords_cons_gap f hc, pieces_cons_gap hc] at h
    obtain ⟨w, hw, hv⟩ := ih (by simpa using h)
    exact ⟨w, by simp [pieces_cons_gap hc, hw], hv⟩
  | word u t hu ht ih =>
    rw [mapWords_word_append f hu ht, pieces_append (startsFree_mapWords f ht)] at h
    rw [pieces_word_append hu ht]
    rcases List.mem_append.1 h with h | h
    · exact ⟨u, by simp, h⟩
    · obtain ⟨w, hw, hv⟩ := ih h
      exact ⟨w, by simp [hw], hv⟩

end

theorem mapWords_congr {f g : Text → Text} {t : Text} (h : ∀ w, .word w ∈ pieces t → f w = g w) :
    mapWords f t = mapWords g t := by
  unfold mapWords
  apply List.flatMap_congr
  intro p hp
  cases p with
  | word w => exact h w hp
  | gap c => rfl

theorem mapWords_id (t : Text) : mapWords id t = t := by
  induction t using words_induction with
  | nil => rfl
  | gap c t hc ih => rw [mapWords_cons_gap _ hc, ih]
  | word w t hw ht ih => rw [mapWords_word_append _ hw ht, ih, id_eq]

theorem mapWords_eq_self {f : Text → Text} {t : Text} (h : ∀ w, .word w ∈ pieces t → f w = w) : mapWords f t = t := by
  rw [mapWords_congr (g := id) h, mapWords_id]

end PaymentIdentifiers.Text
