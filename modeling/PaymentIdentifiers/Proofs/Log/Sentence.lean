import PaymentIdentifiers.Log.Record
import PaymentIdentifiers.Proofs.Log.Masking
import PaymentIdentifiers.Proofs.Text.Decimal

/-!
# Messages made of fixed words and values

A message of the log is a row of stretches: fixed words, and values in the place of conversions. The template and its
values are masked apart from each other. If a value never touches a fixed word, then no word of the message goes across
a seam, so a message of masked values and small numbers has no word that would have to be masked.
-/
namespace PaymentIdentifiers.Log

/-- No word of the text has the form of an account number or of a card number. -/
def Clean (t : Text) : Prop := ∀ w, .word w ∈ Text.pieces t → ¬ Sensitive w

theorem clean_maskText (t : Text) : Clean (maskText t) := fun _ => not_sensitive_of_mem_pieces_maskText

theorem clean_iff_maskText_eq {t : Text} : Clean t ↔ maskText t = t := by
  constructor
  · intro h
    rw [maskText_eq_mapWords]
    exact Text.mapWords_eq_self fun w hw => shownWord_of_not_sensitive (h w hw)
  · intro h
    rw [← h]
    exact clean_maskText t

instance (t : Text) : Decidable (Clean t) := decidable_of_iff _ clean_iff_maskText_eq.symm

theorem clean_append {s t : Text} (h : Text.EndsFree s ∨ Text.StartsFree t) (hs : Clean s) (ht : Clean t) :
    Clean (s ++ t) := by
  have hpieces : Text.pieces (s ++ t) = Text.pieces s ++ Text.pieces t :=
    h.elim (fun h => Text.pieces_append_of_endsFree h t) (fun h => Text.pieces_append h s)
  intro w hw
  rw [hpieces] at hw
  exact (List.mem_append.1 hw).elim (hs w) (ht w)

theorem clean_of_length_lt {t : Text} (h : t.length < 12) : Clean t := by
  intro w hw hs
  have hle := hs.length_le
  have hword := Text.length_le_of_mem_pieces hw
  omega

/-- A text that has lost its middle has no long word left. -/
theorem clean_maskEnds (t : Text) : Clean (maskEnds t) := by
  by_cases h : t.length < 12
  · exact clean_of_length_lt (by rwa [length_maskEnds])
  · obtain ⟨n, hn⟩ : ∃ n, t.length - 8 = n + 1 := ⟨t.length - 9, by omega⟩
    have hfront : Clean (t.take 4) := clean_of_length_lt (by rw [List.length_take]; omega)
    have hend : Clean (t.takeEnd 4) := clean_of_length_lt (by rw [Text.takeEnd, List.length_drop]; omega)
    have hrest : Clean (List.replicate (n + 1) '*' ++ t.takeEnd 4) := by
      intro w hw
      rw [Text.pieces_stars, List.mem_append] at hw
      rcases hw with hw | hw
      · cases List.eq_of_mem_replicate hw
      · exact hend w hw
    rw [maskEnds_of_le (by omega), hn, List.append_assoc]
    exact clean_append (.inr (Text.startsFree_cons.2 (by decide))) hfront hrest

/-- A number of at most twelve digits is too short for a card number. -/
theorem clean_ofNat {n : Nat} (h : n < 10 ^ 12) : Clean (Text.ofNat n) := by
  have hdigits := Text.allDigits_ofNat n
  have hlen := Text.length_ofNat_le (by decide) h
  have hword : Text.IsWord (Text.ofNat n) :=
    ⟨List.ne_nil_of_length_pos (Text.length_ofNat_pos n),
      fun c hc => Text.isWordChar_of_isAlphanum (Text.isAlphanum_of_isDigit (hdigits c hc))⟩
  intro w hw hs
  rw [Text.pieces_word hword, List.mem_singleton] at hw
  rw [Text.Piece.word.inj hw] at hs
  cases hs with
  | inl ha =>
    obtain ⟨c, t, heq⟩ := List.exists_cons_of_ne_nil hword.1
    have hletter := ha.letters c (by simp [heq])
    have hdigit := hdigits c (by simp [heq])
    rw [Text.isAlpha_iff, Text.isUpper_iff, Text.isLower_iff] at hletter
    rw [Text.isDigit_iff] at hdigit
    omega
  | inr hc =>
    have := hc.least
    omega

/-- Fixed words, or a value in the place of a conversion. -/
inductive Stretch where
  | fixed (t : Text)
  | text (t : Text)
  | count (n : Nat)

namespace Stretch

def template : Stretch → Text
  | fixed t => t
  | text _ => "%s"
  | count _ => "%d"

def value? : Stretch → Option Datum
  | fixed _ => none
  | text t => some (.text t)
  | count n => some (.whole n)

def written : Stretch → Text
  | fixed t => t
  | text t => t
  | count n => Text.ofNat n

def masked : Stretch → Stretch
  | text t => text (maskText t)
  | s => s

/-- Fixed words that begin with a character between words. -/
def opensFree : Stretch → Bool
  | fixed (c :: _) => !Text.isWordChar c
  | _ => false

/-- Fixed words that end with a character between words. -/
def closesFree : Stretch → Bool
  | fixed t => t.getLast?.any fun c => !Text.isWordChar c
  | _ => false

/-- The fixed words need no mask and hold no percent sign, and a number is too short for a card number. -/
def Sound : Stretch → Prop
  | fixed t => Clean t ∧ '%' ∉ t
  | text _ => True
  | count n => n < 10 ^ 12

/-- Between any two stretches a word ends. -/
def spaced : List Stretch → Bool
  | s :: u :: ss => (s.closesFree || u.opensFree) && spaced (u :: ss)
  | _ => true

section
variable {f : Stretch → Text} (hf : ∀ t, f (.fixed t) = t)
include hf

theorem endsFree_of_closesFree {s : Stretch} (h : s.closesFree = true) : Text.EndsFree (f s) := by
  cases s with
  | fixed t =>
    rw [hf]
    intro c hc
    simpa [closesFree, Option.mem_def.1 hc] using h
  | text t => simp [closesFree] at h
  | count n => simp [closesFree] at h

theorem startsFree_of_opensFree {s : Stretch} (h : s.opensFree = true) (u : Text) : Text.StartsFree (f s ++ u) := by
  cases s with
  | fixed t =>
    cases t with
    | nil => simp [opensFree] at h
    | cons c t =>
      rw [hf, List.cons_append, Text.startsFree_cons]
      simpa [opensFree] using h
  | text t => simp [opensFree] at h
  | count n => simp [opensFree] at h

/-- No word goes across the seams, whatever stands in the place of the values. -/
theorem clean_flatMap {ss : List Stretch} (hspaced : spaced ss = true) (h : ∀ s ∈ ss, Clean (f s)) :
    Clean (ss.flatMap f) := by
  induction ss with
  | nil => simp [Clean, Text.pieces]
  | cons s ss ih =>
    have hs := h s (by simp)
    cases ss with
    | nil => simpa using hs
    | cons u ss =>
      rw [spaced, Bool.and_eq_true, Bool.or_eq_true] at hspaced
      have hseam : Text.EndsFree (f s) ∨ Text.StartsFree ((u :: ss).flatMap f) := by
        rw [List.flatMap_cons]
        exact hspaced.1.imp (endsFree_of_closesFree hf) fun hu => startsFree_of_opensFree hf hu _
      rw [List.flatMap_cons]
      exact clean_append hseam hs (ih hspaced.2 fun v hv => h v (by simp [hv]))

end

variable {ss : List Stretch}

/-- The fixed words need no mask and hold no percent sign. -/
def Worded (ss : List Stretch) : Prop := ∀ t, .fixed t ∈ ss → Clean t ∧ '%' ∉ t

theorem worded_of_sound (hsound : ∀ s ∈ ss, s.Sound) : Worded ss := fun _ ht => hsound _ ht

theorem clean_template (hworded : Worded ss) (hspaced : spaced ss = true) : Clean (ss.flatMap template) := by
  refine clean_flatMap (fun _ => rfl) hspaced fun s hs => ?_
  cases s with
  | fixed t => exact (hworded t hs).1
  | text t => exact (by decide +kernel : Clean "%s")
  | count n => exact (by decide +kernel : Clean "%d")

theorem clean_written (hsound : ∀ s ∈ ss, s.Sound) (hspaced : spaced ss = true) :
    Clean ((ss.map masked).flatMap written) := by
  rw [List.flatMap_map]
  refine clean_flatMap (fun _ => rfl) hspaced fun s hs => ?_
  cases s with
  | fixed t => exact (hsound _ hs).1
  | text t => exact clean_maskText t
  | count n => exact clean_ofNat (hsound _ hs)

theorem flatMap_template_masked : (ss.map masked).flatMap template = ss.flatMap template := by
  rw [List.flatMap_map]
  apply List.flatMap_congr
  intro s _
  cases s <;> rfl

theorem filterMap_value?_masked :
    (ss.map masked).filterMap value? = (ss.filterMap value?).map maskArgument := by
  rw [List.filterMap_map, List.map_filterMap]
  apply List.filterMap_congr
  intro s _
  cases s <;> rfl

end Stretch

theorem partsFrom_char {c : Char} (h : c ≠ '%') (position : Nat) (t : Text) :
    partsFrom none position (c :: t) = .char c :: partsFrom none (position + 1) t := by
  rw [partsFrom, if_neg h]

theorem Form.pad_of_le {f : Form} {t : Text} (h : f.width ≤ t.length) : f.pad t = t := by
  rw [pad, Nat.sub_eq_zero_of_le h]
  cases f.left <;> simp

/-- A conversion without any measure writes a text as it is. -/
theorem fill_text (s : Text) (position : Nat) (ds : List Datum) :
    Conversion.plain.fill (some ('s', position)) (.values (.text s :: ds)) = .ok (s, .values ds) := by
  change Except.ok ((Form.mk false false false false false 0 none).pad s, Supply.values ds) = _
  rw [Form.pad_of_le (Nat.zero_le _)]

/-- Without measures and flags, a sign and the digits behind it are put together again. -/
theorem Form.padNumber_eq (t : Text) : (Form.mk false false false false false 0 none).padNumber [] t = t := by
  simp only [padNumber, pad, Bool.false_and, Bool.false_eq_true, if_false, Nat.zero_sub, List.replicate_zero,
    List.nil_append, List.append_nil]
  split <;> rfl

/-- A conversion without any measure writes a number in decimal notation. -/
theorem fill_count (n position : Nat) (ds : List Datum) :
    Conversion.plain.fill (some ('d', position)) (.values (.whole n :: ds)) = .ok (Text.ofNat n, .values ds) := by
  have hwhole : (Form.mk false false false false false 0 none).wholeText 10 n = Text.ofNat n := by
    rw [Form.wholeText, if_neg (by omega)]
    simp [List.leftpad, Text.ofNat]
  have hwritten : (Form.mk false false false false false 0 none).writeWhole 10 [] n = .ok (Text.ofNat n) := by
    rw [Form.writeWhole, hwhole]
    exact congrArg Except.ok (Form.padNumber_eq _)
  change (((Form.mk false false false false false 0 none).writeWhole 10 [] n).bind fun t =>
    .ok (t, Supply.values ds)) = _
  rw [hwritten]
  rfl

theorem fillParts_char_eq (s : Supply) (c : Char) (ps : List Part) :
    fillParts s (.char c :: ps) = (fillParts s ps).map fun t => c :: t := by
  rw [fillParts]
  change (fillParts s ps).bind (fun t => .ok (c :: t)) = _
  cases fillParts s ps <;> rfl

theorem fillParts_hole_of_ok {h : Conversion} {letter : Option (Char × Nat)} {s rest : Supply} {u : Text}
    (hfill : h.fill letter s = .ok (u, rest)) (ps : List Part) :
    fillParts s (.hole h letter :: ps) = (fillParts rest ps).map fun t => u ++ t := by
  rw [fillParts, hfill]
  change (fillParts rest ps).bind (fun t => .ok (u ++ t)) = _
  cases fillParts rest ps <;> rfl

section
variable (ds : List Datum) (ps : List Part) (position : Nat)

theorem fillParts_char (c : Char) {t : Text} (h : fillParts (.values ds) ps = .ok t) :
    fillParts (.values ds) (.char c :: ps) = .ok (c :: t) := by
  rw [fillParts_char_eq, h]
  rfl

theorem fillParts_text (s : Text) {t : Text} (h : fillParts (.values ds) ps = .ok t) :
    fillParts (.values (.text s :: ds)) (.hole .plain (some ('s', position)) :: ps) = .ok (s ++ t) := by
  rw [fillParts_hole_of_ok (fill_text s position ds), h]
  rfl

theorem fillParts_count (n : Nat) {t : Text} (h : fillParts (.values ds) ps = .ok t) :
    fillParts (.values (.whole n :: ds)) (.hole .plain (some ('d', position)) :: ps) = .ok (Text.ofNat n ++ t) := by
  rw [fillParts_hole_of_ok (fill_count n position ds), h]
  rfl

end

/-- The percent signs of the conversions are the only ones. -/
theorem fillParts_flatMap {ss : List Stretch} (h : ∀ t, .fixed t ∈ ss → '%' ∉ t) (position : Nat) :
    fillParts (.values (ss.filterMap Stretch.value?)) (partsFrom none position (ss.flatMap Stretch.template)) =
      .ok (ss.flatMap Stretch.written) := by
  induction ss generalizing position with
  | nil => rfl
  | cons s ss ih =>
    have hrest := ih fun t ht => h t (by simp [ht])
    cases s with
    | fixed t =>
      have hfree := h t (by simp)
      clear h ih
      induction t generalizing position with
      | nil => exact hrest position
      | cons c t ih =>
        rw [List.mem_cons, not_or] at hfree
        have htail := ih (position + 1) hfree.2
        have hparts := partsFrom_char (Ne.symm hfree.1) position (t ++ ss.flatMap Stretch.template)
        exact (congrArg _ hparts).trans (fillParts_char _ _ c htail)
    | text t => exact fillParts_text _ _ (position + 1) t (hrest (position + 2))
    | count n => exact fillParts_count _ _ (position + 1) n (hrest (position + 2))

/-- Formatting writes the values between the fixed words. -/
theorem format_flatMap (ss : List Stretch) (h : ∀ t, .fixed t ∈ ss → '%' ∉ t) :
    format (ss.flatMap Stretch.template) (.positional (ss.filterMap Stretch.value?)) =
      .ok (ss.flatMap Stretch.written) := by
  unfold format
  split
  · rename_i hempty
    have hnone := List.filterMap_eq_nil_iff.1 (List.isEmpty_iff.1 hempty)
    congr 1
    apply List.flatMap_congr
    intro s hs
    cases s with
    | fixed t => rfl
    | text t => cases hnone _ hs
    | count n => cases hnone _ hs
  · exact fillParts_flatMap h 0

namespace Record

/-- The masked message shows no word of one of the two forms. -/
def Discreet (r : Record) : Prop :=
  ∃ m, r.maskedMessage = .ok m ∧ ∀ ps, Text.IsCut ps m → ∀ w, .word w ∈ ps → ¬ AccountForm w ∧ ¬ CardForm w

/-- The message of the record is the row of stretches. -/
structure Spells (r : Record) (ss : List Stretch) : Prop where
  template : r.template = ss.flatMap Stretch.template
  arguments : r.arguments = .positional (ss.filterMap Stretch.value?)

variable {r : Record} (ss : List Stretch) (h : r.Spells ss)
include h

theorem maskedMessage_of_spells (hworded : Stretch.Worded ss) (hspaced : Stretch.spaced ss = true) :
    r.maskedMessage = .ok ((ss.map Stretch.masked).flatMap Stretch.written) := by
  have htemplate := clean_iff_maskText_eq.1 (Stretch.clean_template hworded hspaced)
  have hformat := format_flatMap (ss.map Stretch.masked) fun t ht => by
    obtain ⟨s, hs, heq⟩ := List.mem_map.1 ht
    cases s with
    | fixed u =>
      obtain rfl := Stretch.fixed.inj heq
      exact (hworded u hs).2
    | text u => cases heq
    | count n => cases heq
  rw [Stretch.flatMap_template_masked, Stretch.filterMap_value?_masked] at hformat
  rw [maskedMessage, message, masked, h.template, h.arguments, htemplate, Arguments.masked, hformat]

theorem discreet_of_spells (hsound : ∀ s ∈ ss, s.Sound) (hspaced : Stretch.spaced ss = true) : r.Discreet := by
  refine ⟨_, maskedMessage_of_spells ss h (Stretch.worded_of_sound hsound) hspaced, fun ps hps w hw => ?_⟩
  rw [hps.eq_pieces] at hw
  exact not_or.1 (Stretch.clean_written hsound hspaced w hw)

end Record

end PaymentIdentifiers.Log
