import PaymentIdentifiers.Log.Sink
import PaymentIdentifiers.Proofs.Log.Sentence
import PaymentIdentifiers.Proofs.Text.Joined

/-!
# Masked records are formatted like the records themselves

A percent sign stands between words, and the first four characters of a word always stay. So the mask takes no
conversion of a template apart, and the asterisks begin no new one. Numbers stay numbers, and any other value becomes a
text, on which the conversions to numbers fail as they did. The formatter is run on a record and on the masked record
side by side, and `Agree` compares the two results after every part of the template.
-/
namespace PaymentIdentifiers.Log

/-! ### Templates -/

theorem length_maskText (t : Text) : (maskText t).length = t.length := (forall₂_maskText t).length_eq.symm

theorem take_shownWord {n : Nat} (h : n ≤ 4) (w : Text) : (shownWord w).take n = w.take n := by
  by_cases hw : Sensitive w
  · have hlen := hw.length_le
    have hfront : n ≤ (w.take 4).length := by
      rw [List.length_take]
      omega
    rw [shownWord, if_pos hw, List.append_assoc, List.take_append_of_le_length hfront, List.take_take,
      Nat.min_eq_left h]
  · rw [shownWord_of_not_sensitive hw]

/-- A word that loses its middle is longer than four characters, so the front of a text stays. -/
theorem take_maskText {n : Nat} (h : n ≤ 4) (t : Text) : (maskText t).take n = t.take n := by
  rw [maskText_eq_mapWords]
  induction t using Text.words_induction generalizing n with
  | nil => rfl
  | gap c t hc ih =>
    rw [Text.mapWords_cons_gap _ hc]
    cases n with
    | zero => rfl
    | succ n => rw [List.take_succ_cons, List.take_succ_cons, ih (by omega)]
  | word w t hw ht ih =>
    rw [Text.mapWords_word_append _ hw ht, List.take_append, List.take_append, take_shownWord h,
      ← (forall₂_shownWord w).length_eq, ih (by omega)]

theorem maskText_append_percent (s t : Text) : maskText (s ++ '%' :: t) = maskText s ++ '%' :: maskText t := by
  have hgap : Text.isWordChar '%' = false := by decide
  simp only [maskText_eq_mapWords]
  rw [Text.mapWords_append _ (Text.startsFree_cons.2 hgap), Text.mapWords_cons_gap _ hgap]

/-- The conversions that messages are written with. -/
def conversions : List Text := ["%s", "%d", "%5d", "%05d", "%.1f", "%.2f", "%%"]

/-- A template in which every percent sign begins one of these conversions. -/
inductive Usual : Text → Prop
  | nil : Usual []
  | char {c : Char} {t : Text} (hc : c ≠ '%') (ht : Usual t) : Usual (c :: t)
  | conversion {u t : Text} (hu : u ∈ conversions) (ht : Usual t) : Usual (u ++ t)

/-- Two templates with the same conversions at the same places, and related characters between them. -/
inductive Veiled (r : Char → Char → Prop) : Text → Text → Prop
  | nil : Veiled r [] []
  | char {c d : Char} {t u : Text} (hc : c ≠ '%') (hd : d ≠ '%') (h : r c d) (ht : Veiled r t u) :
      Veiled r (c :: t) (d :: u)
  | conversion {v t u : Text} (hv : v ∈ conversions) (ht : Veiled r t u) : Veiled r (v ++ t) (v ++ u)

theorem exists_body_of_mem_conversions {u : Text} (h : u ∈ conversions) :
    ∃ body : Text, u = '%' :: body ∧ body.length ≤ 4 := by
  have hall : ∀ v ∈ conversions, v = '%' :: v.tail ∧ v.tail.length ≤ 4 := by decide
  exact ⟨u.tail, hall u h⟩

theorem Usual.append {s t : Text} (hs : '%' ∉ s) (h : Usual t) : Usual (s ++ t) := by
  induction s with
  | nil => exact h
  | cons c s ih =>
    rw [List.mem_cons, not_or] at hs
    exact .char (Ne.symm hs.1) (ih hs.2)

/-- The end of a masked template. The induction is on the end, and the front grows with it, since a word of the text
may go across the place where it is cut. -/
theorem Usual.veiled_drop {t : Text} (h : Usual t) (s : Text) :
    Veiled Obscures t ((maskText (s ++ t)).drop s.length) := by
  induction h generalizing s with
  | nil =>
    rw [List.append_nil, List.drop_eq_nil_of_le (length_maskText s).le]
    exact .nil
  | @char c t hc ht ih =>
    have hrest := List.forall₂_drop s.length (forall₂_maskText (s ++ c :: t))
    rw [List.drop_left, List.forall₂_cons_left_iff] at hrest
    obtain ⟨d, u, hd, -, heq⟩ := hrest
    have hnext := ih (s ++ [c])
    rw [List.append_assoc, List.singleton_append, List.length_append, List.length_singleton, ← List.drop_drop, heq,
      List.drop_one, List.tail_cons] at hnext
    have hpercent : d ≠ '%' := by
      rcases hd with rfl | rfl
      · exact hc
      · decide
    rw [heq]
    exact .char hc hpercent hd hnext
  | @conversion u t hu ht ih =>
    obtain ⟨body, rfl, hlen⟩ := exists_body_of_mem_conversions hu
    have hfront := take_maskText hlen (body ++ t)
    rw [List.take_left] at hfront
    have hbody := List.take_append_drop body.length (maskText (body ++ t))
    rw [hfront] at hbody
    have hnext := ih (s ++ '%' :: body)
    have hmask := maskText_append_percent s (body ++ t)
    rw [List.append_assoc, List.cons_append, List.length_append, ← List.drop_drop, hmask, ← length_maskText s,
      List.drop_left, List.length_cons, List.drop_succ_cons] at hnext
    rw [List.cons_append, hmask, ← length_maskText s, List.drop_left, ← hbody, ← List.cons_append]
    exact .conversion hu hnext

theorem Usual.veiled_maskText {t : Text} (h : Usual t) : Veiled Obscures t (maskText t) := h.veiled_drop []

section
variable {r : Char → Char → Prop} [Std.Refl r]

theorem Usual.veiled_self {t : Text} (h : Usual t) : Veiled r t t := by
  induction h with
  | nil => exact .nil
  | char hc ht ih => exact .char hc hc (Std.Refl.refl _) ih
  | conversion hu ht ih => exact .conversion hu ih

theorem Veiled.forall₂ {t u : Text} (h : Veiled r t u) : List.Forall₂ r t u := by
  induction h with
  | nil => exact .nil
  | char hc hd h ht ih => exact .cons h ih
  | conversion hv ht ih => exact List.rel_append (List.forall₂_refl _) ih

end

/-! ### Two formatters side by side -/

/-- Two results of the formatter: related values, or errors of one class. -/
inductive Agree {α β : Type} (P : α → β → Prop) : Except FormatError α → Except FormatError β → Prop
  | ok {a : α} {b : β} (h : P a b) : Agree P (.ok a) (.ok b)
  | error {e f : FormatError} (h : e.errorClass = f.errorClass) : Agree P (.error e) (.error f)

namespace Agree
variable {α β γ δ : Type} {P : α → β → Prop}

theorem refl {P : α → α → Prop} [Std.Refl P] (x : Except FormatError α) : Agree P x x := by
  cases x with
  | error e => exact .error rfl
  | ok a => exact .ok (Std.Refl.refl a)

theorem bind {Q : γ → δ → Prop} {x : Except FormatError α} {y : Except FormatError β}
    {f : α → Except FormatError γ} {g : β → Except FormatError δ} (h : Agree P x y)
    (hfg : ∀ a b, P a b → Agree Q (f a) (g b)) : Agree Q (x.bind f) (y.bind g) := by
  cases h with
  | ok h => exact hfg _ _ h
  | error h => exact .error h

theorem map {Q : γ → δ → Prop} {x : Except FormatError α} {y : Except FormatError β} {f : α → γ} {g : β → δ}
    (h : Agree P x y) (hfg : ∀ a b, P a b → Q (f a) (g b)) : Agree Q (x.map f) (y.map g) := by
  cases h with
  | ok h => exact .ok (hfg _ _ h)
  | error h => exact .error h

theorem exists_ok_iff {x : Except FormatError α} {y : Except FormatError β} (h : Agree P x y) :
    (∃ b, y = .ok b) ↔ ∃ a, x = .ok a := by
  cases h with
  | ok h => simp
  | error h => simp

theorem rel {a : α} {b : β} (h : Agree P (.ok a) (.ok b)) : P a b := by
  cases h with
  | ok h => exact h

theorem errorClass_eq {e f : FormatError} (h : Agree P (.error e) (.error f)) : f.errorClass = e.errorClass := by
  cases h with
  | error h => exact h.symm

end Agree

/-- Whether the mask leaves a value as it is, which it does with numbers and truth values. -/
def isNumber : Datum → Bool
  | .truth _ | .whole _ | .real _ => true
  | _ => false

theorem maskArgument_of_isNumber {d : Datum} (h : isNumber d = true) : maskArgument d = d := by
  cases d <;> first | rfl | cases h

theorem maskArgument_of_not_isNumber {d : Datum} (h : isNumber d = false) :
    maskArgument d = .text (maskText d.display) := by
  cases d <;> first | rfl | cases h

theorem display_maskArgument {d : Datum} (h : isNumber d = false) :
    (maskArgument d).display = maskText d.display := by
  rw [maskArgument_of_not_isNumber h]
  rfl

/-- Where a reading of numbers fails on all other values, it fails on their texts. -/
theorem agree_of_isNumber {α : Type} {f : Datum → Except FormatError α}
    (hf : ∀ d, isNumber d = false → ∃ e, f d = .error e ∧ e.errorClass = .type) (d : Datum) :
    Agree Eq (f d) (f (maskArgument d)) := by
  cases h : isNumber d with
  | true =>
    rw [maskArgument_of_isNumber h]
    exact .refl _
  | false =>
    obtain ⟨e, he, hclass⟩ := hf d h
    obtain ⟨e', he', hclass'⟩ := hf (maskArgument d) (by rw [maskArgument_of_not_isNumber h]; rfl)
    rw [he, he']
    exact .error (hclass.trans hclass'.symm)

section
variable {r : Char → Char → Prop} [Std.Refl r]

instance reflForall₂ : Std.Refl (List.Forall₂ r) := ⟨List.forall₂_refl⟩

namespace Form
variable (f : Form) (letter : Char) (position : Nat)

theorem forall₂_pad {s t : Text} (h : List.Forall₂ r s t) : List.Forall₂ r (f.pad s) (f.pad t) := by
  unfold pad
  rw [h.length_eq]
  cases f.left with
  | false => exact List.rel_append (List.forall₂_refl _) h
  | true => exact List.rel_append h (List.forall₂_refl _)

omit [Std.Refl r] in
theorem forall₂_cut {s t : Text} (h : List.Forall₂ r s t) : List.Forall₂ r (f.cut s) (f.cut t) := by
  unfold cut
  cases f.places with
  | none => exact h
  | some n => exact List.forall₂_take n h

theorem agree_wholeOf (d : Datum) : Agree Eq (wholeOf letter d) (wholeOf letter (maskArgument d)) :=
  agree_of_isNumber (fun d h => by cases d <;> first | exact ⟨_, rfl, rfl⟩ | cases h) d

theorem agree_realOf (d : Datum) : Agree Eq (realOf d) (realOf (maskArgument d)) :=
  agree_of_isNumber (fun d h => by cases d <;> first | exact ⟨_, rfl, rfl⟩ | cases h) d

variable {d : Datum} (hd : List.Forall₂ r d.display (maskArgument d).display)
include hd

theorem agree_write (hletter : letter ∈ ['s', 'd', 'f']) :
    Agree (List.Forall₂ r) (f.write letter position d) (f.write letter position (maskArgument d)) := by
  simp only [List.mem_cons, List.not_mem_nil, or_false] at hletter
  rcases hletter with rfl | rfl | rfl
  · exact .ok (f.forall₂_pad (f.forall₂_cut hd))
  · refine (agree_wholeOf _ d).bind fun n m h => ?_
    rw [h]
    exact .refl _
  · refine (agree_realOf d).map fun x y h => ?_
    rw [h]
    exact List.forall₂_refl _

end Form

end

/-- The text stands for one conversion, which needs nothing but the value that it writes. -/
structure Spells (v : Text) (h : Conversion) (f : Form) (letter : Char) : Prop where
  parts : ∀ position, ∃ place, ∀ t, partsFrom none position (v ++ t) =
    .hole h (some (letter, place)) :: partsFrom none (position + v.length) t
  form : ∀ ds, Form.ofConversion h (.values ds) = .ok (f, .values ds)
  letter : letter ∈ ['s', 'd', 'f']

theorem spells_of_mem_conversions {v : Text} (hv : v ∈ conversions) :
    v = "%%" ∨ ∃ h f letter, Spells v h f letter := by
  simp only [conversions, List.mem_cons, List.not_mem_nil, or_false] at hv
  rcases hv with rfl | rfl | rfl | rfl | rfl | rfl | rfl
  on_goal 7 => exact .inl rfl
  all_goals exact .inr ⟨_, _, _, fun _ => ⟨_, fun _ => rfl⟩, fun _ => rfl, by decide⟩

namespace Spells
variable {v : Text} {h : Conversion} {f : Form} {letter : Char} (hv : Spells v h f letter) (place : Nat)
  (ps : List Part)
include hv

theorem fillParts_nil : fillParts (.values []) (.hole h (some (letter, place)) :: ps) = .error .tooFewArguments := by
  simp only [fillParts, Conversion.fill, hv.form]
  rfl

theorem fill_cons (d : Datum) (ds : List Datum) :
    h.fill (some (letter, place)) (.values (d :: ds)) = (f.write letter place d).map fun t => (t, .values ds) := by
  simp only [Conversion.fill, hv.form]
  change (f.write letter place d).bind (fun t => .ok (t, Supply.values ds)) = _
  cases f.write letter place d <;> rfl

theorem fillParts_cons (d : Datum) (ds : List Datum) :
    fillParts (.values (d :: ds)) (.hole h (some (letter, place)) :: ps) =
      (f.write letter place d).bind fun t => (fillParts (.values ds) ps).map fun s => t ++ s := by
  have hfill := hv.fill_cons place d ds
  cases hwrite : f.write letter place d with
  | error e =>
    rw [hwrite] at hfill
    rw [fillParts, hfill]
    rfl
  | ok t =>
    rw [hwrite] at hfill
    exact fillParts_hole_of_ok hfill ps

end Spells

section
variable {r : Char → Char → Prop} [Std.Refl r] {t u : Text} {ds : List Datum}

/-- The induction is on the templates. At a conversion both formatters write a value, or both fail, and then the values
that are left go with the ends of the templates. -/
theorem Veiled.agree_fillParts (h : Veiled r t u) (position : Nat)
    (hds : ∀ d ∈ ds, List.Forall₂ r d.display (maskArgument d).display) :
    Agree (List.Forall₂ r) (fillParts (.values ds) (partsFrom none position t))
      (fillParts (.values (ds.map maskArgument)) (partsFrom none position u)) := by
  induction h generalizing position ds with
  | nil =>
    cases ds with
    | nil => exact .ok .nil
    | cons d ds => exact .error rfl
  | char hc hd h ht ih =>
    rw [partsFrom_char hc, partsFrom_char hd, fillParts_char_eq, fillParts_char_eq]
    exact (ih (position + 1) hds).map fun s s' hs => .cons h hs
  | @conversion v t u hv ht ih =>
    rcases spells_of_mem_conversions hv with rfl | ⟨h, f, letter, hspells⟩
    · change Agree _ (fillParts _ (.char '%' :: partsFrom none (position + 2) t))
        (fillParts _ (.char '%' :: partsFrom none (position + 2) u))
      rw [fillParts_char_eq, fillParts_char_eq]
      exact (ih (position + 2) hds).map fun s s' hs => .cons (Std.Refl.refl _) hs
    · obtain ⟨place, hparts⟩ := hspells.parts position
      rw [hparts, hparts]
      cases ds with
      | nil =>
        rw [List.map_nil, hspells.fillParts_nil, hspells.fillParts_nil]
        exact .error rfl
      | cons d ds =>
        rw [List.forall_mem_cons] at hds
        rw [List.map_cons, hspells.fillParts_cons, hspells.fillParts_cons]
        refine (f.agree_write letter place hds.1 hspells.letter).bind fun s s' hs => ?_
        exact (ih (position + v.length) hds.2).map fun _ _ hrest => List.rel_append hs hrest

end

/-! ### Records -/

theorem forall₂_maskArgument (d : Datum) : List.Forall₂ Obscures d.display (maskArgument d).display := by
  cases h : isNumber d with
  | false =>
    rw [display_maskArgument h]
    exact forall₂_maskText d.display
  | true =>
    rw [maskArgument_of_isNumber h]
    exact List.forall₂_refl _

theorem maskArgument_maskArgument (d : Datum) : maskArgument (maskArgument d) = maskArgument d := by
  cases h : isNumber d with
  | false =>
    rw [maskArgument_of_not_isNumber h]
    exact congrArg Datum.text (maskText_maskText d.display)
  | true => rw [maskArgument_of_isNumber h, maskArgument_of_isNumber h]

theorem Arguments.masked_masked (a : Arguments) : a.masked.masked = a.masked := by
  cases a with
  | positional ds => simp [masked, maskArgument_maskArgument]
  | named fs => simp [masked, maskArgument_maskArgument]

namespace Record

/-- The second of two filters finds nothing to mask. -/
theorem masked_masked (r : Record) : r.masked.masked = r.masked := by
  simp only [masked, maskText_maskText, Arguments.masked_masked]

end Record

/-- Two formatters agree on a template and its mask. -/
theorem Veiled.agree_format {r : Char → Char → Prop} [Std.Refl r] {t u : Text} {ds : List Datum} (h : Veiled r t u)
    (hds : ∀ d ∈ ds, List.Forall₂ r d.display (maskArgument d).display) :
    Agree (List.Forall₂ r) (format t (.positional ds)) (format u (.positional (ds.map maskArgument))) := by
  unfold format
  cases ds with
  | nil => exact .ok h.forall₂
  | cons d ds => exact h.agree_fillParts 0 hds

theorem Arguments.ofList_eq {ds : List Datum} (h : ∀ f fs, ds ≠ [.record (f :: fs)]) :
    Arguments.ofList ds = .positional ds := by
  unfold ofList
  split
  · exact absurd rfl (h _ _)
  · rfl

namespace Sink

theorem linesOf_ne_nil (t : Text) : linesOf t ≠ [] := Text.cut_ne_nil _ t

theorem withoutTime_eq_nil_iff {ls : List Text} : withoutTime ls = [] ↔ ls = [] := by
  cases ls <;> simp [withoutTime]

theorem exists_fileText_iff (r : Record) (line : Datum) :
    (∃ t, fileText? line r = .ok t) ↔ (∃ n, Form.wholeOf 'd' line = .ok n) ∧ ∃ m, r.message = .ok m := by
  unfold fileText?
  cases Form.wholeOf 'd' line with
  | error e => exact ⟨fun ⟨_, h⟩ => (nomatch h), fun ⟨⟨_, h⟩, _⟩ => (nomatch h)⟩
  | ok n =>
    cases r.message with
    | error e => exact ⟨fun ⟨_, h⟩ => (nomatch h), fun ⟨_, _, h⟩ => (nomatch h)⟩
    | ok m => exact ⟨fun _ => ⟨⟨n, rfl⟩, m, rfl⟩, fun _ => ⟨_, rfl⟩⟩

theorem exists_consoleText_iff (r : Record) : (∃ t, consoleText? r = .ok t) ↔ ∃ m, r.message = .ok m := by
  unfold consoleText?
  cases r.message <;> simp [Except.map]

section
variable (text? : Record → Except FormatError Text) (r : Record)

/-- No filter holds a record back: a handler writes what it is given, masked, unless it cannot be formatted, -/
theorem handle_fst_ne_nil_iff : (handle text? r).1 ≠ [] ↔ ∃ t, text? r.masked = .ok t := by
  unfold handle
  simp only [Record.filter]
  cases text? r.masked with
  | error e => simp
  | ok t => simp [linesOf_ne_nil]

/-- and leaves it masked. -/
theorem handle_snd : (handle text? r).2 = r.masked := by
  unfold handle
  simp only [Record.filter]
  cases text? r.masked <;> rfl

end

variable (k : Sink) (r : Record) (line : Datum)

/-- The console writes every masked record that reaches its threshold, unless the record cannot be formatted. -/
theorem console_ne_nil_iff :
    (k.write r line).2 ≠ [] ↔ k.threshold ≤ r.level.weight ∧ ∃ m, r.maskedMessage = .ok m := by
  rw [Record.maskedMessage, ← exists_consoleText_iff, ← handle_fst_ne_nil_iff]
  unfold write
  by_cases hlevel : k.threshold ≤ r.level.weight <;> simp [hlevel]

/-- The file gets the record as the console left it, which makes no difference behind a mask. -/
theorem fileLines_ne_iff :
    (k.write r line).1.fileLines ≠ k.fileLines ↔
      (k.keepsFile = true ∧ fileThreshold ≤ r.level.weight) ∧ (∃ n, Form.wholeOf 'd' line = .ok n) ∧
        ∃ m, r.maskedMessage = .ok m := by
  obtain ⟨left, hleft, hmasked, hlevel⟩ : ∃ left : Record,
      (if k.threshold ≤ r.level.weight then handle consoleText? r else ([], r)).2 = left ∧
        left.masked = r.masked ∧ left.level = r.level := by
    refine ⟨_, rfl, ?_⟩
    split
    · rw [handle_snd]
      exact ⟨r.masked_masked, rfl⟩
    · exact ⟨rfl, rfl⟩
  rw [Record.maskedMessage, ← exists_fileText_iff, ← hmasked, ← handle_fst_ne_nil_iff]
  unfold write
  simp only [hleft, hlevel]
  by_cases hkept : k.keepsFile = true ∧ fileThreshold ≤ r.level.weight
  · simp [hkept, withoutTime_eq_nil_iff]
  · simp [hkept, withoutTime]

end Sink

/-- A template that the mask leaves alone is formatted with the same values. -/
theorem Usual.agree_format_self {t : Text} {ds : List Datum} (h : Usual t)
    (hds : ∀ d ∈ ds, isNumber d = false → maskText d.display = d.display) :
    Agree Eq (format t (.positional ds)) (format t (.positional (ds.map maskArgument))) := by
  have hshown : ∀ d ∈ ds, List.Forall₂ Eq d.display (maskArgument d).display := by
    intro d hd
    rw [List.forall₂_eq_eq_eq]
    cases hnumber : isNumber d with
    | false => rw [display_maskArgument hnumber, hds d hd hnumber]
    | true => rw [maskArgument_of_isNumber hnumber]
  have hagree := (h.veiled_self (r := Eq)).agree_format hshown
  rwa [List.forall₂_eq_eq_eq] at hagree

/-- Masking never breaks a message that is written with the usual conversions. The filter keeps the record and leaves it
masked. The masked record is formatted if the record is, and fails with an error of the same class if it is not; every
sink writes what it would write of the record itself. Where the mask finds nothing in the template and in the values, the
message is the same. -/
theorem masked_formatted_alike (r : Record) (ds : List Datum) (hargs : r.arguments = .ofList ds)
    (hplain : ∀ f fs, ds ≠ [.record (f :: fs)]) (ht : Usual r.template) :
    (r.filter.1 = true ∧ r.filter.2.message = r.maskedMessage) ∧
    ((∃ m, r.maskedMessage = .ok m) ↔ ∃ m, r.message = .ok m) ∧
    (∀ e f, r.message = .error e → r.maskedMessage = .error f → f.errorClass = e.errorClass) ∧
    (∀ m u, r.message = .ok m → r.maskedMessage = .ok u → List.Forall₂ Obscures m u) ∧
    (∀ (k : Sink) (line : Datum),
      ((k.write r line).2 ≠ [] ↔ k.threshold ≤ r.level.weight ∧ ∃ m, r.message = .ok m) ∧
      ((k.write r line).1.fileLines ≠ k.fileLines ↔
        (k.keepsFile = true ∧ Sink.fileThreshold ≤ r.level.weight) ∧ (∃ n, Form.wholeOf 'd' line = .ok n) ∧
          ∃ m, r.message = .ok m)) ∧
    (maskText r.template = r.template → (∀ d ∈ ds, isNumber d = false → maskText d.display = d.display) →
      ∀ m, r.message = .ok m → r.maskedMessage = .ok m) := by
  have hmessage : r.message = format r.template (.positional ds) := by
    rw [Record.message, hargs, Arguments.ofList_eq hplain]
  have hmasked : r.maskedMessage = format (maskText r.template) (.positional (ds.map maskArgument)) := by
    rw [Record.maskedMessage, Record.message, Record.masked, hargs, Arguments.ofList_eq hplain, Arguments.masked]
  have hagree : Agree (List.Forall₂ Obscures) r.message r.maskedMessage := by
    rw [hmessage, hmasked]
    exact ht.veiled_maskText.agree_format fun d _ => forall₂_maskArgument d
  refine ⟨⟨rfl, rfl⟩, hagree.exists_ok_iff, fun e f he hf => ?_, fun m u hm hu => ?_, fun k line => ⟨?_, ?_⟩,
    fun htemplate hds m hm => ?_⟩
  · rw [he, hf] at hagree
    exact hagree.errorClass_eq
  · rw [hm, hu] at hagree
    exact hagree.rel
  · rw [Sink.console_ne_nil_iff, hagree.exists_ok_iff]
  · rw [Sink.fileLines_ne_iff, hagree.exists_ok_iff]
  · obtain ⟨u, hu⟩ := hagree.exists_ok_iff.2 ⟨m, hm⟩
    have hsame := ht.agree_format_self hds
    rw [htemplate] at hmasked
    rw [← hmessage, ← hmasked, hm, hu] at hsame
    rw [hu, hsame.rel]

/-- A word that begins with the letter of a conversion is masked, and the letter stays. A list is no number, before and
behind the mask. Short words are not masked at all. -/
theorem masked_formatted_alike_letter :
    let r : Record := ⟨.info, "bank", "%sE8937040044053 %05d%%", .ofList [.text "D", .whole 7]⟩
    let failing : Record := { r with arguments := .ofList [.text "D", .list []] }
    let short : Record := { r with template := "%5d: %s", arguments := .ofList [.whole 7, .text "DE89"] }
    r.message = .ok "DE8937040044053 00007%" ∧ r.filter.2.message = .ok "DE89*******4053 00007%" ∧
      ((Sink.console 0).write r (.whole 1)).2 ≠ [] ∧
      failing.message = .error (.numberExpected 'd' "list") ∧
      failing.maskedMessage = .error (.numberExpected 'd' "str") ∧
      (FormatError.numberExpected 'd' "str").errorClass = (FormatError.numberExpected 'd' "list").errorClass ∧
      short.message = .ok "    7: DE89" ∧ short.maskedMessage = .ok "    7: DE89" := by
  intro r failing short
  have hend : Usual ("%05d".toList ++ ("%%".toList ++ [])) := .conversion (by decide) (.conversion (by decide) .nil)
  have hword : Usual ("E8937040044053 ".toList ++ ("%05d".toList ++ ("%%".toList ++ []))) := .append (by decide) hend
  have husual : Usual r.template := .conversion (u := "%s") (by decide) hword
  have hshort : Usual short.template :=
    .conversion (u := "%5d") (by decide) (.append (s := ": ") (by decide) (.conversion (u := "%s") (by decide) .nil))
  have hmessage : r.message = .ok "DE8937040044053 00007%" := by rfl
  have hfailing : failing.message = .error (.numberExpected 'd' "list") := by rfl
  have hmasked : failing.maskedMessage = .error (.numberExpected 'd' "str") := by rfl
  have hsame : short.message = .ok "    7: DE89" := by rfl
  have hvalues : ∀ d ∈ [Datum.whole 7, .text "DE89"], isNumber d = false → maskText d.display = d.display := by
    simp only [List.forall_mem_cons, List.not_mem_nil, false_imp_iff, implies_true, and_true]
    exact ⟨nofun, fun _ => by decide +kernel⟩
  obtain ⟨⟨-, hfilter⟩, -, -, -, hsinks, -⟩ := masked_formatted_alike r [.text "D", .whole 7] rfl (by simp) husual
  obtain ⟨-, -, herror, -⟩ := masked_formatted_alike failing [.text "D", .list []] rfl (by simp) husual
  obtain ⟨-, -, -, -, -, hkept⟩ := masked_formatted_alike short [.whole 7, .text "DE89"] rfl (by simp) hshort
  exact ⟨hmessage, hfilter.trans (by rfl), (hsinks _ _).1.2 ⟨Nat.zero_le _, _, hmessage⟩, hfailing, hmasked,
    herror _ _ hfailing hmasked, hsame, hkept (by decide +kernel) hvalues _ hsame⟩

end PaymentIdentifiers.Log
