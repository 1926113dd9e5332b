import PaymentIdentifiers.Proofs.Sheet.Decoding
import PaymentIdentifiers.Proofs.Sheet.Detection
import PaymentIdentifiers.Proofs.Sheet.Lines

/-!
# Reading a text byte by byte

In UTF-8 an ASCII character is its own byte, and all bytes of other characters are at least 128. So a text with each of
its bytes taken for a character has the same ASCII characters. A reader whose delimiter and quote are ASCII finds the
same records in it, and in each cell the bytes of the cell.
-/
namespace PaymentIdentifiers

namespace Text

/-- The ASCII characters of a text, in their order. -/
def asciiPart (t : Text) : Text := t.filter fun c => c.toNat < 128

/-- A text of ASCII characters only. -/
def IsAscii (t : Text) : Prop := ∀ c ∈ t, c.toNat < 128

instance (t : Text) : Decidable t.IsAscii :=
  decidable_of_iff (t.all fun c => decide (c.toNat < 128)) (by simp [IsAscii])

variable {s t : Text} {c : Char}

@[simp] theorem asciiPart_append (s t : Text) : asciiPart (s ++ t) = asciiPart s ++ asciiPart t := by
  simp [asciiPart]

theorem asciiPart_eq_nil (h : ∀ c ∈ t, 128 ≤ c.toNat) : asciiPart t = [] :=
  List.filter_eq_nil_iff.2 fun c hc => by simpa using h c hc

end Text

namespace Sheet

open Text

variable {s t : Text} {c : Char}

/-- The bytes of a character in UTF-8, each taken for a character. -/
def byteText (c : Char) : Text := (String.utf8EncodeChar c).map fun b => Char.ofNat b.toNat

/-- A text in UTF-8 with each byte taken for a character. -/
def bytewise (t : Text) : Text := t.flatMap byteText

theorem latin_utf8Encode (t : Text) : latin t.utf8Encode = bytewise t := by
  rw [latin, data_utf8Encode, List.map_flatMap]
  rfl

theorem utf8EncodeChar_of_lt (h : c.toNat < 128) : String.utf8EncodeChar c = [UInt8.ofNat c.toNat] :=
  if_pos (Nat.le_of_lt_succ h)

/-- The first byte of a character that is not ASCII is at least 192, and the others are at least 128. -/
theorem le_of_mem_utf8EncodeChar (h : 128 ≤ c.toNat) {b : UInt8} (hb : b ∈ String.utf8EncodeChar c) :
    128 ≤ b.toNat := by
  have hbyte {n : Nat} (hle : 128 ≤ n) (hlt : n < 256) : 128 ≤ (UInt8.ofNat n).toNat := by
    rwa [UInt8.toNat_ofNat_of_lt' hlt]
  change 128 ≤ c.val.toNat at h
  unfold String.utf8EncodeChar at hb
  generalize c.val.toNat = v at h hb
  simp only at hb
  rw [if_neg (by omega)] at hb
  split at hb
  · simp only [List.mem_cons, List.not_mem_nil, or_false] at hb
    rcases hb with rfl | rfl <;> exact hbyte (by omega) (by omega)
  · split at hb
    · simp only [List.mem_cons, List.not_mem_nil, or_false] at hb
      rcases hb with rfl | rfl | rfl <;> exact hbyte (by omega) (by omega)
    · simp only [List.mem_cons, List.not_mem_nil, or_false] at hb
      rcases hb with rfl | rfl | rfl | rfl <;> exact hbyte (by omega) (by omega)

theorem byteText_of_lt (h : c.toNat < 128) : byteText c = [c] := by
  have hbyte : (UInt8.ofNat c.toNat).toNat = c.toNat := UInt8.toNat_ofNat_of_lt' (Nat.lt_trans h (by decide))
  rw [byteText, utf8EncodeChar_of_lt h, List.map_singleton, hbyte, Char.ofNat_toNat]

theorem byteText_ne_nil (c : Char) : byteText c ≠ [] := by
  have hpos := c.utf8Size_pos
  refine List.ne_nil_of_length_pos ?_
  rwa [byteText, List.length_map, String.length_utf8EncodeChar]

theorem le_of_mem_byteText (h : 128 ≤ c.toNat) {x : Char} (hx : x ∈ byteText c) : 128 ≤ x.toNat := by
  obtain ⟨b, hb, rfl⟩ := List.mem_map.1 hx
  rw [toNat_ofNat_byte]
  exact le_of_mem_utf8EncodeChar h hb

theorem bytewise_nil : bytewise [] = [] := rfl

theorem bytewise_cons (c : Char) (t : Text) : bytewise (c :: t) = byteText c ++ bytewise t := List.flatMap_cons

theorem bytewise_append (s t : Text) : bytewise (s ++ t) = bytewise s ++ bytewise t := List.flatMap_append

theorem bytewise_singleton (c : Char) : bytewise [c] = byteText c := List.flatMap_singleton _ _

theorem bytewise_of_isAscii (h : IsAscii t) : bytewise t = t := by
  induction t with
  | nil => rfl
  | cons c t ih =>
    obtain ⟨hc, ht⟩ := List.forall_mem_cons.1 h
    rw [bytewise_cons, byteText_of_lt hc, ih ht, List.singleton_append]

theorem asciiPart_bytewise (t : Text) : asciiPart (bytewise t) = asciiPart t := by
  induction t with
  | nil => rfl
  | cons c t ih =>
    have hhead : asciiPart (byteText c) = asciiPart [c] := by
      by_cases hc : c.toNat < 128
      · rw [byteText_of_lt hc]
      · rw [asciiPart_eq_nil fun x => le_of_mem_byteText (Nat.not_lt.1 hc), asciiPart_eq_nil (by simpa using hc)]
    rw [bytewise_cons, asciiPart_append, hhead, ih, ← asciiPart_append, List.singleton_append]

namespace Dialect

/-- The characters with a meaning are ASCII. -/
structure IsAscii (d : Dialect) : Prop where
  delimiter : d.delimiter.toNat < 128
  quote : d.quote.toNat < 128

theorem IsKnown.isAscii {d : Dialect} (h : d.IsKnown) : d.IsAscii where
  delimiter := (forall_mem_delimiters (P := fun c => c.toNat < 128)).2 (by decide) d.delimiter h.delimiter
  quote := by
    have hquote := h.quote
    simp only [isQuote, Bool.or_eq_true, beq_iff_eq] at hquote
    rcases hquote with hquote | hquote <;> rw [hquote] <;> decide

end Dialect

/-- The state behind a character without a meaning of its own. -/
def State.within : State → State
  | inQuotes => inQuotes
  | _ => inField

namespace Cursor

/-- The same position in a text that is read byte by byte. The current cell may be longer there. -/
structure Mirrors (k m : Cursor) : Prop where
  state : m.state = k.state
  cells : m.cells = k.cells.map bytewise
  cell : m.cell.reverse = bytewise k.cell.reverse
  size : k.size ≤ m.size

/-- A step succeeds if it does so in the text that is read byte by byte. -/
def Follows (x y : Except Fault Cursor) : Prop := ∀ m, y = .ok m → ∃ k, x = .ok k ∧ k.Mirrors m

variable {d : Dialect} {k m next : Cursor} {x y x' y' : Except Fault Cursor} {state : State}

theorem mirrors_start : start.Mirrors start := ⟨rfl, rfl, rfl, Nat.le_refl 0⟩

namespace Mirrors

theorem withState (h : k.Mirrors m) (state : State) : Mirrors { k with state := state } { m with state := state } :=
  ⟨rfl, h.cells, h.cell, h.size⟩

theorem save (h : k.Mirrors m) (state : State) : (k.save state).Mirrors (m.save state) :=
  ⟨rfl, by rw [Cursor.save, Cursor.save, List.map_cons, h.cell, h.cells], rfl, Nat.le_refl 0⟩

theorem endLine (h : k.Mirrors m) : k.endLine.Mirrors m.endLine := by
  unfold Cursor.endLine
  rw [h.state]
  split
  · exact h.withState _
  · exact h.withState _
  · exact h
  · exact h.save _
  · exact h.save _
  · exact h.save _

theorem record (h : k.Mirrors m) : m.record = k.record.map bytewise := by
  rw [Cursor.record, Cursor.record, h.cells, List.map_reverse]

end Mirrors

namespace Follows

theorem ok (h : k.Mirrors m) : Follows (.ok k) (.ok m) := fun _ hm => ⟨k, rfl, Except.ok.inj hm ▸ h⟩

theorem error (fault : Fault) : Follows x (.error fault) := nofun

theorem ite {p : Prop} [Decidable p] (h : Follows x y) (h' : Follows x' y') :
    Follows (if p then x else x') (if p then y else y') := by
  split
  · exact h
  · exact h'

end Follows

namespace Mirrors

theorem add (h : k.Mirrors m) (hc : c.toNat < 128) (state : State) : Follows (k.add c state) (m.add c state) := by
  intro n hn
  obtain ⟨hsize, rfl⟩ := add_eq_ok_iff.1 hn
  have hle := h.size
  refine ⟨_, add_eq_ok_iff.2 ⟨by omega, rfl⟩, rfl, h.cells, ?_, Nat.succ_le_succ hle⟩
  rw [List.reverse_cons, List.reverse_cons, bytewise_append, bytewise_singleton, byteText_of_lt hc, h.cell]

theorem stepFieldStart (h : k.Mirrors m) (hc : c.toNat < 128) :
    Follows (Cursor.stepFieldStart d k c) (Cursor.stepFieldStart d m c) :=
  .ite (.ok (h.save _)) <| .ite (.ok (h.withState _)) <| .ite (.ok (h.withState _)) <|
    .ite (.ok (h.save _)) (h.add hc _)

/-- An ASCII character is read alike. The cases are the states. -/
theorem step (h : k.Mirrors m) (hc : c.toNat < 128) : Follows (k.step d c) (m.step d c) := by
  unfold Cursor.step
  rw [h.state]
  cases k.state with
  | recordStart => exact .ite (.ok (h.withState _)) (h.stepFieldStart hc)
  | fieldStart => exact h.stepFieldStart hc
  | inField => exact .ite (.ok (h.save _)) <| .ite (.ok (h.save _)) (h.add hc _)
  | inQuotes => exact .ite (.ok (h.withState _)) (h.add hc _)
  | quoteInQuotes =>
    exact .ite (h.add hc _) <| .ite (.ok (h.save _)) <| .ite (.ok (h.save _)) (h.add hc _)
  | lineEnd => exact .ite (.ok h) (.error _)

end Mirrors

theorem isNewline_eq_false (hc : 128 ≤ c.toNat) : isNewline c = false := by
  cases hnewline : isNewline c with
  | false => rfl
  | true => rcases isNewline_iff.1 hnewline with rfl | rfl <;> exact absurd hc (by decide)

/-- A character that is not ASCII is added to the cell, if there can be one, -/
theorem step_foreign (hd : d.IsAscii) (hc : 128 ≤ c.toNat) (hk : k.state ≠ .lineEnd) :
    k.step d c = k.add c k.state.within := by
  have hne {a : Char} (ha : a.toNat < 128) : (c == a) = false := by
    rw [beq_eq_false_iff_ne]
    rintro rfl
    omega
  have hspace : (c == ' ') = false := hne (by decide)
  cases hstate : k.state with
  | lineEnd => exact absurd hstate hk
  | _ => simp [Cursor.step, Cursor.stepFieldStart, hstate, isNewline_eq_false hc, hspace, hne hd.quote,
      hne hd.delimiter, State.within]

/-- and so are several of them. -/
theorem steps_foreign (hd : d.IsAscii) {u : Text} (hu : ∀ x ∈ u, 128 ≤ x.toNat) (h : k.steps d u = .ok next)
    (hk : k.state.within = k.state) : next = ⟨k.state, k.cells, u.reverse ++ k.cell, k.size + u.length⟩ := by
  induction u generalizing k with
  | nil => exact (Except.ok.inj h).symm.trans (by simp)
  | cons x u ih =>
    obtain ⟨hx, hu⟩ := List.forall_mem_cons.1 hu
    obtain ⟨between, hstep, hrest⟩ := exists_step_of_steps h
    have hline : k.state ≠ .lineEnd := fun hstate => by simp [hstate, State.within] at hk
    rw [step_foreign hd hx hline, hk] at hstep
    obtain ⟨-, rfl⟩ := add_eq_ok_iff.1 hstep
    refine (ih hu hrest hk).trans ?_
    simp [Nat.add_assoc, Nat.add_comm 1]

theorem within_within (state : State) : state.within.within = state.within := by
  cases state <;> rfl

/-- Its bytes fit into a longer cell, so the character fits into the cell. -/
theorem Mirrors.steps_foreign (h : k.Mirrors m) (hd : d.IsAscii) (hc : 128 ≤ c.toNat) :
    Follows (k.step d c) (m.steps d (byteText c)) := by
  intro n hn
  have hbytes : ∀ x ∈ byteText c, 128 ≤ x.toNat := fun x => le_of_mem_byteText hc
  obtain ⟨x, u, hx⟩ := List.exists_cons_of_ne_nil (byteText_ne_nil c)
  rw [hx] at hn hbytes
  obtain ⟨hfirst, hu⟩ := List.forall_mem_cons.1 hbytes
  obtain ⟨between, hstep, hrest⟩ := exists_step_of_steps hn
  have hline : m.state ≠ .lineEnd := by
    intro hstate
    simp [Cursor.step, hstate, isNewline_eq_false hfirst] at hstep
  rw [step_foreign hd hfirst hline] at hstep
  obtain ⟨hsize, rfl⟩ := add_eq_ok_iff.1 hstep
  obtain rfl := Cursor.steps_foreign hd hu hrest (within_within m.state)
  have hle := h.size
  rw [step_foreign hd hc (h.state ▸ hline)]
  refine ⟨_, add_eq_ok_iff.2 ⟨by omega, rfl⟩, by rw [h.state], h.cells, ?_, by dsimp only; omega⟩
  simp [bytewise_append, bytewise_singleton, hx, h.cell]

/-- A character is read like its bytes. -/
theorem Mirrors.steps (h : k.Mirrors m) (hd : d.IsAscii) (c : Char) :
    Follows (k.step d c) (m.steps d (byteText c)) := by
  by_cases hc : c.toNat < 128
  · intro n hn
    rw [byteText_of_lt hc] at hn
    obtain ⟨between, hstep, hrest⟩ := exists_step_of_steps hn
    obtain rfl := Except.ok.inj hrest
    exact h.step hc _ hstep
  · exact h.steps_foreign hd (Nat.not_lt.1 hc)

end Cursor

variable {d : Dialect} {k m : Cursor} {fresh : Bool}

theorem newline_not_mem_byteText (hc : c ≠ '\n') : '\n' ∉ byteText c := by
  by_cases hascii : c.toNat < 128
  · rw [byteText_of_lt hascii, List.mem_singleton]
    exact Ne.symm hc
  · intro hmem
    exact absurd (le_of_mem_byteText (Nat.not_lt.1 hascii) hmem) (by decide)

/-- By induction on the text: it is read like its bytes if these are read to the end. -/
theorem readFrom_bytewise (hk : k.Mirrors m) (hd : d.IsAscii) (h : (readFrom d m fresh (bytewise t)).fault = none) :
    ∃ rs, readFrom d k fresh t = ⟨rs, none⟩ ∧
      readFrom d m fresh (bytewise t) = ⟨rs.map fun r => r.map bytewise, none⟩ := by
  induction t generalizing k m fresh with
  | nil =>
    cases fresh with
    | true =>
      simp only [bytewise_nil, readFrom, if_true, hk.state]
      split
      · exact ⟨_, rfl, by rw [(hk.save _).record]; rfl⟩
      · exact ⟨_, rfl, rfl⟩
    | false =>
      have hended := hk.endLine
      simp only [bytewise_nil, readFrom, Bool.false_eq_true, if_false, hended.state]
      split
      · exact ⟨_, rfl, by rw [(hended.save _).record]; rfl⟩
      · exact ⟨_, rfl, by rw [hended.record]; rfl⟩
  | cons c t ih =>
    rw [bytewise_cons] at h ⊢
    by_cases hc : c = '\n'
    · subst hc
      rw [byteText_of_lt (by decide), List.singleton_append, readFrom] at h ⊢
      rw [readFrom]
      cases hstep : m.step d '\n' with
      | error e => simp [hstep] at h
      | ok n =>
        obtain ⟨next, hnext, hmirrors⟩ := hk.step (by decide) n hstep
        have hended := hmirrors.endLine
        simp only [hstep, hnext, if_true, hended.state] at h ⊢
        split at h
        · rename_i hquoted
          rw [if_pos hquoted, if_pos hquoted]
          exact ih hended h
        · rename_i hunquoted
          rw [if_neg hunquoted, if_neg hunquoted]
          obtain ⟨rs, hread, hbytes⟩ := ih Cursor.mirrors_start h
          exact ⟨next.endLine.record :: rs, by rw [hread]; rfl, by rw [hbytes, hended.record]; rfl⟩
    · cases hsteps : m.steps d (byteText c) with
      | error e => simp [readFrom_append_of_error (newline_not_mem_byteText hc) hsteps] at h
      | ok n =>
        obtain ⟨next, hstep, hnext⟩ := hk.steps hd c n hsteps
        have hfresh : (fresh && (byteText c).isEmpty) = false := by simp [byteText_ne_nil]
        rw [readFrom_append_of_ok (newline_not_mem_byteText hc) hsteps, hfresh] at h ⊢
        rw [readFrom, hstep]
        dsimp only
        rw [if_neg hc]
        exact ih hnext h

/-- A table that is read to its end byte by byte has the same records, with the bytes of their cells. -/
theorem read_bytewise (hd : d.IsAscii) (h : (read d (bytewise t)).fault = none) :
    ∃ rs, read d t = ⟨rs, none⟩ ∧ read d (bytewise t) = ⟨rs.map fun r => r.map bytewise, none⟩ :=
  readFrom_bytewise Cursor.mirrors_start hd h

end Sheet
end PaymentIdentifiers
