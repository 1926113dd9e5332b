import PaymentIdentifiers.Sheet.Reader

/-!
# What a reader stumbles over

Reading stops early for two reasons only: a carriage return stands before a character that ends no line, or a cell is
longer than any may be. Both can be seen in the text. Where nothing is quoted, no such carriage return is overlooked.
-/
namespace PaymentIdentifiers.Sheet

/-- A carriage return stands directly before a character that ends no line. -/
def StrayReturn (t : Text) : Prop :=
  ∃ front c back, t = front ++ '\r' :: c :: back ∧ Cursor.isNewline c = false

/-- The text goes on with a character that ends no line. -/
def GoesOn (t : Text) : Prop := ∃ c back, t = c :: back ∧ Cursor.isNewline c = false

theorem goesOn_cons {c : Char} {t : Text} : GoesOn (c :: t) ↔ Cursor.isNewline c = false :=
  ⟨fun ⟨_, _, h, hx⟩ => (List.cons.inj h).1 ▸ hx, fun h => ⟨c, t, rfl, h⟩⟩

theorem strayReturn_cons {c : Char} {t : Text} : StrayReturn (c :: t) ↔ (c = '\r' ∧ GoesOn t) ∨ StrayReturn t := by
  constructor
  · rintro ⟨front, x, back, h, hx⟩
    cases front with
    | nil =>
      obtain ⟨rfl, rfl⟩ := List.cons.inj h
      exact .inl ⟨rfl, x, back, rfl, hx⟩
    | cons y front =>
      obtain ⟨rfl, rfl⟩ := List.cons.inj h
      exact .inr ⟨front, x, back, rfl, hx⟩
  · rintro (⟨rfl, x, back, rfl, hx⟩ | ⟨front, x, back, rfl, hx⟩)
    · exact ⟨[], x, back, rfl, hx⟩
    · exact ⟨c :: front, x, back, rfl, hx⟩

theorem StrayReturn.mem {t : Text} (h : StrayReturn t) : '\r' ∈ t := by
  obtain ⟨front, c, back, rfl, -⟩ := h
  simp

namespace Cursor

variable {d : Dialect} {k next : Cursor} {c : Char} {fault : Fault}

theorem isNewline_iff : isNewline c = true ↔ c = '\n' ∨ c = '\r' := by
  simp [isNewline]

/-- No quote has been opened in the current cell, or what was opened has been closed for good. -/
def Unquoted (k : Cursor) : Prop := k.state ≠ .inQuotes ∧ k.state ≠ .quoteInQuotes

/-- What a step that succeeds may have done. Within quotes the ends of lines mean nothing, and so the character is known
not to be one outside of them only. -/
inductive Moves (d : Dialect) (k : Cursor) (c : Char) : Cursor → Prop
  | endsLine {next : Cursor} (newline : isNewline c = true) (state : next.state = .lineEnd)
      (size : next.size ≤ k.size) : Moves d k c next
  | endsCell (inLine : k.Unquoted → isNewline c = false) : Moves d k c (k.save .fieldStart)
  | quotes {state : State} (quote : c = d.quote) (inLine : k.Unquoted → isNewline c = false)
      (stays : state ≠ .lineEnd) : Moves d k c { k with state := state }
  | skips (inLine : isNewline c = false) : Moves d k c { k with state := .fieldStart }
  | adds (inLine : isNewline c = false) : Moves d k c ⟨.inField, k.cells, c :: k.cell, k.size + 1⟩
  | addsQuoted (quoted : ¬ k.Unquoted) : Moves d k c ⟨.inQuotes, k.cells, c :: k.cell, k.size + 1⟩

theorem add_eq_ok_iff {state : State} :
    k.add c state = .ok next ↔ k.size < maxField ∧ ⟨state, k.cells, c :: k.cell, k.size + 1⟩ = next := by
  rw [add]
  split
  · rename_i hsize
    exact iff_of_false nofun fun h => absurd h.1 (Nat.not_lt.2 hsize)
  · rename_i hsize
    rw [Except.ok.injEq, and_iff_right (Nat.not_le.1 hsize)]

theorem of_add_eq_error {state : State} (h : k.add c state = .error fault) :
    maxField ≤ k.size ∧ fault = .fieldTooLong := by
  rw [add] at h
  split at h
  · exact ⟨‹_›, (Except.error.inj h).symm⟩
  · cases h

theorem moves_of_stepFieldStart (h : stepFieldStart d k c = .ok next) : Moves d k c next := by
  revert h
  fun_cases stepFieldStart d k c with
  | case1 hnewline =>
    rintro ⟨⟩
    exact .endsLine hnewline rfl (Nat.zero_le _)
  | case2 hline hquote =>
    rintro ⟨⟩
    exact .quotes (by simpa using hquote) (fun _ => by simpa using hline) nofun
  | case3 hline =>
    rintro ⟨⟩
    exact .skips (by simpa using hline)
  | case4 hline =>
    rintro ⟨⟩
    exact .endsCell fun _ => by simpa using hline
  | case5 hline =>
    intro h
    obtain ⟨-, rfl⟩ := add_eq_ok_iff.1 h
    exact .adds (by simpa using hline)

theorem moves_of_step (h : k.step d c = .ok next) : Moves d k c next := by
  cases hk : k.state with
  | recordStart =>
    simp only [step, hk] at h
    split at h
    · rename_i hnewline
      obtain rfl := Except.ok.inj h
      exact .endsLine hnewline rfl (Nat.le_refl _)
    · exact moves_of_stepFieldStart h
  | fieldStart =>
    simp only [step, hk] at h
    exact moves_of_stepFieldStart h
  | inField =>
    simp only [step, hk] at h
    split at h
    · rename_i hnewline
      obtain rfl := Except.ok.inj h
      exact .endsLine hnewline rfl (Nat.zero_le _)
    · rename_i hline
      split at h
      · obtain rfl := Except.ok.inj h
        exact .endsCell fun _ => by simpa using hline
      · obtain ⟨-, rfl⟩ := add_eq_ok_iff.1 h
        exact .adds (by simpa using hline)
  | inQuotes =>
    simp only [step, hk] at h
    split at h
    · rename_i hquote
      obtain rfl := Except.ok.inj h
      exact .quotes (by simpa using hquote) (fun hopen => absurd hk hopen.1) (by split <;> nofun)
    · obtain ⟨-, rfl⟩ := add_eq_ok_iff.1 h
      exact .addsQuoted fun hopen => hopen.1 hk
  | quoteInQuotes =>
    simp only [step, hk] at h
    split at h
    · obtain ⟨-, rfl⟩ := add_eq_ok_iff.1 h
      exact .addsQuoted fun hopen => hopen.2 hk
    · split at h
      · obtain rfl := Except.ok.inj h
        exact .endsCell fun hopen => absurd hk hopen.2
      · split at h
        · rename_i hnewline
          obtain rfl := Except.ok.inj h
          exact .endsLine hnewline rfl (Nat.zero_le _)
        · rename_i hline
          obtain ⟨-, rfl⟩ := add_eq_ok_iff.1 h
          exact .adds (by simpa using hline)
  | lineEnd =>
    simp only [step, hk] at h
    split at h
    · rename_i hnewline
      obtain rfl := Except.ok.inj h
      exact .endsLine hnewline hk (Nat.le_refl _)
    · cases h

/-- Why a step fails. -/
theorem of_step_eq_error (h : k.step d c = .error fault) :
    (k.state = .lineEnd ∧ isNewline c = false ∧ fault = .strayNewline) ∨ (maxField ≤ k.size ∧ fault = .fieldTooLong) := by
  have hfield : stepFieldStart d k c = .error fault → maxField ≤ k.size ∧ fault = .fieldTooLong := by
    intro hfield
    simp only [stepFieldStart] at hfield
    repeat' split at hfield
    all_goals first | cases hfield | exact of_add_eq_error hfield
  cases hk : k.state with
  | lineEnd =>
    simp only [step, hk] at h
    split at h
    · cases h
    · rename_i hline
      exact .inl ⟨rfl, by simpa using hline, (Except.error.inj h).symm⟩
  | _ =>
    refine .inr ?_
    simp only [step, hk] at h
    repeat' split at h
    all_goals first | cases h | exact of_add_eq_error h | exact hfield h

theorem Moves.size_le (h : Moves d k c next) : next.size ≤ k.size + 1 := by
  cases h with
  | endsLine _ _ hsize => omega
  | endsCell => exact Nat.zero_le _
  | quotes => exact Nat.le_succ _
  | skips => exact Nat.le_succ _
  | adds => exact Nat.le_refl _
  | addsQuoted => exact Nat.le_refl _

theorem Moves.isNewline (h : Moves d k c next) (hstate : next.state = .lineEnd) : isNewline c = true := by
  cases h with
  | endsLine hnewline => exact hnewline
  | endsCell => cases hstate
  | quotes _ _ hstays => exact absurd hstate hstays
  | skips => cases hstate
  | adds => cases hstate
  | addsQuoted => cases hstate

theorem Moves.state_lineEnd (h : Moves d k c next) (hk : k.Unquoted) (hc : Cursor.isNewline c = true) :
    next.state = .lineEnd := by
  cases h with
  | endsLine _ hstate => exact hstate
  | endsCell hline => simp [hline hk] at hc
  | quotes _ hline => simp [hline hk] at hc
  | skips hline => simp [hline] at hc
  | adds hline => simp [hline] at hc
  | addsQuoted hquoted => exact absurd hk hquoted

theorem Moves.unquoted (h : Moves d k c next) (hk : k.Unquoted) (hc : c ≠ d.quote) : next.Unquoted := by
  cases h with
  | endsLine _ hstate => simp [Unquoted, hstate]
  | endsCell => exact ⟨nofun, nofun⟩
  | quotes hquote => exact absurd hquote hc
  | skips => exact ⟨nofun, nofun⟩
  | adds => exact ⟨nofun, nofun⟩
  | addsQuoted hquoted => exact absurd hk hquoted

theorem size_endLine_le (k : Cursor) : k.endLine.size ≤ k.size := by
  unfold endLine
  split <;> simp [save]

theorem state_endLine_ne (k : Cursor) : k.endLine.state ≠ .lineEnd := by
  unfold endLine
  split
  case h_3 h => simp [h]
  all_goals nofun

theorem Unquoted.endLine {k : Cursor} (h : k.Unquoted) : (k.endLine.state == .inQuotes) = false := by
  unfold Cursor.endLine
  split
  case h_3 hstate => exact absurd hstate h.1
  all_goals rfl

end Cursor

variable {d : Dialect} {k : Cursor} {fresh : Bool} {t : Text} {fault : Fault}

theorem unquoted_start : Cursor.start.Unquoted := ⟨nofun, nofun⟩

/-- By induction on the text: the fault lies in what is read next, behind a carriage return that was read last, or in a
cell that holds what has been read of it and what comes next. -/
theorem cause_of_readFrom (h : (readFrom d k fresh t).fault = some fault) :
    (fault = .strayNewline ∧ (StrayReturn t ∨ k.state = .lineEnd ∧ GoesOn t)) ∨
      (fault = .fieldTooLong ∧ maxField < k.size + t.length) := by
  induction t generalizing k fresh with
  | nil =>
    simp only [readFrom] at h
    repeat' split at h
    all_goals cases h
  | cons c t ih =>
    have hlater {k' : Cursor} {fresh' : Bool} (hsize : k'.size ≤ k.size + 1) (hstate : k'.state = .lineEnd → c = '\r')
        (hfault : (readFrom d k' fresh' t).fault = some fault) :
        (fault = .strayNewline ∧ (StrayReturn (c :: t) ∨ k.state = .lineEnd ∧ GoesOn (c :: t))) ∨
          (fault = .fieldTooLong ∧ maxField < k.size + (c :: t).length) := by
      rcases ih hfault with ⟨rfl, hstray | ⟨hend, hon⟩⟩ | ⟨rfl, hlong⟩
      · exact .inl ⟨rfl, .inl (strayReturn_cons.2 (.inr hstray))⟩
      · exact .inl ⟨rfl, .inl (strayReturn_cons.2 (.inl ⟨hstate hend, hon⟩))⟩
      · exact .inr ⟨rfl, by rw [List.length_cons]; omega⟩
    rw [readFrom] at h
    split at h
    · rename_i e hstep
      obtain rfl := Option.some.inj h
      rcases Cursor.of_step_eq_error hstep with ⟨hend, hline, rfl⟩ | ⟨hlong, rfl⟩
      · exact .inl ⟨rfl, .inr ⟨hend, goesOn_cons.2 hline⟩⟩
      · exact .inr ⟨rfl, by rw [List.length_cons]; omega⟩
    · rename_i next hstep
      have hmoves := Cursor.moves_of_step hstep
      split at h
      · dsimp only at h
        split at h
        · exact hlater (Nat.le_trans next.size_endLine_le hmoves.size_le)
            (fun hend => absurd hend next.state_endLine_ne) h
        · exact hlater (Nat.zero_le _) (fun hend => absurd hend (by decide)) h
      · rename_i hc
        exact hlater hmoves.size_le (fun hend => (Cursor.isNewline_iff.1 (hmoves.isNewline hend)).resolve_left hc) h

/-- By induction on the text: where nothing is quoted, the end of a line is seen, and so is what follows it. -/
theorem readFrom_fault_ne_none (hk : k.Unquoted) (hquote : d.quote ∉ t)
    (h : StrayReturn t ∨ k.state = .lineEnd ∧ GoesOn t) : (readFrom d k fresh t).fault ≠ none := by
  induction t generalizing k fresh with
  | nil => rcases h with ⟨front, c, back, h, -⟩ | ⟨-, c, back, h, -⟩ <;> simp at h
  | cons c t ih =>
    obtain ⟨hc, hquote⟩ := not_or.1 (mt List.mem_cons.2 hquote)
    rw [readFrom]
    split
    · exact nofun
    · rename_i next hstep
      have hmoves := Cursor.moves_of_step hstep
      have hnext := hmoves.unquoted hk (Ne.symm hc)
      have hstray : StrayReturn t ∨ c = '\r' ∧ GoesOn t := by
        rcases h with h | ⟨hend, hon⟩
        · exact (strayReturn_cons.1 h).symm
        · simp [Cursor.step, hend, goesOn_cons.1 hon] at hstep
      split
      · dsimp only
        rw [if_neg (by simp [hnext.endLine])]
        rename_i hnewline
        refine ih unquoted_start hquote (.inl (hstray.resolve_right fun hreturn => ?_))
        exact absurd (hnewline.symm.trans hreturn.1) (by decide)
      · refine ih hnext hquote (hstray.imp_right fun ⟨hreturn, hon⟩ => ⟨?_, hon⟩)
        exact hmoves.state_lineEnd hk (Cursor.isNewline_iff.2 (.inr hreturn))

theorem strayReturn_of_read (h : (read d t).fault = some .strayNewline) : StrayReturn t := by
  rcases cause_of_readFrom h with ⟨-, hstray | ⟨hend, -⟩⟩ | ⟨hfault, -⟩
  · exact hstray
  · exact absurd hend (by decide)
  · cases hfault

theorem length_of_read (h : (read d t).fault = some .fieldTooLong) : maxField < t.length := by
  rcases cause_of_readFrom h with ⟨hfault, -⟩ | ⟨-, hlong⟩
  · cases hfault
  · simpa [Cursor.start] using hlong

theorem read_fault_ne_none (hquote : d.quote ∉ t) (h : StrayReturn t) : (read d t).fault ≠ none :=
  readFrom_fault_ne_none unquoted_start hquote (.inl h)

end PaymentIdentifiers.Sheet
