import PaymentIdentifiers.Proofs.Sheet.Faults
import Mathlib.Data.List.Forall2

/-!
# Reading line by line

Where nothing is quoted, a record does not go on behind the end of its line. So a text that is read to its end has one
record for each of its lines, and the record of a line depends on this line only. It is empty if there is nothing on the
line.
-/
namespace PaymentIdentifiers.Sheet

/-- The lines of a text without their line feeds. Behind the last line feed stands a line only if it is not empty. -/
def lines : Text → List Text
  | [] => []
  | c :: t =>
    if c = '\n' then [] :: lines t
    else match lines t with
      | [] => [[c]]
      | l :: ls => (c :: l) :: ls

/-- A line without characters, apart from the carriage returns that belong to its end. -/
def isVacant (l : Text) : Bool := l.all (· == '\r')

namespace Cursor

/-- Reads characters of a line. -/
def steps (d : Dialect) (k : Cursor) (l : Text) : Except Fault Cursor := l.foldlM (step d) k

end Cursor

/-- The record of a line of its own. -/
def recordOf (d : Dialect) (l : Text) : Except Fault Record :=
  (Cursor.start.steps d l).map fun k => k.endLine.record

section
variable {l t : Text}

theorem lines_append_newline (hl : '\n' ∉ l) (t : Text) : lines (l ++ '\n' :: t) = l :: lines t := by
  induction l with
  | nil => rw [List.nil_append, lines, if_pos rfl]
  | cons c l ih =>
    obtain ⟨hc, hl⟩ := not_or.1 (mt List.mem_cons.2 hl)
    rw [List.cons_append, lines, if_neg (Ne.symm hc), ih hl]

theorem lines_of_not_mem (hl : '\n' ∉ l) (hne : l ≠ []) : lines l = [l] := by
  induction l with
  | nil => exact absurd rfl hne
  | cons c l ih =>
    obtain ⟨hc, hl⟩ := not_or.1 (mt List.mem_cons.2 hl)
    rw [lines, if_neg (Ne.symm hc)]
    cases l with
    | nil => rfl
    | cons x l => rw [ih hl (List.cons_ne_nil x l)]

/-- A text is built of its lines from the last one on. -/
theorem line_induction {P : Text → Prop} (empty : P []) (last : ∀ l, '\n' ∉ l → l ≠ [] → P l)
    (line : ∀ l t, '\n' ∉ l → P t → P (l ++ '\n' :: t)) (t : Text) : P t := by
  have hbegun (l : Text) (hl : '\n' ∉ l) : P (l ++ t) := by
    induction t generalizing l with
    | nil =>
      rw [List.append_nil]
      by_cases hne : l = []
      · exact hne ▸ empty
      · exact last l hl hne
    | cons c t ih =>
      by_cases hc : c = '\n'
      · exact hc ▸ line l t hl (ih [] List.not_mem_nil)
      · rw [List.append_cons]
        exact ih (l ++ [c]) (by simp [hl, Ne.symm hc])
  exact hbegun [] List.not_mem_nil

end

variable {d : Dialect} {k next : Cursor} {fresh : Bool} {l t : Text} {c : Char} {fault : Fault} {r : Record}

namespace Cursor

theorem steps_cons (d : Dialect) (k : Cursor) (c : Char) (l : Text) :
    k.steps d (c :: l) = (k.step d c).bind fun next => next.steps d l :=
  List.foldlM_cons

/-- A step that succeeds goes on with the rest of the line. -/
theorem steps_cons_of_ok (h : k.step d c = .ok next) (l : Text) : k.steps d (c :: l) = next.steps d l := by
  rw [steps_cons, h]
  rfl

theorem steps_cons_of_error (h : k.step d c = .error fault) (l : Text) : k.steps d (c :: l) = .error fault := by
  rw [steps_cons, h]
  rfl

theorem exists_step_of_steps (h : k.steps d (c :: l) = .ok next) :
    ∃ between, k.step d c = .ok between ∧ between.steps d l = .ok next := by
  cases hstep : k.step d c with
  | error e =>
    rw [steps_cons_of_error hstep] at h
    cases h
  | ok between => exact ⟨between, rfl, by rwa [steps_cons_of_ok hstep] at h⟩

end Cursor

open Cursor

/-- Characters within a line are read one by one, -/
theorem readFrom_append_of_ok (hl : '\n' ∉ l) (h : k.steps d l = .ok next) (t : Text) :
    readFrom d k fresh (l ++ t) = readFrom d next (fresh && l.isEmpty) t := by
  induction l generalizing k fresh with
  | nil =>
    obtain rfl := Except.ok.inj h
    simp
  | cons c l ih =>
    obtain ⟨hc, hl⟩ := not_or.1 (mt List.mem_cons.2 hl)
    obtain ⟨between, hstep, hrest⟩ := exists_step_of_steps h
    rw [List.cons_append, readFrom, hstep]
    dsimp only
    rw [if_neg (Ne.symm hc), ih hl hrest]
    simp

/-- up to the first one that cannot be read. -/
theorem readFrom_append_of_error (hl : '\n' ∉ l) (h : k.steps d l = .error fault) (t : Text) :
    readFrom d k fresh (l ++ t) = ⟨[], some fault⟩ := by
  induction l generalizing k fresh with
  | nil => cases h
  | cons c l ih =>
    obtain ⟨hc, hl⟩ := not_or.1 (mt List.mem_cons.2 hl)
    rw [List.cons_append, readFrom]
    cases hstep : k.step d c with
    | error e =>
      rw [steps_cons_of_error hstep] at h
      obtain rfl := Except.error.inj h
      rfl
    | ok between =>
      rw [steps_cons_of_ok hstep] at h
      dsimp only
      rw [if_neg (Ne.symm hc)]
      exact ih hl h

/-- Outside of quotes, the characters at the end of a line do to the cells what the end of the text does. -/
theorem Cursor.Unquoted.step_newline (hk : k.Unquoted) (hc : isNewline c = true) :
    k.step d c = .ok { k.endLine with state := .lineEnd } := by
  obtain ⟨state, cells, cell, size⟩ := k
  cases state with
  | inQuotes => exact absurd rfl hk.1
  | quoteInQuotes => exact absurd rfl hk.2
  | _ => simp [step, stepFieldStart, hc, Cursor.endLine, save]

theorem Cursor.Unquoted.readFrom_newline (hk : k.Unquoted) (t : Text) :
    readFrom d k fresh ('\n' :: t) = (read d t).cons k.endLine.record := by
  rw [readFrom, hk.step_newline rfl]
  rfl

theorem Cursor.Unquoted.readFrom_nil (hk : k.Unquoted) : readFrom d k false [] = ⟨[k.endLine.record], none⟩ := by
  rw [readFrom]
  simp [hk.endLine]

namespace Cursor

/-- By induction on the line: without a quote no cell is quoted. -/
theorem Unquoted.steps (hk : k.Unquoted) (hquote : d.quote ∉ l) (h : k.steps d l = .ok next) : next.Unquoted := by
  induction l generalizing k with
  | nil => exact Except.ok.inj h ▸ hk
  | cons c l ih =>
    obtain ⟨hc, hquote⟩ := not_or.1 (mt List.mem_cons.2 hquote)
    obtain ⟨between, hstep, hrest⟩ := exists_step_of_steps h
    exact ih ((moves_of_step hstep).unquoted hk (Ne.symm hc)) hquote hrest

/-- The record has a first cell, if only an open one. -/
def Begun (k : Cursor) : Prop := k.cells ≠ [] ∨ k.state = .fieldStart ∨ k.state = .inField

theorem not_begun_start : ¬ start.Begun := by
  simp [Begun, start]

theorem Unquoted.record_endLine_ne_nil_iff (hk : k.Unquoted) : k.endLine.record ≠ [] ↔ k.Begun := by
  obtain ⟨state, cells, cell, size⟩ := k
  cases state with
  | inQuotes => exact absurd rfl hk.1
  | quoteInQuotes => exact absurd rfl hk.2
  | _ => simp [Begun, Cursor.endLine, save, record]

/-- A record begins with the first character that does not end the line. -/
theorem Unquoted.begun_iff_of_step (hk : k.Unquoted) (hc : c ≠ d.quote) (h : k.step d c = .ok next) :
    next.Begun ↔ k.Begun ∨ isNewline c = false := by
  cases hnewline : isNewline c with
  | true =>
    obtain rfl := Except.ok.inj ((hk.step_newline hnewline).symm.trans h)
    rw [← hk.record_endLine_ne_nil_iff]
    simp [Begun, record]
  | false =>
    refine iff_of_true ?_ (.inr rfl)
    cases moves_of_step h with
    | endsLine hend => simp [hend] at hnewline
    | endsCell => exact .inl (List.cons_ne_nil _ _)
    | quotes hquote => exact absurd hquote hc
    | skips => exact .inr (.inl rfl)
    | adds => exact .inr (.inr rfl)
    | addsQuoted hquoted => exact absurd hk hquoted

theorem Unquoted.begun_iff_of_steps (hk : k.Unquoted) (hl : '\n' ∉ l) (hquote : d.quote ∉ l)
    (h : k.steps d l = .ok next) : next.Begun ↔ k.Begun ∨ isVacant l = false := by
  induction l generalizing k with
  | nil =>
    obtain rfl := Except.ok.inj h
    simp [isVacant]
  | cons c l ih =>
    obtain ⟨hline, hl⟩ := not_or.1 (mt List.mem_cons.2 hl)
    obtain ⟨hc, hquote⟩ := not_or.1 (mt List.mem_cons.2 hquote)
    obtain ⟨between, hstep, hrest⟩ := exists_step_of_steps h
    have hbetween := (moves_of_step hstep).unquoted hk (Ne.symm hc)
    have hnewline : isNewline c = (c == '\r') := by simp [isNewline, Ne.symm hline]
    rw [ih hbetween hl hquote hrest, hk.begun_iff_of_step (Ne.symm hc) hstep, hnewline, or_assoc, isVacant, isVacant,
      List.all_cons, Bool.and_eq_false_iff]

end Cursor

/-- The record of a line is empty if and only if there is nothing on the line. -/
theorem recordOf_eq_nil_iff (hl : '\n' ∉ l) (hquote : d.quote ∉ l) (h : recordOf d l = .ok r) :
    r = [] ↔ isVacant l = true := by
  cases hsteps : start.steps d l with
  | error e => simp [recordOf, hsteps, Except.map] at h
  | ok k =>
    obtain rfl : k.endLine.record = r := by simpa [recordOf, hsteps, Except.map] using h
    have hbegun := unquoted_start.begun_iff_of_steps hl hquote hsteps
    rw [or_iff_right not_begun_start, ← (unquoted_start.steps hquote hsteps).record_endLine_ne_nil_iff] at hbegun
    rw [← not_iff_not, Bool.not_eq_true]
    exact hbegun

/-- A line at the beginning of a text is read on its own, -/
theorem read_newline (hl : '\n' ∉ l) (hquote : d.quote ∉ l) (t : Text) : read d (l ++ '\n' :: t) =
    match recordOf d l with
    | .ok r => (read d t).cons r
    | .error fault => ⟨[], some fault⟩ := by
  rw [read, recordOf]
  cases hsteps : start.steps d l with
  | error e => exact readFrom_append_of_error hl hsteps _
  | ok k => rw [readFrom_append_of_ok hl hsteps, (unquoted_start.steps hquote hsteps).readFrom_newline]; rfl

/-- and so is the last line. -/
theorem read_last (hl : '\n' ∉ l) (hne : l ≠ []) (hquote : d.quote ∉ l) : read d l =
    match recordOf d l with
    | .ok r => ⟨[r], none⟩
    | .error fault => ⟨[], some fault⟩ := by
  have hempty : l.isEmpty = false := by simpa using hne
  conv_lhs => rw [read, ← List.append_nil l]
  rw [recordOf]
  cases hsteps : start.steps d l with
  | error e => exact readFrom_append_of_error hl hsteps []
  | ok k =>
    rw [readFrom_append_of_ok hl hsteps, hempty, Bool.and_false, (unquoted_start.steps hquote hsteps).readFrom_nil]
    rfl

/-- A record stands on a line. -/
structure StandsOn (d : Dialect) (l : Text) (r : Record) : Prop where
  read : recordOf d l = .ok r
  empty_iff : r = [] ↔ isVacant l = true

/-- By induction on the lines: each of them has its record. -/
theorem standsOn_lines (hquote : d.quote ∉ t) (h : (read d t).fault = none) :
    List.Forall₂ (StandsOn d) (lines t) (read d t).records := by
  induction t using line_induction with
  | empty => exact .nil
  | last l hl hne =>
    rw [read_last hl hne hquote] at h ⊢
    rw [lines_of_not_mem hl hne]
    cases hrecord : recordOf d l with
    | error e => simp [hrecord] at h
    | ok r => exact .cons ⟨hrecord, recordOf_eq_nil_iff hl hquote hrecord⟩ .nil
  | line l t hl ih =>
    rw [List.mem_append, List.mem_cons, not_or, not_or] at hquote
    rw [read_newline hl hquote.1] at h ⊢
    rw [lines_append_newline hl]
    cases hrecord : recordOf d l with
    | error e => simp [hrecord] at h
    | ok r =>
      rw [hrecord] at h
      exact .cons ⟨hrecord, recordOf_eq_nil_iff hl hquote.1 hrecord⟩ (ih hquote.2.2 h)

end PaymentIdentifiers.Sheet
