import PaymentIdentifiers.Proofs.Sheet.Tables

/-!
# Reading written records back

A reader whose delimiter is the one of a table gives the records back as they were written, except that it drops leading
spaces of cells if its dialect says so.
-/
namespace PaymentIdentifiers.Sheet

namespace Dialect

/-- The delimiter is none of the characters that have another meaning. -/
structure Separates (d : Dialect) : Prop where
  inLine : Cursor.isNewline d.delimiter = false
  ne_quote : d.delimiter ≠ d.quote
  ne_space : d.delimiter ≠ ' '

/-- A cell as it is given back. -/
def clipped (d : Dialect) (cell : Text) : Text := if d.skipSpace then cell.dropWhile (· == ' ') else cell

theorem clipped_nil (d : Dialect) : d.clipped [] = [] := by
  simp [clipped]

theorem clipped_space {d : Dialect} (h : d.skipSpace = true) (t : Text) : d.clipped (' ' :: t) = d.clipped t := by
  simp [clipped, h]

theorem clipped_of_ne {d : Dialect} {c : Char} (h : ¬ (c = ' ' ∧ d.skipSpace = true)) (t : Text) :
    d.clipped (c :: t) = c :: t := by
  rw [clipped]
  split
  · rename_i hskip
    exact List.dropWhile_cons_of_neg fun hc => h ⟨by simpa using hc, hskip⟩
  · rfl

/-- A text that is read as a cell, or as a part of one. -/
def Plain (d : Dialect) (t : Text) : Prop :=
  ∀ c ∈ t, Cursor.isNewline c = false ∧ c ≠ d.quote ∧ c ≠ d.delimiter

theorem plain_cons {d : Dialect} {c : Char} {t : Text} : d.Plain (c :: t) ↔ d.Plain [c] ∧ d.Plain t := by
  simp [Plain]

theorem Plain.ne_newline {d : Dialect} {c : Char} (h : d.Plain [c]) : c ≠ '\n' := by
  rintro rfl
  exact absurd (h '\n' List.mem_cons_self).1 (by decide)

end Dialect

namespace Cursor

/-- The position behind a part of a cell. -/
def within (cells : List Text) (part : Text) : Cursor :=
  ⟨if part.isEmpty then .fieldStart else .inField, cells, part.reverse, part.length⟩

end Cursor

variable {d : Dialect} {cells : List Text} {p q rest : Text} {c : Char}

open Cursor

theorem readFrom_cons (d : Dialect) (k : Cursor) (a b : Bool) (c : Char) (t : Text) :
    readFrom d k a (c :: t) = readFrom d k b (c :: t) := by
  rw [readFrom, readFrom]

/-- A plain character behind another one is added to the cell. -/
theorem step_within (hq : q ≠ []) (hsize : q.length < maxField) (hc : d.Plain [c]) :
    (within cells q).step d c = .ok (within cells (q ++ [c])) := by
  obtain ⟨hline, -, hdelimiter⟩ := hc c (List.mem_singleton_self c)
  have hempty : q.isEmpty = false := by simpa using hq
  simp [within, hempty, step, hline, hdelimiter, add, Nat.not_le.2 hsize]

/-- A plain character at the beginning of a cell is added to it as well, unless it is a space that is dropped. -/
theorem step_within_nil (hc : d.Plain [c]) : (within cells []).step d c = .ok (within cells (d.clipped [c])) := by
  obtain ⟨hline, hquote, hdelimiter⟩ := hc c (List.mem_singleton_self c)
  by_cases hskip : c = ' ' ∧ d.skipSpace = true
  · obtain ⟨rfl, hskip⟩ := hskip
    simp [within, step, stepFieldStart, Dialect.clipped, hline, hquote, hskip]
  · have hspace : (c == ' ' && d.skipSpace) = false := by simpa using hskip
    simp [within, step, stepFieldStart, Dialect.clipped_of_ne hskip, hline, hquote, hdelimiter, hspace, add, maxField]

theorem readFrom_append (hq : q ≠ []) (hsize : (q ++ p).length ≤ maxField) (hp : d.Plain p) (a b : Bool) :
    readFrom d (within cells q) a (p ++ c :: rest) = readFrom d (within cells (q ++ p)) b (c :: rest) := by
  induction p generalizing q a with
  | nil =>
    rw [List.append_nil, List.nil_append]
    exact readFrom_cons d _ a b c rest
  | cons x p ih =>
    obtain ⟨hx, hrest⟩ := Dialect.plain_cons.1 hp
    rw [List.append_cons] at hsize
    rw [List.cons_append, readFrom, step_within hq (by simp at hsize; omega) hx]
    dsimp only
    rw [if_neg hx.ne_newline, ih (List.append_ne_nil_of_right_ne_nil q (List.cons_ne_nil x [])) hsize hrest,
      ← List.append_cons]

/-- A cell is read up to the character behind it. By induction over the spaces that are dropped. -/
theorem readFrom_cell (hsize : p.length ≤ maxField) (hp : d.Plain p) (a b : Bool) :
    readFrom d (within cells []) a (p ++ c :: rest) = readFrom d (within cells (d.clipped p)) b (c :: rest) := by
  induction p generalizing a with
  | nil =>
    rw [Dialect.clipped_nil]
    exact readFrom_cons d _ a b c rest
  | cons x p ih =>
    obtain ⟨hx, hrest⟩ := Dialect.plain_cons.1 hp
    rw [List.cons_append, readFrom, step_within_nil hx]
    dsimp only
    rw [if_neg hx.ne_newline]
    by_cases hskip : x = ' ' ∧ d.skipSpace = true
    · obtain ⟨rfl, hskip⟩ := hskip
      rw [Dialect.clipped_space hskip, Dialect.clipped_space hskip, Dialect.clipped_nil]
      exact ih (Nat.le_of_succ_le hsize) hrest false
    · rw [Dialect.clipped_of_ne hskip, Dialect.clipped_of_ne hskip]
      exact readFrom_append (List.cons_ne_nil x []) hsize hrest false b

/-- A full cell takes no plain character. -/
theorem step_within_full (hq : q.length = maxField) (hc : d.Plain [c]) :
    (within cells q).step d c = .error .fieldTooLong := by
  obtain ⟨hline, -, hdelimiter⟩ := hc c (List.mem_singleton_self c)
  have hne : q ≠ [] := List.ne_nil_of_length_pos (by rw [hq]; decide)
  simp [within, hne, step, hline, hdelimiter, add, hq]

/-- A delimiter ends the cell, -/
theorem readFrom_delimiter (hd : d.Separates) (a : Bool) : readFrom d (within cells q) a (d.delimiter :: rest) =
    readFrom d (within (q :: cells) []) false rest := by
  have hstep : (within cells q).step d d.delimiter = .ok (within (q :: cells) []) := by
    by_cases hq : q = []
    · simp [within, hq, step, stepFieldStart, save, hd.inLine, hd.ne_quote, hd.ne_space]
    · simp [within, hq, step, save, hd.inLine]
  have hnewline : d.delimiter ≠ '\n' := by
    intro heq
    exact absurd (heq ▸ hd.inLine) (by decide)
  rw [readFrom, hstep]
  dsimp only
  rw [if_neg hnewline]

/-- and a line feed ends the record as well. -/
theorem readFrom_newline (a : Bool) : readFrom d (within cells q) a ('\n' :: rest) =
    (read d rest).cons (q :: cells).reverse := by
  have hstep : (within cells q).step d '\n' = .ok ⟨.lineEnd, q :: cells, [], 0⟩ := by
    by_cases hq : q = []
    · simp [within, hq, step, stepFieldStart, save, isNewline]
    · simp [within, hq, step, save, isNewline]
  rw [readFrom, hstep]
  rfl

/-- By induction on the cells: a line gives a record. -/
theorem readFrom_line {r : Record} (hd : d.Separates) (hne : r ≠ [])
    (hr : ∀ cell ∈ r, cell.length ≤ maxField ∧ d.Plain cell) (a : Bool) :
    readFrom d (within cells []) a (line d.delimiter r ++ '\n' :: rest) =
      (read d rest).cons (cells.reverse ++ r.map d.clipped) := by
  induction r generalizing cells a with
  | nil => exact absurd rfl hne
  | cons p r ih =>
    obtain ⟨⟨hsize, hp⟩, hr⟩ := List.forall_mem_cons.1 hr
    cases r with
    | nil =>
      rw [line_singleton, readFrom_cell hsize hp a false, readFrom_newline]
      simp
    | cons q r =>
      rw [line, Text.joined_cons_cons, List.append_assoc, List.append_assoc, List.singleton_append,
        readFrom_cell hsize hp a false, readFrom_delimiter hd, ← line, ih (List.cons_ne_nil q r) hr]
      simp

/-- A line that is not empty is read from the beginning of a record like from the beginning of a cell. -/
theorem read_cons (hc : isNewline c = false) : read d (c :: rest) = readFrom d (within [] []) true (c :: rest) := by
  have hstep : Cursor.start.step d c = (within [] []).step d c := by
    simp [start, within, step, hc, stepFieldStart, save, add]
  rw [read, readFrom, readFrom, hstep]

theorem read_line {r : Record} (hd : d.Separates) (hne : line d.delimiter r ≠ [])
    (hr : ∀ cell ∈ r, cell.length ≤ maxField ∧ d.Plain cell) :
    read d (line d.delimiter r ++ '\n' :: rest) = (read d rest).cons (r.map d.clipped) := by
  have hrow : r ≠ [] := by
    rintro rfl
    exact hne rfl
  obtain ⟨c, t, hline⟩ := List.exists_cons_of_ne_nil hne
  have hc : isNewline c = false := by
    rcases mem_line (hline ▸ List.mem_cons_self) with rfl | ⟨cell, hcell, hmem⟩
    · exact hd.inLine
    · exact ((hr cell hcell).2 c hmem).1
  have hread : readFrom d (within [] []) true (line d.delimiter r ++ '\n' :: rest) =
      (read d rest).cons (r.map d.clipped) :=
    readFrom_line hd hrow hr true
  rw [hline, List.cons_append] at hread ⊢
  rw [read_cons hc, hread]

/-- A text that is too long for a cell is not read, if none of its spaces are dropped. -/
theorem read_of_long (hskip : d.skipSpace = false) (hp : d.Plain p) (hlong : maxField < p.length) :
    read d (p ++ rest) = ⟨[], some .fieldTooLong⟩ := by
  obtain ⟨c, back, hback⟩ := List.exists_cons_of_ne_nil (l := p.drop maxField) (by simpa using hlong)
  have hfront : d.clipped (p.take maxField) = p.take maxField := if_neg (by simp [hskip])
  have hsize : (p.take maxField).length = maxField := List.length_take_of_le (Nat.le_of_lt hlong)
  have hdrop : d.Plain (c :: back) := fun x hx => hp x (List.mem_of_mem_drop (hback ▸ hx))
  have hc : d.Plain [c] := (Dialect.plain_cons.1 hdrop).1
  have hread : readFrom d (within [] []) true (p ++ rest) = ⟨[], some .fieldTooLong⟩ := by
    rw [← List.take_append_drop maxField p, hback, List.append_assoc, List.cons_append,
      readFrom_cell (Nat.le_of_eq hsize) (fun x hx => hp x (List.mem_of_mem_take hx)) true false, hfront, readFrom,
      step_within_full hsize hc]
  obtain ⟨first, t, rfl⟩ := List.exists_cons_of_ne_nil (List.ne_nil_of_length_pos (Nat.zero_lt_of_lt hlong))
  rwa [List.cons_append, read_cons (hp first List.mem_cons_self).1]

/-- Written records are read to the end and given back. -/
theorem read_written {rs : List Record} (hd : d.Separates)
    (hrs : ∀ r ∈ rs, line d.delimiter r ≠ [] ∧ ∀ cell ∈ r, cell.length ≤ maxField ∧ d.Plain cell) :
    read d (written d.delimiter rs) = ⟨rs.map fun r => r.map d.clipped, none⟩ := by
  induction rs with
  | nil => rfl
  | cons r rs ih =>
    obtain ⟨⟨hne, hr⟩, hrs⟩ := List.forall_mem_cons.1 hrs
    rw [written_cons, read_line hd hne hr, ih hrs]
    rfl

/-- A delimiter of tables in a dialect with double quotes. -/
theorem separates_of_mem (hquote : d.quote = '"') (hd : d.delimiter ∈ delimiters) : d.Separates := by
  have hall : ∀ c ∈ delimiters, Cursor.isNewline c = false ∧ c ≠ '"' ∧ c ≠ ' ' :=
    forall_mem_delimiters.2 (by decide)
  obtain ⟨hline, hne, hspace⟩ := hall _ hd
  exact ⟨hline, hquote ▸ hne, hspace⟩

theorem IsCell.plain {cell : Text} (h : IsCell cell) (hquote : d.quote = '"') (hd : d.delimiter ∈ delimiters) :
    cell.length ≤ maxField ∧ d.Plain cell := by
  refine ⟨Nat.le_trans h.short (by decide), fun c hc => ⟨h.isNewline_eq_false c hc, ?_, ?_⟩⟩
  · rintro rfl
    exact absurd (hquote ▸ h.noQuote _ hc) (by decide)
  · rintro rfl
    exact h.noDelimiter _ hc hd

/-- The rows of a table are given back in a dialect with its delimiter. -/
theorem read_rows {width : Nat} {rs : List Record} (hquote : d.quote = '"') (hd : d.delimiter ∈ delimiters)
    (hrs : ∀ r ∈ rs, IsRow width r) : read d (written d.delimiter rs) = ⟨rs.map fun r => r.map d.clipped, none⟩ :=
  read_written (separates_of_mem hquote hd) fun r hr =>
    ⟨line_ne_nil hd (hrs r hr), fun cell hcell => ((hrs r hr).isCell cell hcell).plain hquote hd⟩

section
variable {width : Nat} {r : Record} {rs : List Record} {e : Char}

theorem plain_line (he : e ∈ delimiters) (hne : e ≠ ',') (hr : IsRow width r) : Dialect.standard.Plain (line e r) := by
  have hcomma : ',' ∉ line e r := List.count_eq_zero.1 (count_line_of_ne (by decide) (Ne.symm hne) hr)
  intro c hc
  refine ⟨isNewline_of_mem_line he hr c hc, ?_, ?_⟩
  · rintro rfl
    exact absurd (noQuote_line he hr _ hc) (by decide)
  · rintro rfl
    exact hcomma hc

/-- In the standard dialect, a line with another delimiter is a single cell, -/
theorem read_standard_line (he : e ∈ delimiters) (hne : e ≠ ',') (hr : IsRow width r)
    (hshort : (line e r).length ≤ maxField) :
    read .standard (line e r ++ '\n' :: rest) = (read .standard rest).cons [line e r] := by
  have hread : read .standard (line ',' [line e r] ++ '\n' :: rest) =
      (read .standard rest).cons ([line e r].map Dialect.standard.clipped) :=
    read_line (separates_of_mem rfl (by decide)) (by rw [line_singleton]; exact line_ne_nil he hr)
      (List.forall_mem_singleton.2 ⟨hshort, plain_line he hne hr⟩)
  rwa [line_singleton] at hread

/-- and so are all lines of a table. -/
theorem read_standard_written (he : e ∈ delimiters) (hne : e ≠ ',') (hrs : ∀ r ∈ rs, IsRow width r)
    (hshort : ∀ r ∈ rs, (line e r).length ≤ maxField) :
    read .standard (written e rs) = ⟨rs.map fun r => [line e r], none⟩ := by
  induction rs with
  | nil => rfl
  | cons r rs ih =>
    obtain ⟨hr, hrs⟩ := List.forall_mem_cons.1 hrs
    obtain ⟨hfirst, hshort⟩ := List.forall_mem_cons.1 hshort
    rw [written_cons, read_standard_line he hne hr hfirst, ih hrs hshort]
    rfl

/-- The first line that is too long for a cell ends the reading. -/
theorem fault_read_standard_written (he : e ∈ delimiters) (hne : e ≠ ',') (hrs : ∀ r ∈ rs, IsRow width r)
    (hlong : ∃ r ∈ rs, maxField < (line e r).length) :
    (read .standard (written e rs)).fault = some .fieldTooLong := by
  induction rs with
  | nil => simp at hlong
  | cons r rs ih =>
    obtain ⟨hr, hrs⟩ := List.forall_mem_cons.1 hrs
    rw [written_cons]
    by_cases hfirst : (line e r).length ≤ maxField
    · rw [read_standard_line he hne hr hfirst]
      refine ih hrs ?_
      obtain ⟨s, hs, hlong⟩ := hlong
      rcases List.mem_cons.1 hs with rfl | hs
      · omega
      · exact ⟨s, hs, hlong⟩
    · rw [read_of_long rfl (plain_line he hne hr) (Nat.not_le.1 hfirst)]

end

end PaymentIdentifiers.Sheet
