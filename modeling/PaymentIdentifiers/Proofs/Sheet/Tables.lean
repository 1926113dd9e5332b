import PaymentIdentifiers.Proofs.Sheet.Dialects
import PaymentIdentifiers.Proofs.Text.Joined
import PaymentIdentifiers.Sheet.Dialect
import PaymentIdentifiers.Sheet.Reader

/-!
# Tables as they are written

A table has a header and rows of the same width, at least two cells wide. Its cells are short, printable and free of
delimiters and quotes. It is written line by line with a delimiter between the cells, so that every line shows the
delimiter equally often, and no other one.
-/
namespace PaymentIdentifiers.Sheet

/-- A short cell of printable ASCII characters without a delimiter or a quote. -/
structure IsCell (cell : Text) : Prop where
  short : cell.length ≤ 1000
  printable : ∀ c ∈ cell, 32 ≤ c.toNat ∧ c.toNat ≤ 126
  noDelimiter : ∀ c ∈ cell, c ∉ delimiters
  noQuote : NoQuote cell

instance (cell : Text) : Decidable (IsCell cell) :=
  decidable_of_iff (cell.length ≤ 1000 ∧ NoQuote cell ∧
      cell.all fun c => decide ((32 ≤ c.toNat ∧ c.toNat ≤ 126) ∧ c ∉ delimiters)) <| by
    simp only [List.all_eq_true, decide_eq_true_eq]
    exact ⟨fun ⟨short, noQuote, h⟩ => ⟨short, fun c hc => (h c hc).1, fun c hc => (h c hc).2, noQuote⟩,
      fun h => ⟨h.short, h.noQuote, fun c hc => ⟨h.printable c hc, h.noDelimiter c hc⟩⟩⟩

/-- A record of at least two cells. -/
structure IsRow (width : Nat) (r : Record) : Prop where
  two_le : 2 ≤ width
  length_eq : r.length = width
  isCell : ∀ cell ∈ r, IsCell cell

instance (width : Nat) (r : Record) : Decidable (IsRow width r) :=
  decidable_of_iff (2 ≤ width ∧ r.length = width ∧ ∀ cell ∈ r, IsCell cell)
    ⟨fun ⟨two_le, length_eq, isCell⟩ => ⟨two_le, length_eq, isCell⟩, fun h => ⟨h.two_le, h.length_eq, h.isCell⟩⟩

theorem IsRow.ne_nil {width : Nat} {r : Record} (h : IsRow width r) : r ≠ [] := by
  have htwo := h.two_le
  exact List.ne_nil_of_length_pos (by rw [h.length_eq]; omega)

/-- A header and rows of the same width. -/
structure Table where
  header : Record
  rows : List Record
  isRow : ∀ r ∈ header :: rows, IsRow header.length r

theorem Table.isRow_header (t : Table) : IsRow t.header.length t.header := t.isRow t.header List.mem_cons_self

theorem Table.isRow_of_mem (t : Table) {r : Record} (h : r ∈ t.rows) : IsRow t.header.length r :=
  t.isRow r (List.mem_cons_of_mem t.header h)

/-- A record with a delimiter between its cells. -/
def line (d : Char) (r : Record) : Text := Text.joined [d] r

/-- Records line by line. -/
def written (d : Char) (rs : List Record) : Text := rs.flatMap fun r => line d r ++ ['\n']

/-- The text of a table with a delimiter. -/
def Table.text (d : Char) (t : Table) : Text := written d (t.header :: t.rows)

theorem written_cons (d : Char) (r : Record) (rs : List Record) :
    written d (r :: rs) = line d r ++ '\n' :: written d rs := by
  simp [written]

theorem length_written_cons (d : Char) (r : Record) (rs : List Record) :
    (written d (r :: rs)).length = (line d r).length + 1 + (written d rs).length := by
  rw [written_cons, List.length_append, List.length_cons]
  omega

theorem written_append (d : Char) (rs ss : List Record) : written d (rs ++ ss) = written d rs ++ written d ss :=
  List.flatMap_append

theorem line_singleton (d : Char) (cell : Text) : line d [cell] = cell := by
  rw [line, Text.joined, List.intercalate_singleton]

theorem line_append (d : Char) {r s : Record} (hr : r ≠ []) (hs : s ≠ []) :
    line d (r ++ s) = line d r ++ d :: line d s :=
  Text.joined_append [d] hr hs

section
variable {d e : Char} {width : Nat} {r : Record}

theorem mem_line {c : Char} (h : c ∈ line d r) : c = d ∨ ∃ cell ∈ r, c ∈ cell :=
  (Text.mem_joined h).imp List.mem_singleton.1 List.mem_flatten.1

theorem not_mem_cell (hd : d ∈ delimiters) (hr : IsRow width r) : ∀ cell ∈ r, d ∉ cell :=
  fun cell hcell hmem => (hr.isCell cell hcell).noDelimiter d hmem hd

theorem count_line (hd : d ∈ delimiters) (hr : IsRow width r) : (line d r).count d = width - 1 := by
  rw [line, Text.count_joined (not_mem_cell hd hr), hr.length_eq, List.count_singleton_self, Nat.one_mul]

theorem count_line_of_ne (he : e ∈ delimiters) (hne : e ≠ d) (hr : IsRow width r) : (line d r).count e = 0 := by
  rw [line, Text.count_joined (not_mem_cell he hr), List.count_eq_zero.2 (by simpa using hne), Nat.zero_mul]

theorem mem_line_self (hd : d ∈ delimiters) (hr : IsRow width r) : d ∈ line d r := by
  have htwo := hr.two_le
  exact List.count_pos_iff.1 (by rw [count_line hd hr]; omega)

theorem line_ne_nil (hd : d ∈ delimiters) (hr : IsRow width r) : line d r ≠ [] :=
  List.ne_nil_of_mem (mem_line_self hd hr)

/-- A property of the delimiters and of the characters of cells holds for all characters of a line. -/
theorem forall_mem_line {P : Char → Prop} (hd : d ∈ delimiters) (hr : IsRow width r) (hdelimiter : ∀ c ∈ delimiters, P c)
    (hcell : ∀ cell, IsCell cell → ∀ c ∈ cell, P c) : ∀ c ∈ line d r, P c := by
  intro c hc
  rcases mem_line hc with rfl | ⟨cell, hmem, hc⟩
  · exact hdelimiter c hd
  · exact hcell cell (hr.isCell cell hmem) c hc

theorem noQuote_line (hd : d ∈ delimiters) (hr : IsRow width r) : NoQuote (line d r) :=
  forall_mem_line hd hr (forall_mem_delimiters.2 (by decide)) fun _ hcell => hcell.noQuote

theorem IsCell.isNewline_eq_false {cell : Text} (h : IsCell cell) : ∀ c ∈ cell, Cursor.isNewline c = false := by
  intro c hc
  have hprintable := (h.printable c hc).1
  cases hnewline : Cursor.isNewline c with
  | false => rfl
  | true =>
    simp only [Cursor.isNewline, Bool.or_eq_true, beq_iff_eq] at hnewline
    rcases hnewline with rfl | rfl <;> exact absurd hprintable (by decide)

theorem isNewline_of_mem_line (hd : d ∈ delimiters) (hr : IsRow width r) : ∀ c ∈ line d r, Cursor.isNewline c = false :=
  forall_mem_line hd hr (forall_mem_delimiters.2 (by decide)) fun _ hcell => hcell.isNewline_eq_false

theorem newline_not_mem_line (hd : d ∈ delimiters) (hr : IsRow width r) : '\n' ∉ line d r :=
  fun hmem => absurd (isNewline_of_mem_line hd hr _ hmem) (by decide)

theorem toNat_lt_of_mem_line (hd : d ∈ delimiters) (hr : IsRow width r) : ∀ c ∈ line d r, c.toNat < 128 :=
  forall_mem_line hd hr (forall_mem_delimiters.2 (by decide)) fun cell hcell c hc =>
    Nat.lt_of_le_of_lt (hcell.printable c hc).2 (by decide)

theorem noQuote_written {rs : List Record} (hd : d ∈ delimiters) (hrs : ∀ r ∈ rs, IsRow width r) :
    NoQuote (written d rs) := by
  intro c hc
  obtain ⟨r, hr, hc⟩ := List.mem_flatMap.1 hc
  rcases List.mem_append.1 hc with hc | hc
  · exact noQuote_line hd (hrs r hr) c hc
  · obtain rfl := List.mem_singleton.1 hc
    rfl

/-- The lines of written records, and what stands behind them if it is within a line. -/
theorem fullLines_written_append {rs : List Record} (hd : d ∈ delimiters) (hrs : ∀ r ∈ rs, IsRow width r) {p : Text}
    (hp : '\n' ∉ p) : fullLines (written d rs ++ p) = rs.map (line d) ++ [p].filter fun l => !l.isEmpty := by
  induction rs with
  | nil => simp [written, fullLines, Text.cut_of_not_mem hp]
  | cons r rs ih =>
    obtain ⟨hr, hrs⟩ := List.forall_mem_cons.1 hrs
    rw [written_cons, List.append_assoc, List.cons_append, fullLines,
      Text.cut_append_cons (newline_not_mem_line hd hr), List.filter_cons_of_pos, ← fullLines, ih hrs, List.map_cons,
      List.cons_append]
    simpa using line_ne_nil hd hr

theorem fullLines_written {rs : List Record} (hd : d ∈ delimiters) (hrs : ∀ r ∈ rs, IsRow width r) :
    fullLines (written d rs) = rs.map (line d) := by
  have hlines := fullLines_written_append hd hrs (p := []) List.not_mem_nil
  rwa [List.append_nil, List.filter_cons_of_neg (by decide), List.filter_nil, List.append_nil] at hlines

end

end PaymentIdentifiers.Sheet
