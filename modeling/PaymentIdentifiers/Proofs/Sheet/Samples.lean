import PaymentIdentifiers.Proofs.Sheet.Guesses
import PaymentIdentifiers.Proofs.Sheet.Tables

/-!
# Samples of tables

A sample is the beginning of a table and may end within a line. The delimiter is guessed from it unless the line that is
cut is one of the second to the tenth and its last delimiter is cut off. In this case nothing is guessed.
-/
namespace PaymentIdentifiers.Sheet

/-- The sample of a table ends within one of the second to the tenth line, before the last delimiter of the line. -/
def Halved (d : Char) (rs : List Record) : Prop :=
  ∃ front r back, rs = front ++ r :: back ∧ front ≠ [] ∧ front.length ≤ 9 ∧ (written d front).length < sampleSize ∧
    sampleSize ≤ (written d front).length + (line d r.dropLast).length

variable {d e : Char} {width n : Nat} {r : Record} {rs : List Record}

/-- The last delimiter of a row and the cell behind it. -/
theorem exists_line_eq_dropLast (d : Char) (hr : IsRow width r) :
    ∃ cell, IsCell cell ∧ line d r = line d r.dropLast ++ d :: cell := by
  have htwo := hr.two_le
  have hlength := hr.length_eq
  have hne : r ≠ [] := List.ne_nil_of_length_pos (by omega)
  have hfront : r.dropLast ≠ [] := List.ne_nil_of_length_pos (by rw [List.length_dropLast]; omega)
  refine ⟨r.getLast hne, hr.isCell _ (List.getLast_mem hne), ?_⟩
  have happend := line_append d hfront (List.cons_ne_nil (r.getLast hne) [])
  rwa [List.dropLast_concat_getLast hne, line_singleton] at happend

/-- No cell is so long that a sample would end in the first one. -/
theorem count_take_line_pos (d : Char) (hr : IsRow width r) (h : 1000 < n) : 0 < ((line d r).take n).count d := by
  have htwo := hr.two_le
  have hlength := hr.length_eq
  obtain _ | ⟨cell, _ | ⟨next, rest⟩⟩ := r
  · simp only [List.length_nil] at hlength
    omega
  · simp only [List.length_cons, List.length_nil] at hlength
    omega
  · have hshort := (hr.isCell cell List.mem_cons_self).short
    obtain ⟨k, hk⟩ : ∃ k, n - cell.length = k + 1 := ⟨n - cell.length - 1, by omega⟩
    rw [line, Text.joined_cons_cons, List.take_append, hk, List.singleton_append, List.take_succ_cons]
    exact List.count_pos_iff.2 (List.mem_append_right _ List.mem_cons_self)

section
variable (hd : d ∈ delimiters) (hr : IsRow width r)
include hd hr

theorem count_line_dropLast : (line d r.dropLast).count d = width - 2 := by
  rw [line, Text.count_joined fun cell hcell => not_mem_cell hd hr cell ((List.dropLast_sublist r).mem hcell),
    List.length_dropLast, hr.length_eq, List.count_singleton_self]
  omega

/-- A line that is cut behind its last delimiter still shows it as often as a whole one. -/
theorem count_take_line_of_lt (h : (line d r.dropLast).length < n) : ((line d r).take n).count d = width - 1 := by
  obtain ⟨cell, hcell, hline⟩ := exists_line_eq_dropLast d hr
  have hnone : (cell.take (n - (line d r.dropLast).length - 1)).count d = 0 :=
    List.count_eq_zero.2 fun hmem => hcell.noDelimiter d (List.mem_of_mem_take hmem) hd
  obtain ⟨k, hk⟩ : ∃ k, n - (line d r.dropLast).length = k + 1 := ⟨n - (line d r.dropLast).length - 1, by omega⟩
  have htwo := hr.two_le
  rw [hk, Nat.add_sub_cancel] at hnone
  rw [hline, List.take_append, List.take_of_length_le (Nat.le_of_lt h), hk, List.take_succ_cons, List.count_append,
    count_line_dropLast hd hr, List.count_cons_self, hnone]
  omega

/-- A line that is cut before its last delimiter shows it less often. -/
theorem count_take_line_of_le (h : n ≤ (line d r.dropLast).length) : ((line d r).take n).count d < width - 1 := by
  obtain ⟨cell, -, hline⟩ := exists_line_eq_dropLast d hr
  have htwo := hr.two_le
  have hle := (List.take_sublist n (line d r.dropLast)).count_le d
  rw [count_line_dropLast hd hr] at hle
  rw [hline, List.take_append_of_le_length h]
  omega

theorem shows_line : Shows d (width - 1) (line d r) where
  count_eq := count_line hd hr
  others _ he hne := count_line_of_ne he hne hr

end

/-- What is left of a line that is cut shows no other delimiter. -/
theorem shows_take_line {m : Nat} (hr : IsRow width r) (h : ((line d r).take n).count d = m) :
    Shows d m ((line d r).take n) where
  count_eq := h
  others e he hne := by
    have hle := (List.take_sublist n (line d r)).count_le e
    rw [count_line_of_ne he hne hr] at hle
    exact Nat.le_zero.1 hle

theorem shows_lines (hd : d ∈ delimiters) (hrs : ∀ r ∈ rs, IsRow width r) :
    ∀ l ∈ rs.map (line d), Shows d (width - 1) l := by
  intro l hl
  obtain ⟨r, hr, rfl⟩ := List.mem_map.1 hl
  exact shows_line hd (hrs r hr)

theorem agree_lines (hd : d ∈ delimiters) (hne : rs ≠ []) (hrs : ∀ r ∈ rs, IsRow width r) :
    Agree d (rs.map (line d)) where
  ne_nil := by simpa using hne
  shows := by
    obtain ⟨r, hr⟩ := List.exists_mem_of_ne_nil rs hne
    have htwo := (hrs r hr).two_le
    exact ⟨width - 1, by omega, shows_lines hd hrs⟩

/-- A text is cut behind its end, or in a line or just behind it. -/
theorem exists_split (d : Char) (rs : List Record) (n : Nat) :
    (written d rs).length ≤ n ∨ ∃ front r back, rs = front ++ r :: back ∧ (written d front).length ≤ n ∧
      n ≤ (written d front).length + (line d r).length := by
  induction rs generalizing n with
  | nil => exact .inl (Nat.zero_le _)
  | cons r rs ih =>
    by_cases hn : n ≤ (line d r).length
    · exact .inr ⟨[], r, rs, rfl, Nat.zero_le _, by simpa [written] using hn⟩
    · rcases ih (n - (line d r).length - 1) with hle | ⟨front, s, back, rfl, hfront, hs⟩
      · rw [length_written_cons]
        exact .inl (by omega)
      · refine .inr ⟨r :: front, s, back, rfl, ?_, ?_⟩ <;> rw [length_written_cons] <;> omega

theorem take_written {front back : List Record} (hfront : (written d front).length ≤ n)
    (hn : n ≤ (written d front).length + (line d r).length) :
    (written d (front ++ r :: back)).take n = written d front ++ (line d r).take (n - (written d front).length) := by
  rw [written_append, written_cons, List.take_append, List.take_of_length_le hfront,
    List.take_append_of_le_length (by omega)]

/-- The lines of a sample that ends in a row or just behind it. -/
theorem fullLines_take_written {front back : List Record} (hd : d ∈ delimiters)
    (hrs : ∀ s ∈ front ++ r :: back, IsRow width s) (hfront : (written d front).length ≤ n)
    (hn : n ≤ (written d front).length + (line d r).length) :
    fullLines ((written d (front ++ r :: back)).take n) = front.map (line d) ++
      [(line d r).take (n - (written d front).length)].filter fun l => !l.isEmpty := by
  obtain ⟨hrows, hr⟩ := List.forall_mem_append.1 hrs
  have hline := newline_not_mem_line hd (hr r List.mem_cons_self)
  rw [take_written hfront hn, fullLines_written_append hd hrows fun hmem => hline (List.mem_of_mem_take hmem)]

/-- Unless a row is halved, the delimiter is guessed from the sample. -/
theorem guess?_of_not_halved (hd : d ∈ delimiters) (hne : rs ≠ []) (hrs : ∀ r ∈ rs, IsRow width r)
    (h : ¬ Halved d rs) : guess? (fullLines ((written d rs).take sampleSize)) = some d := by
  rcases exists_split d rs sampleSize with hle | ⟨front, r, back, rfl, hfront, hn⟩
  · rw [List.take_of_length_le hle, fullLines_written hd hrs]
    exact guess?_of_agree hd ((agree_lines hd hne hrs).take (Nat.zero_lt_succ 9))
  · rw [fullLines_take_written hd hrs hfront hn]
    obtain ⟨hrows, hrest⟩ := List.forall_mem_append.1 hrs
    have hr := hrest r List.mem_cons_self
    have htwo := hr.two_le
    by_cases hnil : front = []
    · -- the header is longer than the sample, and what is left of it is the only line
      subst hnil
      have hpos : 0 < ((line d r).take (sampleSize - (written d []).length)).count d :=
        count_take_line_pos d hr (by simp [written, sampleSize])
      have hagree := agree_append_line hpos (List.forall_mem_nil _) (shows_take_line hr rfl)
      exact guess?_of_agree hd (hagree.take (Nat.zero_lt_succ 9))
    · by_cases hcut : (line d r.dropLast).length < sampleSize - (written d front).length
      · have hshows := shows_take_line hr (count_take_line_of_lt hd hr hcut)
        have hagree := agree_append_line (by omega) (shows_lines hd hrows) hshows
        exact guess?_of_agree hd (hagree.take (Nat.zero_lt_succ 9))
      · by_cases hfew : front.length ≤ 9
        · -- the row is not halved, so that the sample ends just before it
          have hend : sampleSize - (written d front).length = 0 := by
            by_cases hwithin : (written d front).length < sampleSize
            · exact absurd ⟨front, r, back, rfl, hnil, hfew, hwithin, by omega⟩ h
            · omega
          rw [hend, List.take_zero, List.filter_cons_of_neg (by decide), List.filter_nil, List.append_nil]
          exact guess?_of_agree hd ((agree_lines hd hnil hrows).take (Nat.zero_lt_succ 9))
        · refine guess?_of_agree hd ?_
          rw [List.take_append_of_le_length (by rw [List.length_map]; omega)]
          exact (agree_lines hd hnil hrows).take (Nat.zero_lt_succ 9)

/-- If a row is halved, nothing is guessed. -/
theorem guess?_of_halved (hd : d ∈ delimiters) (hrs : ∀ r ∈ rs, IsRow width r) (h : Halved d rs) :
    guess? (fullLines ((written d rs).take sampleSize)) = none := by
  obtain ⟨front, r, back, rfl, hnil, hfew, hwithin, hcut⟩ := h
  obtain ⟨hrows, hrest⟩ := List.forall_mem_append.1 hrs
  have hr := hrest r List.mem_cons_self
  obtain ⟨cell, -, hline⟩ := exists_line_eq_dropLast d hr
  have hlength : (line d r.dropLast).length ≤ (line d r).length := by
    rw [hline, List.length_append]
    exact Nat.le_add_right _ _
  have hpartial : (line d r).take (sampleSize - (written d front).length) ≠ [] := by
    refine List.ne_nil_of_length_pos ?_
    have hpos := List.length_pos_iff.2 (line_ne_nil hd hr)
    rw [List.length_take]
    omega
  have hless := count_take_line_of_le hd hr (n := sampleSize - (written d front).length) (by omega)
  rw [fullLines_take_written hd hrs (by omega) (by omega), List.filter_cons_of_pos (by simpa using hpartial),
    List.filter_nil]
  exact guess?_eq_none (by simpa using hnil) (by simpa using hfew) (shows_lines hd hrows) (shows_take_line hr rfl)
    (Nat.ne_of_lt hless)

/-- No row is halved if the first ten lines are within the sample. -/
theorem not_halved_of_length_le (hrs : ∀ r ∈ rs, IsRow width r) (h : (written d (rs.take 10)).length ≤ sampleSize) :
    ¬ Halved d rs := by
  rintro ⟨front, r, back, rfl, -, hfew, -, hcut⟩
  obtain ⟨cell, -, hline⟩ := exists_line_eq_dropLast d (hrs r (by simp))
  obtain ⟨k, hk⟩ : ∃ k, 10 - front.length = k + 1 := ⟨9 - front.length, by omega⟩
  rw [List.take_append, List.take_of_length_le (by omega), hk, List.take_succ_cons, written_append, List.length_append,
    length_written_cons, hline, List.length_append] at h
  omega

end PaymentIdentifiers.Sheet
