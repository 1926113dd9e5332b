import PaymentIdentifiers.Bban.Registry

/-!
# What a registry holds

A registry is built exactly if every row has a structure and no code is registered twice. It then holds the codes
of the rows in order, each with the structure of its row, and the structure of a code is that of the row that has it.
-/
namespace PaymentIdentifiers.Bban

/-- What a row adds to a registry: its codes with its structure. -/
def Row.entries (row : Row) : Registry :=
  match row.layout with
  | .ok l => row.codes.map fun code => (code, l)
  | .error _ => []

theorem Row.entries_eq {row : Row} {l : Layout} (h : row.layout = .ok l) :
    row.entries = row.codes.map fun code => (code, l) := by
  rw [entries, h]

theorem bind_eq_ok_iff {α β : Type} {x : Except LayoutError α} {f : α → Except LayoutError β} {b : β} :
    x >>= f = .ok b ↔ ∃ a, x = .ok a ∧ f a = .ok b := by
  cases x with
  | error e => simp [bind, Except.bind]
  | ok a => simp [bind, Except.bind]

/-- A structure is the checked data of its row, and none of its ranges ends behind the pattern. -/
theorem Row.layout_eq_ok_iff {row : Row} {l : Layout} :
    row.layout = .ok l ↔ Swift.Pattern.compile row.expression = .ok l.pattern ∧ l.country = row.country ∧
      l.subdivisions = Text.sortDistinct row.subdivisions ∧ rangeOf? row.bank = .ok l.bank ∧
      rangeOf? row.branch = .ok l.branch ∧ rangeOf? row.nationalCheck = .ok l.nationalCheck ∧
      rangeOf? row.account = .ok l.account ∧ l.exceeding? = none := by
  unfold layout
  cases hp : Swift.Pattern.compile row.expression with
  | error e => simp
  | ok p =>
    simp only [bind_eq_ok_iff]
    constructor
    · rintro ⟨bank, hbank, branch, hbranch, check, hcheck, account, haccount, h⟩
      split at h
      · cases h
      · rename_i hexc
        obtain rfl := Except.ok.inj h
        exact ⟨rfl, rfl, rfl, hbank, hbranch, hcheck, haccount, hexc⟩
    · rintro ⟨hpattern, hcountry, hsubdivisions, hbank, hbranch, hcheck, haccount, hexc⟩
      refine ⟨_, hbank, _, hbranch, _, hcheck, _, haccount, ?_⟩
      rw [← hcountry, ← hsubdivisions, Except.ok.inj hpattern, hexc]

namespace Registry

theorem codes_append (r s : Registry) : codes (r ++ s) = codes r ++ codes s := List.map_append

theorem codes_map (l : Layout) (cs : List Text) : codes (cs.map fun code => (code, l)) = cs := by
  simp [codes, Function.comp_def]

theorem Row.codes_entries {row : Row} {l : Layout} (h : row.layout = .ok l) : codes row.entries = row.codes := by
  rw [Row.entries_eq h, codes_map]

theorem insertAll_nil (l : Layout) (r : Registry) : insertAll l [] r = .ok r := rfl

theorem insertAll_cons (l : Layout) (code : Text) (cs : List Text) (r : Registry) :
    insertAll l (code :: cs) r =
      if code ∈ r.codes then .error (.duplicate code) else insertAll l cs (r ++ [(code, l)]) := rfl

theorem codes_concat (r : Registry) (code : Text) (l : Layout) : codes (r ++ [(code, l)]) = r.codes ++ [code] :=
  codes_append r _

theorem nodup_codes_concat {r : Registry} {code : Text} {l : Layout} (h : r.codes.Nodup) (hcode : code ∉ r.codes) :
    (codes (r ++ [(code, l)])).Nodup := by
  rw [codes_concat, List.nodup_append]
  exact ⟨h, by simp, fun a ha b hb => by rintro rfl; exact hcode (List.mem_singleton.1 hb ▸ ha)⟩

/-- Codes are registered exactly if none of them is taken or repeated. -/
theorem insertAll_eq_ok_iff {l : Layout} {cs : List Text} {r s : Registry} (h : r.codes.Nodup) :
    insertAll l cs r = .ok s ↔ (r.codes ++ cs).Nodup ∧ s = r ++ cs.map fun code => (code, l) := by
  induction cs generalizing r with
  | nil => simp [insertAll_nil, h, eq_comm]
  | cons code cs ih =>
    rw [insertAll_cons]
    split
    · rename_i hmem
      have hdup : ¬ (r.codes ++ code :: cs).Nodup := fun hn =>
        (List.nodup_append.1 hn).2.2 code hmem code (by simp) rfl
      simp [hdup]
    · rename_i hmem
      rw [ih (nodup_codes_concat h hmem), codes_concat]
      simp

theorem addRow_eq_ok_iff {r s : Registry} {row : Row} (h : r.codes.Nodup) :
    r.addRow row = .ok s ↔ (∃ l, row.layout = .ok l) ∧ (r.codes ++ row.codes).Nodup ∧ s = r ++ row.entries := by
  cases hl : row.layout with
  | error e => simp [addRow, hl]
  | ok l => simp [addRow, hl, insertAll_eq_ok_iff h, Row.entries_eq hl]

theorem codes_of_addRow {r s : Registry} {row : Row} (h : r.codes.Nodup) (hs : r.addRow row = .ok s) :
    s.codes = r.codes ++ row.codes ∧ s.codes.Nodup := by
  obtain ⟨⟨l, hl⟩, hn, rfl⟩ := (addRow_eq_ok_iff h).1 hs
  rw [codes_append, Row.codes_entries hl]
  exact ⟨rfl, hn⟩

/-- Rows are added exactly if all of them have a structure and their codes are free and distinct. -/
theorem addRows_eq_ok_iff {r s : Registry} {rows : List Row} (h : r.codes.Nodup) :
    r.addRows rows = .ok s ↔ (∀ row ∈ rows, ∃ l, row.layout = .ok l) ∧
      (r.codes ++ rows.flatMap Row.codes).Nodup ∧ s = r ++ rows.flatMap Row.entries := by
  induction rows generalizing r with
  | nil => simp [addRows, h, eq_comm]
  | cons row rows ih =>
    rw [addRows]
    cases hrow : r.addRow row with
    | error e =>
      simp only [reduceCtorEq, false_iff]
      rintro ⟨hall, hn, -⟩
      rw [List.flatMap_cons, ← List.append_assoc] at hn
      have hok := (addRow_eq_ok_iff h).2 ⟨hall row (by simp), (List.nodup_append.1 hn).1, rfl⟩
      rw [hrow] at hok
      contradiction
    | ok q =>
      obtain ⟨hcodes, hn⟩ := codes_of_addRow h hrow
      obtain ⟨⟨l, hl⟩, -, rfl⟩ := (addRow_eq_ok_iff h).1 hrow
      simp only
      rw [ih hn, hcodes]
      simp [hl]

theorem build_eq_ok_iff {rows : List Row} {s : Registry} :
    build rows = .ok s ↔ (∀ row ∈ rows, ∃ l, row.layout = .ok l) ∧
      (rows.flatMap Row.codes).Nodup ∧ s = rows.flatMap Row.entries :=
  addRows_eq_ok_iff List.nodup_nil

theorem find?_eq_some_iff {r : Registry} {code : Text} {l : Layout} (h : r.codes.Nodup) :
    r.find? code = some l ↔ (code, l) ∈ r := by
  rw [find?, List.lookup_eq_some_iff]
  constructor
  · rintro ⟨pre, post, rfl, -⟩
    simp
  · intro hmem
    obtain ⟨pre, post, rfl⟩ := List.append_of_mem hmem
    refine ⟨pre, post, rfl, fun p hp => ?_⟩
    rw [codes_append] at h
    have hne := (List.nodup_append.1 h).2.2 p.1 (List.mem_map_of_mem hp) code (by simp [codes])
    simpa using hne.symm

theorem codes_flatMap_entries {rows : List Row} (h : ∀ row ∈ rows, ∃ l, row.layout = .ok l) :
    codes (rows.flatMap Row.entries) = rows.flatMap Row.codes := by
  induction rows with
  | nil => rfl
  | cons row rows ih =>
    obtain ⟨l, hl⟩ := h row (by simp)
    rw [List.flatMap_cons, codes_append, Row.codes_entries hl, ih fun q hq => h q (by simp [hq]), List.flatMap_cons]

/-- The structure under a code of a registry is that of the row with this code. -/
theorem find?_of_build {rows : List Row} {s : Registry} (h : build rows = .ok s) {code : Text} {l : Layout} :
    s.find? code = some l ↔ ∃ row ∈ rows, code ∈ row.codes ∧ row.layout = .ok l := by
  obtain ⟨hall, hn, rfl⟩ := build_eq_ok_iff.1 h
  rw [find?_eq_some_iff ((codes_flatMap_entries hall).symm ▸ hn), List.mem_flatMap]
  constructor
  · rintro ⟨row, hrow, hmem⟩
    obtain ⟨k, hk⟩ := hall row hrow
    rw [Row.entries_eq hk] at hmem
    obtain ⟨c, hc, heq⟩ := List.mem_map.1 hmem
    obtain ⟨rfl, rfl⟩ := Prod.mk.inj heq
    exact ⟨row, hrow, hc, hk⟩
  · rintro ⟨row, hrow, hc, hk⟩
    refine ⟨row, hrow, ?_⟩
    rw [Row.entries_eq hk]
    exact List.mem_map.2 ⟨code, hc, rfl⟩

theorem find?_eq_none_iff {r : Registry} {code : Text} : r.find? code = none ↔ code ∉ r.codes := by
  rw [find?, List.lookup_eq_none_iff, codes, List.mem_map]
  constructor
  · rintro h ⟨p, hp, rfl⟩
    simpa using h p hp
  · intro h p hp
    have hne : code ≠ p.1 := fun heq => h ⟨p, hp, heq.symm⟩
    simpa using hne

theorem eq_ok_of_getD_ne_nil {b : Except LayoutError Registry} (h : b.toOption.getD [] ≠ []) :
    b = .ok (b.toOption.getD []) := by
  cases b with
  | ok r => rfl
  | error e => exact absurd rfl h

theorem build_tableRows : build tableRows = .ok standard := eq_ok_of_getD_ne_nil standard_ne_nil

theorem codes_standard : standard.codes = tableRows.flatMap Row.codes := by
  obtain ⟨hall, -, heq⟩ := build_eq_ok_iff.1 build_tableRows
  rw [heq, codes_flatMap_entries hall]

end Registry

/-- A country has the structure of the row of the table that lists it. -/
theorem layoutOf_eq_some_iff {code : Text} {l : Layout} :
    layoutOf code = some l ↔ ∃ row ∈ tableRows, code ∈ row.codes ∧ row.layout = .ok l :=
  Registry.find?_of_build Registry.build_tableRows

/-- The account numbers of a country are of 11 to 30 characters, none of which has to be a space. -/
theorem format_of_layoutOf {code : Text} {l : Layout} (h : layoutOf code = some l) :
    11 ≤ l.bbanLength ∧ l.bbanLength ≤ 30 ∧ .spaces ∉ l.pattern.classes := by
  have hrows : tableRows.all (fun row => match Swift.Pattern.compile row.expression with
      | .ok p => decide (11 ≤ p.length ∧ p.length ≤ 30 ∧ .spaces ∉ p.classes)
      | .error _ => true) = true := by
    decide +kernel
  obtain ⟨row, hrow, -, hl⟩ := layoutOf_eq_some_iff.1 h
  have hformat := List.all_eq_true.1 hrows row hrow
  rw [(Row.layout_eq_ok_iff.1 hl).1] at hformat
  exact of_decide_eq_true hformat

end PaymentIdentifiers.Bban
