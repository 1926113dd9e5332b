import PaymentIdentifiers.Proofs.Bban.Rows
import Mathlib.Data.List.Forall2
import Mathlib.Data.List.Nodup

/-!
# Which rows make a registry

Sound rows with distinct codes make a registry with their codes in order and one structure for each row. Any other rows
fail at the first row that has a defect or a code that is taken, and the first thing that is wrong with it is reported.
-/
namespace PaymentIdentifiers.Bban

/-- The first thing that is wrong with a row behind rows with the codes `taken`: a defect of its own, then the first of
its codes that is taken or stands before in the row. -/
inductive Row.Fault (taken : List Text) (row : Row) : LayoutError → Prop
  | defect {e : LayoutError} (h : row.Defect e) : Fault taken row e
  | duplicate (hs : row.Sound) {pre post : List Text} {code : Text} (hcodes : row.codes = pre ++ code :: post)
      (hpre : (taken ++ pre).Nodup) (h : code ∈ taken ++ pre) : Fault taken row (.duplicate code)

namespace Registry

variable {r : Registry} {e : LayoutError}

/-- The first code that is taken or repeated is reported. By induction on the codes: a free code in front is taken from
then on. -/
theorem insertAll_eq_error_iff {l : Layout} {cs : List Text} (h : r.codes.Nodup) :
    insertAll l cs r = .error e ↔ ∃ pre code post, cs = pre ++ code :: post ∧ (r.codes ++ pre).Nodup ∧
      code ∈ r.codes ++ pre ∧ e = .duplicate code := by
  induction cs generalizing r with
  | nil => simp [insertAll_nil]
  | cons c cs ih =>
    rw [insertAll_cons]
    by_cases hmem : c ∈ r.codes
    · rw [if_pos hmem, Except.error.injEq]
      constructor
      · rintro rfl
        exact ⟨[], c, cs, rfl, by rwa [List.append_nil], by rwa [List.append_nil], rfl⟩
      · rintro ⟨pre, code, post, hcs, hn, -, rfl⟩
        cases pre with
        | nil => rw [(List.cons.inj hcs).1]
        | cons d pre =>
          obtain ⟨rfl, -⟩ := List.cons.inj hcs
          exact absurd rfl ((List.nodup_append.1 hn).2.2 c hmem c List.mem_cons_self)
    · rw [if_neg hmem, ih (nodup_codes_concat h hmem), codes_concat]
      constructor
      · rintro ⟨pre, code, post, rfl, hn, hcode, rfl⟩
        exact ⟨c :: pre, code, post, rfl, by rwa [List.append_cons], by rwa [List.append_cons], rfl⟩
      · rintro ⟨pre, code, post, hcs, hn, hcode, rfl⟩
        cases pre with
        | nil =>
          obtain ⟨rfl, -⟩ := List.cons.inj hcs
          exact absurd (by rwa [List.append_nil] at hcode) hmem
        | cons d pre =>
          obtain ⟨rfl, rfl⟩ := List.cons.inj hcs
          rw [List.append_cons] at hn hcode
          exact ⟨pre, code, post, rfl, hn, hcode, rfl⟩

theorem addRow_eq_error_iff {row : Row} (h : r.codes.Nodup) : r.addRow row = .error e ↔ row.Fault r.codes e := by
  rw [addRow]
  cases hl : row.layout with
  | error e' =>
    rw [Except.error.injEq]
    constructor
    · rintro rfl
      exact .defect (Row.layout_eq_error_iff.1 hl)
    · intro hfault
      cases hfault with
      | defect hdefect => exact Except.error.inj (hl.symm.trans (Row.layout_eq_error_iff.2 hdefect))
      | duplicate hs =>
        obtain ⟨l, hok⟩ := Row.exists_layout_iff.2 hs
        rw [hl] at hok
        contradiction
  | ok l =>
    simp only [insertAll_eq_error_iff h]
    constructor
    · rintro ⟨pre, code, post, hcodes, hn, hcode, rfl⟩
      exact .duplicate (Row.exists_layout_iff.1 ⟨l, hl⟩) hcodes hn hcode
    · intro hfault
      cases hfault with
      | defect hdefect =>
        rw [Row.layout_eq_error_iff.2 hdefect] at hl
        contradiction
      | duplicate hs hcodes hn hcode => exact ⟨_, _, _, hcodes, hn, hcode, rfl⟩

/-- The first row with a fault is reported, and the rows before it were added. -/
theorem addRows_eq_error_iff {rows : List Row} (h : r.codes.Nodup) :
    r.addRows rows = .error e ↔ ∃ pre row post, rows = pre ++ row :: post ∧ (∃ s, r.addRows pre = .ok s) ∧
      row.Fault (r.codes ++ pre.flatMap Row.codes) e := by
  induction rows generalizing r with
  | nil => simp [addRows]
  | cons row rows ih =>
    have hfirst : row.Fault (r.codes ++ ([] : List Row).flatMap Row.codes) e ↔ r.addRow row = .error e := by
      rw [addRow_eq_error_iff h, List.flatMap_nil, List.append_nil]
    cases hrow : r.addRow row with
    | error e' =>
      simp only [addRows, hrow]
      constructor
      · intro he
        exact ⟨[], row, rows, rfl, ⟨r, rfl⟩, hfirst.2 (hrow.trans he)⟩
      · rintro ⟨pre, row', post, hrows, ⟨s, hs⟩, hfault⟩
        cases pre with
        | nil =>
          obtain ⟨rfl, -⟩ := List.cons.inj hrows
          rw [← hrow]
          exact hfirst.1 hfault
        | cons d pre =>
          obtain ⟨rfl, -⟩ := List.cons.inj hrows
          simp [addRows, hrow] at hs
    | ok q =>
      obtain ⟨hcodes, hn⟩ := codes_of_addRow h hrow
      rw [addRows, hrow]
      simp only [ih hn, hcodes]
      constructor
      · rintro ⟨pre, row', post, rfl, ⟨s, hs⟩, hfault⟩
        refine ⟨row :: pre, row', post, rfl, ⟨s, ?_⟩, ?_⟩
        · rw [addRows, hrow]
          exact hs
        · rwa [List.flatMap_cons, ← List.append_assoc]
      · rintro ⟨pre, row', post, hrows, ⟨s, hs⟩, hfault⟩
        cases pre with
        | nil =>
          obtain ⟨rfl, -⟩ := List.cons.inj hrows
          rw [hfirst, hrow] at hfault
          contradiction
        | cons d pre =>
          obtain ⟨rfl, rfl⟩ := List.cons.inj hrows
          rw [addRows, hrow] at hs
          rw [List.flatMap_cons, ← List.append_assoc] at hfault
          exact ⟨pre, row', post, rfl, ⟨s, hs⟩, hfault⟩

section
variable {ls ms : List Layout} {rows : List Row} {s : Registry}

theorem foldl_appendNew_of_mem (h : ∀ m ∈ ms, m ∈ ls) : ms.foldl appendNew ls = ls := by
  induction ms with
  | nil => rfl
  | cons m ms ih =>
    rw [List.foldl_cons, appendNew, if_pos (h m List.mem_cons_self)]
    exact ih fun k hk => h k (List.mem_cons_of_mem m hk)

/-- However many codes a row has, it adds one structure. -/
theorem foldl_appendNew_entries {row : Row} {l : Layout} (hl : row.layout = .ok l) (hnew : l ∉ ls) :
    (row.entries.map Prod.snd).foldl appendNew ls = ls ++ [l] := by
  have hothers : ∀ m ∈ row.subdivisions.map fun _ => l, m ∈ ls ++ [l] := by
    intro m hm
    obtain ⟨-, -, rfl⟩ := List.mem_map.1 hm
    exact List.mem_append_right ls List.mem_cons_self
  rw [Row.entries_eq hl, List.map_map, Row.codes, List.map_cons, List.foldl_cons]
  change (row.subdivisions.map fun _ => l).foldl appendNew (appendNew ls l) = ls ++ [l]
  rw [appendNew, if_neg hnew, foldl_appendNew_of_mem hothers]

/-- The structures of rows are added one after the other, if none of them is there already. -/
theorem foldl_appendNew_rows (h : List.Forall₂ (fun row l => row.layout = .ok l) rows ms) (hn : (ls ++ ms).Nodup) :
    ((rows.flatMap Row.entries).map Prod.snd).foldl appendNew ls = ls ++ ms := by
  induction h generalizing ls with
  | nil => simp
  | @cons row l rows ms hl _ ih =>
    have hnew : l ∉ ls := fun hmem => (List.nodup_append.1 hn).2.2 l hmem l List.mem_cons_self rfl
    rw [List.append_cons] at hn ⊢
    rw [List.flatMap_cons, List.map_append, List.foldl_append, foldl_appendNew_entries hl hnew, ih hn]

theorem map_country_sublist (rows : List Row) : (rows.map Row.country).Sublist (rows.flatMap Row.codes) := by
  induction rows with
  | nil => exact .slnil
  | cons row rows ih =>
    rw [List.map_cons, List.flatMap_cons]
    exact .cons_cons row.country (ih.trans (List.sublist_append_right row.subdivisions _))

theorem exists_forall₂_layout (h : ∀ row ∈ rows, ∃ l, row.layout = .ok l) :
    ∃ ls, List.Forall₂ (fun row l => row.layout = .ok l) rows ls := by
  induction rows with
  | nil => exact ⟨[], .nil⟩
  | cons row rows ih =>
    obtain ⟨l, hl⟩ := h row List.mem_cons_self
    obtain ⟨ls, hls⟩ := ih fun q hq => h q (List.mem_cons_of_mem row hq)
    exact ⟨l :: ls, .cons hl hls⟩

theorem map_country_eq (h : List.Forall₂ (fun row l => row.layout = .ok l) rows ls) :
    ls.map Layout.country = rows.map Row.country := by
  induction h with
  | nil => rfl
  | cons hl _ ih => rw [List.map_cons, List.map_cons, (Row.follows_of_layout hl).country, ih]

/-- The distinct structures of a registry are those of its rows. Different rows have different countries, and so they
have different structures. -/
theorem forall₂_layouts (h : build rows = .ok s) :
    List.Forall₂ (fun row l => row.layout = .ok l) rows s.layouts := by
  obtain ⟨hall, hn, rfl⟩ := build_eq_ok_iff.1 h
  obtain ⟨ls, hls⟩ := exists_forall₂_layout hall
  have hcountries : (ls.map Layout.country).Nodup := by
    rw [map_country_eq hls]
    exact hn.sublist (map_country_sublist rows)
  have hlayouts : layouts (rows.flatMap Row.entries) = ls :=
    foldl_appendNew_rows hls (List.Nodup.of_map Layout.country hcountries)
  rwa [hlayouts]

end

/-- A registry is built exactly from sound rows without a repeated code. It has the codes of the rows in order, each
with the structure of its row, and one structure for each row. Of other rows the first with a fault is reported, by
the first thing that is wrong with it. -/
theorem build_exact (rows : List Row) :
    ((∃ s, build rows = .ok s) ↔ (∀ row ∈ rows, row.Sound) ∧ (rows.flatMap Row.codes).Nodup) ∧
    (∀ s, build rows = .ok s → s.codes = rows.flatMap Row.codes ∧
      List.Forall₂ (fun row l => l.Follows row ∧ ∀ code ∈ row.codes, s.find? code = some l) rows s.layouts) ∧
    (∀ e, build rows = .error e ↔ ∃ pre row post, rows = pre ++ row :: post ∧ (∃ s, build pre = .ok s) ∧
      row.Fault (pre.flatMap Row.codes) e) := by
  refine ⟨?_, fun s hs => ⟨?_, ?_⟩, fun e => addRows_eq_error_iff List.nodup_nil⟩
  · simp only [build_eq_ok_iff, Row.exists_layout_iff, exists_and_left, exists_eq, and_true]
  · obtain ⟨hall, -, rfl⟩ := build_eq_ok_iff.1 hs
    exact codes_flatMap_entries hall
  · have hmem := (List.forall₂_and_left rows s.layouts).2 ⟨fun row hrow => hrow, forall₂_layouts hs⟩
    refine hmem.imp fun row l hl => ⟨Row.follows_of_layout hl.2, fun code hcode => ?_⟩
    exact (find?_of_build hs).2 ⟨row, hl.1, hcode, hl.2⟩

/-- Two rows make a registry of three codes. A row with two defects is reported by the account that is no range,
before the check digit that ends behind the pattern; a sound row is reported by its second subdivision, which is a
subdivision of the first row. -/
theorem build_exact_nordic :
    let finland := row "FI" "6!n7!n1!n" (some (0, 3)) none (some (13, 14)) (some (3, 13)) ["AX"]
    let norway := row "NO" "4!n6!n1!n" (some (0, 4)) none (some (10, 11)) (some (4, 10)) []
    let sweden := row "SE" "3!n16!n1!n" (some (0, 3)) none (some (19, 21)) (some (5, 5)) []
    let denmark := row "DK" "4!n9!n1!n" (some (0, 4)) none (some (13, 14)) (some (4, 13)) ["FO", "AX", "FO"]
    (∃ s, build [finland, norway] = .ok s ∧ s.codes = ["FI".toList, "AX".toList, "NO".toList] ∧
      List.Forall₂ (fun row l => l.Follows row ∧ ∀ code ∈ row.codes, s.find? code = some l) [finland, norway]
        s.layouts) ∧
      build [finland, sweden, denmark] = .error (.range ⟨5, 5⟩) ∧
      build [finland, norway, denmark] = .error (.duplicate "AX") := by
  intro finland norway sweden denmark
  obtain ⟨s, hs⟩ : ∃ s, build [finland, norway] = .ok s := ⟨_, rfl⟩
  obtain ⟨hcodes, hlayouts⟩ := (build_exact [finland, norway]).2.1 s hs
  refine ⟨⟨s, hs, hcodes, hlayouts⟩, ?_, ?_⟩
  · obtain ⟨p, hp⟩ : ∃ p, Swift.Pattern.compile sweden.expression = .ok p := ⟨_, rfl⟩
    have haccount : Field.all = [.bank, .branch, .nationalCheck] ++ .account :: [] := rfl
    have hdefect : sweden.Defect (.range ⟨5, 5⟩) := .range hp haccount (by decide) rfl (by decide)
    exact ((build_exact [finland, sweden, denmark]).2.2 _).2
      ⟨[finland], sweden, [denmark], rfl, ⟨_, rfl⟩, .defect hdefect⟩
  · have hsound : denmark.Sound := Row.exists_layout_iff.1 ⟨_, rfl⟩
    have hcodes : denmark.codes = ["DK".toList, "FO".toList] ++ "AX".toList :: ["FO".toList] := rfl
    have hfault : denmark.Fault ["FI".toList, "AX".toList, "NO".toList] (.duplicate "AX") :=
      .duplicate hsound hcodes (by decide) (by decide)
    exact ((build_exact [finland, norway, denmark]).2.2 _).2 ⟨[finland, norway], denmark, [], rfl, ⟨s, hs⟩, hfault⟩

end Registry

end PaymentIdentifiers.Bban
