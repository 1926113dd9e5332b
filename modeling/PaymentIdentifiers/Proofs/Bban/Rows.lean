import PaymentIdentifiers.Proofs.Bban.Registration

/-!
# Which rows have a structure

A row is sound if its expression compiles and its ranges lie within the pattern. A sound row has the structure that it
describes. Of the defects of any other row the first one is reported: the expression comes before the ranges, and these
before the length of the pattern.
-/
namespace PaymentIdentifiers.Bban

/-- The bounds that a range is made from. -/
def Range.bounds (r : Range) : Int × Int := (r.start, r.stop)

/-- Bounds with a position between them, none of them negative. -/
def IsRange (b : Int × Int) : Prop := 0 ≤ b.1 ∧ b.1 < b.2

instance (b : Int × Int) : Decidable (IsRange b) := inferInstanceAs (Decidable (_ ∧ _))

namespace Row

/-- The bounds that a row gives for a field. -/
def bounds (row : Row) : Field → Option (Int × Int)
  | .bank => row.bank
  | .branch => row.branch
  | .nationalCheck => row.nationalCheck
  | .account => row.account

/-- What a row has to be for a structure. -/
def Sound (row : Row) : Prop :=
  ∃ p, Swift.Pattern.compile row.expression = .ok p ∧
    ∀ f b, row.bounds f = some b → 0 ≤ b.1 ∧ b.1 < b.2 ∧ b.2 ≤ p.length

/-- The first thing that is wrong with a row by itself: its expression, then a pair of bounds that is no range, then a
range that ends behind the pattern, both in the order of the fields. -/
inductive Defect (row : Row) : LayoutError → Prop
  | expression {e : Swift.ExpressionError} (h : Swift.Pattern.compile row.expression = .error e) :
      Defect row (.expression e)
  | range {p : Swift.Pattern} (hp : Swift.Pattern.compile row.expression = .ok p) {pre post : List Field} {f : Field}
      (hf : Field.all = pre ++ f :: post) (hpre : ∀ g ∈ pre, ∀ b, row.bounds g = some b → IsRange b)
      {start stop : Int} (hb : row.bounds f = some (start, stop)) (h : ¬ IsRange (start, stop)) :
      Defect row (.range ⟨start, stop⟩)
  | exceeds {p : Swift.Pattern} (hp : Swift.Pattern.compile row.expression = .ok p)
      (hranges : ∀ g b, row.bounds g = some b → IsRange b) {pre post : List Field} {f : Field}
      (hf : Field.all = pre ++ f :: post) (hpre : ∀ g ∈ pre, ∀ b, row.bounds g = some b → b.2 ≤ p.length)
      {r : Range} (hb : row.bounds f = some r.bounds) (h : p.length < r.stop) :
      Defect row (.exceeds row.country f r p.length)

end Row

/-- The structure that a row describes. -/
structure Layout.Follows (l : Layout) (row : Row) : Prop where
  country : l.country = row.country
  pattern : Swift.Pattern.compile row.expression = .ok l.pattern
  subdivisions : ∀ code, code ∈ l.subdivisions ↔ code ∈ row.subdivisions
  ranges : ∀ f, (l.range f).map Range.bounds = row.bounds f

theorem Field.mem_all (f : Field) : f ∈ Field.all := by
  cases f <;> decide

theorem Range.bounds_inj {r s : Range} (h : r.bounds = s.bounds) : r = s := by
  obtain ⟨a, b, _⟩ := r
  obtain ⟨c, d, _⟩ := s
  simpa [bounds, Int.ofNat_inj] using h

namespace Layout.Follows

variable {l : Layout} {row : Row} (h : l.Follows row) {f : Field}
include h

theorem range_eq_some_iff {r : Range} : l.range f = some r ↔ row.bounds f = some r.bounds := by
  rw [← h.ranges f, Option.map_eq_some_iff]
  constructor
  · intro hr
    exact ⟨r, hr, rfl⟩
  · rintro ⟨s, hs, hbounds⟩
    rw [hs, Range.bounds_inj hbounds]

/-- The ranges of the structure end where the bounds of the row do. -/
theorem forall_range_iff {n : Nat} :
    (∀ r, l.range f = some r → r.stop ≤ n) ↔ ∀ b, row.bounds f = some b → b.2 ≤ n := by
  rw [← h.ranges f]
  constructor
  · intro hle b hb
    obtain ⟨r, hr, rfl⟩ := Option.map_eq_some_iff.1 hb
    exact Int.ofNat_le.2 (hle r hr)
  · intro hle r hr
    exact Int.ofNat_le.1 (hle r.bounds (by rw [hr, Option.map_some]))

end Layout.Follows

/-- What is wrong with given bounds, if anything. -/
def boundsFault? : Option (Int × Int) → Option RangeError
  | none => none
  | some b => if IsRange b then none else some ⟨b.1, b.2⟩

/-- The range between given bounds, if there is one. -/
def rangeBetween? (b : Option (Int × Int)) : Option Range := (rangeOf? b).toOption.join

theorem boundsFault?_eq_none_iff {b : Option (Int × Int)} :
    boundsFault? b = none ↔ ∀ c, b = some c → IsRange c := by
  cases b with
  | none => simp [boundsFault?]
  | some b => simp [boundsFault?]

theorem boundsFault?_eq_some_iff {b : Option (Int × Int)} {e : RangeError} :
    boundsFault? b = some e ↔ b = some (e.start, e.stop) ∧ ¬ IsRange (e.start, e.stop) := by
  cases b with
  | none => simp [boundsFault?]
  | some b =>
    by_cases h : IsRange b
    · simp only [boundsFault?, if_pos h, reduceCtorEq, false_iff, not_and, Decidable.not_not, Option.some.injEq]
      rintro rfl
      exact h
    · simp only [boundsFault?, if_neg h, Option.some.injEq]
      constructor
      · rintro rfl
        exact ⟨rfl, h⟩
      · rintro ⟨rfl, -⟩
        rfl

theorem rangeOf?_eq (b : Option (Int × Int)) : rangeOf? b = match boundsFault? b with
    | some e => .error (.range e)
    | none => .ok (rangeBetween? b) := by
  cases b with
  | none => rfl
  | some b =>
    by_cases h : IsRange b
    · have hbounds : 0 ≤ b.1 ∧ b.1 < b.2 := h
      simp only [rangeBetween?, boundsFault?, if_pos h, rangeOf?, Range.ofBounds, dif_pos hbounds]
      rfl
    · have hbounds : ¬ (0 ≤ b.1 ∧ b.1 < b.2) := h
      simp only [boundsFault?, if_neg h, rangeOf?, Range.ofBounds, dif_neg hbounds]

theorem map_bounds_rangeBetween? {b : Option (Int × Int)} (h : boundsFault? b = none) :
    (rangeBetween? b).map Range.bounds = b := by
  cases b with
  | none => rfl
  | some b =>
    have hbounds : 0 ≤ b.1 ∧ b.1 < b.2 := boundsFault?_eq_none_iff.1 h b rfl
    have hstart : (b.1.toNat : Int) = b.1 := Int.toNat_of_nonneg hbounds.1
    have hstop : (b.2.toNat : Int) = b.2 := Int.toNat_of_nonneg (by omega)
    simp only [rangeBetween?, rangeOf?, Range.ofBounds, dif_pos hbounds, Except.toOption, Option.join_some,
      Option.map_some, Range.bounds, hstart, hstop]

namespace Layout

variable {l : Layout}

/-- The range of a field, if it ends behind the pattern. -/
def excess? (l : Layout) (f : Field) : Option (Field × Range) :=
  match l.range f with
  | some r => if l.pattern.length < r.stop then some (f, r) else none
  | none => none

theorem excess?_eq_none_iff {f : Field} :
    l.excess? f = none ↔ ∀ r, l.range f = some r → r.stop ≤ l.pattern.length := by
  unfold excess?
  cases l.range f with
  | none => simp
  | some r => simp

theorem excess?_eq_some_iff {f g : Field} {r : Range} :
    l.excess? g = some (f, r) ↔ g = f ∧ l.range g = some r ∧ l.pattern.length < r.stop := by
  unfold excess?
  cases l.range g with
  | none => simp
  | some s =>
    by_cases hs : l.pattern.length < s.stop
    · simp only [if_pos hs, Option.some.injEq, Prod.mk.injEq]
      constructor
      · rintro ⟨rfl, rfl⟩
        exact ⟨rfl, rfl, hs⟩
      · rintro ⟨rfl, rfl, -⟩
        exact ⟨rfl, rfl⟩
    · simp only [if_neg hs, reduceCtorEq, Option.some.injEq, false_iff]
      rintro ⟨-, rfl, h⟩
      exact hs h

theorem exceeding?_eq_findSome? (l : Layout) : l.exceeding? = Field.all.findSome? l.excess? := rfl

/-- No range ends behind the pattern. -/
theorem exceeding?_eq_none_iff :
    l.exceeding? = none ↔ ∀ f r, l.range f = some r → r.stop ≤ l.pattern.length := by
  rw [exceeding?_eq_findSome?, List.findSome?_eq_none_iff]
  exact ⟨fun h f => excess?_eq_none_iff.1 (h f f.mem_all), fun h f _ => excess?_eq_none_iff.2 (h f)⟩

/-- The first range that ends behind the pattern. -/
theorem exceeding?_eq_some_iff {f : Field} {r : Range} : l.exceeding? = some (f, r) ↔
    ∃ pre post, Field.all = pre ++ f :: post ∧ l.range f = some r ∧ l.pattern.length < r.stop ∧
      ∀ g ∈ pre, ∀ s, l.range g = some s → s.stop ≤ l.pattern.length := by
  simp only [exceeding?_eq_findSome?, List.findSome?_eq_some_iff, excess?_eq_some_iff, excess?_eq_none_iff]
  constructor
  · rintro ⟨pre, _, post, hf, ⟨rfl, hr, hlt⟩, hpre⟩
    exact ⟨pre, post, hf, hr, hlt, hpre⟩
  · rintro ⟨pre, post, hf, hr, hlt, hpre⟩
    exact ⟨pre, f, post, hf, ⟨rfl, hr, hlt⟩, hpre⟩

end Layout

namespace Row

variable {row : Row}

/-- The first pair of bounds that is no range. -/
def rangeFault? (row : Row) : Option RangeError := Field.all.findSome? fun f => boundsFault? (row.bounds f)

theorem rangeFault?_eq_none_iff : row.rangeFault? = none ↔ ∀ f b, row.bounds f = some b → IsRange b := by
  rw [rangeFault?, List.findSome?_eq_none_iff]
  exact ⟨fun h f => boundsFault?_eq_none_iff.1 (h f f.mem_all), fun h f _ => boundsFault?_eq_none_iff.2 (h f)⟩

theorem rangeFault?_eq_some_iff {e : RangeError} : row.rangeFault? = some e ↔
    ∃ pre f post, Field.all = pre ++ f :: post ∧ row.bounds f = some (e.start, e.stop) ∧ ¬ IsRange (e.start, e.stop) ∧
      ∀ g ∈ pre, ∀ b, row.bounds g = some b → IsRange b := by
  simp only [rangeFault?, List.findSome?_eq_some_iff, boundsFault?_eq_some_iff, boundsFault?_eq_none_iff, and_assoc]

/-- The structure of a row with this pattern. -/
def laidOver (row : Row) (p : Swift.Pattern) : Layout :=
  ⟨row.country, p, Text.sortDistinct row.subdivisions, rangeBetween? row.bank, rangeBetween? row.branch,
    rangeBetween? row.nationalCheck, rangeBetween? row.account⟩

theorem range_laidOver (row : Row) (p : Swift.Pattern) (f : Field) :
    (row.laidOver p).range f = rangeBetween? (row.bounds f) := by
  cases f <;> rfl

section
variable {p : Swift.Pattern} (hp : Swift.Pattern.compile row.expression = .ok p)
include hp

theorem follows_laidOver (h : row.rangeFault? = none) : (row.laidOver p).Follows row where
  country := rfl
  pattern := hp
  subdivisions _ := Text.mem_sortDistinct
  ranges f := by
    rw [range_laidOver]
    exact map_bounds_rangeBetween? (List.findSome?_eq_none_iff.1 h f f.mem_all)

/-- Behind the expression, the bounds are looked at before the length of the pattern. -/
theorem layout_eq : row.layout = match row.rangeFault? with
    | some e => .error (.range e)
    | none => match (row.laidOver p).exceeding? with
      | some (f, r) => .error (.exceeds row.country f r p.length)
      | none => .ok (row.laidOver p) := by
  simp only [layout, hp, rangeOf?_eq, rangeFault?, Field.all, List.findSome?_cons, List.findSome?_nil, bounds]
  cases boundsFault? row.bank with
  | some e => rfl
  | none =>
    cases boundsFault? row.branch with
    | some e => rfl
    | none =>
      cases boundsFault? row.nationalCheck with
      | some e => rfl
      | none =>
        cases boundsFault? row.account with
        | some e => rfl
        | none => rfl

theorem sound_iff : row.Sound ↔ row.rangeFault? = none ∧ (row.laidOver p).exceeding? = none := by
  rw [rangeFault?_eq_none_iff]
  constructor
  · rintro ⟨q, hq, hbounds⟩
    obtain rfl := Except.ok.inj (hp.symm.trans hq)
    have hranges (f : Field) (b : Int × Int) (hb : row.bounds f = some b) : IsRange b :=
      ⟨(hbounds f b hb).1, (hbounds f b hb).2.1⟩
    have hfollows := follows_laidOver hp (rangeFault?_eq_none_iff.2 hranges)
    refine ⟨hranges, Layout.exceeding?_eq_none_iff.2 fun f => ?_⟩
    exact hfollows.forall_range_iff.2 fun b hb => (hbounds f b hb).2.2
  · rintro ⟨hranges, hexceeding⟩
    have hfollows := follows_laidOver hp (rangeFault?_eq_none_iff.2 hranges)
    refine ⟨p, hp, fun f b hb => ⟨(hranges f b hb).1, (hranges f b hb).2, ?_⟩⟩
    exact hfollows.forall_range_iff.1 (Layout.exceeding?_eq_none_iff.1 hexceeding f) b hb

theorem layout_eq_ok_iff_laidOver {l : Layout} : row.layout = .ok l ↔ row.Sound ∧ row.laidOver p = l := by
  rw [layout_eq hp, sound_iff hp]
  cases row.rangeFault? with
  | some e => simp
  | none =>
    cases (row.laidOver p).exceeding? with
    | some q => simp
    | none => simp

end

/-- A row has a structure exactly if it is sound. -/
theorem exists_layout_iff : (∃ l, row.layout = .ok l) ↔ row.Sound := by
  cases hp : Swift.Pattern.compile row.expression with
  | error e => simp [Sound, layout, hp]
  | ok p => simp [layout_eq_ok_iff_laidOver hp]

theorem follows_of_layout {l : Layout} (h : row.layout = .ok l) : l.Follows row := by
  obtain ⟨p, hp, -⟩ := exists_layout_iff.1 ⟨l, h⟩
  obtain ⟨hsound, rfl⟩ := (layout_eq_ok_iff_laidOver hp).1 h
  exact follows_laidOver hp ((sound_iff hp).1 hsound).1

/-- A row that has no structure is reported with its first defect. -/
theorem layout_eq_error_iff {e : LayoutError} : row.layout = .error e ↔ row.Defect e := by
  constructor
  · intro h
    cases hp : Swift.Pattern.compile row.expression with
    | error e' =>
      simp only [layout, hp, Except.error.injEq] at h
      rw [← h]
      exact .expression hp
    | ok p =>
      rw [layout_eq hp] at h
      cases hfault : row.rangeFault? with
      | some e' =>
        simp only [hfault, Except.error.injEq] at h
        obtain ⟨pre, f, post, hf, hb, hrange, hpre⟩ := rangeFault?_eq_some_iff.1 hfault
        rw [← h]
        exact .range hp hf hpre hb hrange
      | none =>
        have hfollows := follows_laidOver hp hfault
        cases hexceeding : (row.laidOver p).exceeding? with
        | none => simp [hfault, hexceeding] at h
        | some q =>
          simp only [hfault, hexceeding, Except.error.injEq] at h
          obtain ⟨pre, post, hf, hr, hlt, hpre⟩ := Layout.exceeding?_eq_some_iff.1 hexceeding
          rw [← h]
          have hranges := rangeFault?_eq_none_iff.1 hfault
          refine .exceeds hp hranges hf (fun g hg => ?_) (hfollows.range_eq_some_iff.1 hr) hlt
          exact hfollows.forall_range_iff.1 (hpre g hg)
  · intro h
    cases h with
    | expression h => simp [layout, h]
    | range hp hf hpre hb h =>
      rw [layout_eq hp, (rangeFault?_eq_some_iff (e := ⟨_, _⟩)).2 ⟨_, _, _, hf, hb, h, hpre⟩]
    | exceeds hp hranges hf hpre hb h =>
      have hfault := rangeFault?_eq_none_iff.2 hranges
      have hfollows := follows_laidOver hp hfault
      have hexceeding := Layout.exceeding?_eq_some_iff.2
        ⟨_, _, hf, hfollows.range_eq_some_iff.2 hb, h, fun g hg => hfollows.forall_range_iff.2 (hpre g hg)⟩
      rw [layout_eq hp, hfault]
      simp only [hexceeding]

end Row

/-- A country has the structure that the row of the table describes. -/
theorem exists_follows_of_mem_tableRows {row : Row} {code : Text} (hrow : row ∈ tableRows) (hcode : code ∈ row.codes) :
    ∃ l, layoutOf code = some l ∧ l.Follows row := by
  obtain ⟨l, hl⟩ := (Registry.build_eq_ok_iff.1 Registry.build_tableRows).1 row hrow
  exact ⟨l, layoutOf_eq_some_iff.2 ⟨row, hrow, hcode, hl⟩, Row.follows_of_layout hl⟩

end PaymentIdentifiers.Bban
