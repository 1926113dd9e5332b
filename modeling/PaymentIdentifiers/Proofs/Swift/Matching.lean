import PaymentIdentifiers.Proofs.Swift.Tiling
import Mathlib.Data.List.Forall2

/-!
# Matching a text against a compiled format

A match runs over the joined groups. It never leaves the text, and accepts exactly the texts of the right length in
which every character belongs to the class of the group, as written in the expression, that covers its position.
-/
namespace PaymentIdentifiers.Swift

/-- Apart from the space, all members of a class are letters and digits. -/
theorem CharClass.isAlphanum_of_has {k : CharClass} {c : Char} (h : k.has c = true) :
    c.isAlphanum = true ∨ c = ' ' := by
  cases k with
  | digits => exact .inl (Text.isAlphanum_of_isDigit h)
  | upperLetters => exact .inl (Text.isAlphanum_of_isUpper h)
  | alphanumerics => exact .inl h
  | spaces => exact .inr (by simpa [has] using h)

namespace Group

/-- Whether the characters belong to the classes, position by position up to the shorter end. -/
def belongs (ks : List CharClass) (t : Text) : Bool := (ks.zip t).all fun q => q.1.has q.2

theorem belongs_replicate (k : CharClass) {n : Nat} {t : Text} (h : t.length = n) :
    belongs (List.replicate n k) t = t.all k.has := by
  induction t generalizing n with
  | nil => simp [belongs]
  | cons c t ih =>
    obtain ⟨m, rfl⟩ : ∃ m, n = m + 1 := ⟨t.length, by simpa using h.symm⟩
    have ht := ih (n := m) (by simpa using h)
    simp only [belongs, List.replicate_succ, List.zip_cons_cons, List.all_cons] at ht ⊢
    rw [ht]

theorem belongs_append {ks ls : List CharClass} {s t : Text} (h : ks.length = s.length) :
    belongs (ks ++ ls) (s ++ t) = (belongs ks s && belongs ls t) := by
  rw [belongs, List.zip_append h, List.all_append]
  rfl

theorem scanFront_of_le (k : CharClass) {n : Nat} {t : Text} (h : n ≤ t.length) :
    scanFront k n t = some ((t.take n).all k.has) := by
  induction n generalizing t with
  | zero => simp [scanFront]
  | succ n ih =>
    cases t with
    | nil => simp at h
    | cons c t =>
      have hrest := ih (t := t) (by simpa using h)
      simp only [scanFront, List.take_succ_cons, List.all_cons, hrest]
      cases k.has c with
      | false => rfl
      | true => rfl

end Group

namespace Pattern

/-- Groups that tile positions inside of the text answer whether the characters belong to their classes. -/
theorem runAll_of_tiling {t : Text} {lo hi : Nat} {gs : List Group} (h : Group.Tiling lo gs hi) (hle : hi ≤ t.length) :
    runAll t gs = some (Group.belongs (Group.classList gs) (t.drop lo)) := by
  induction gs generalizing lo with
  | nil => rfl
  | cons g gs ih =>
    obtain ⟨hs, hl, ht⟩ := h
    have hstop := ht.stop_eq
    have hn : g.length.toNat ≤ (t.drop lo).length := by
      rw [List.length_drop]
      omega
    have hrun : g.run t = some (((t.drop lo).take g.length.toNat).all g.charClass.has) := by
      rw [Group.run, if_pos (by omega), show g.start.toNat = lo by omega]
      exact Group.scanFront_of_le g.charClass hn
    have hsplit : Group.belongs (Group.classList (g :: gs)) (t.drop lo) =
        (((t.drop lo).take g.length.toNat).all g.charClass.has &&
          Group.belongs (Group.classList gs) (t.drop (lo + g.length.toNat))) := by
      have htake := List.length_take_of_le hn
      conv_lhs => rw [← List.take_append_drop g.length.toNat (t.drop lo)]
      rw [Group.classList_cons, Group.belongs_append (by rw [htake, List.length_replicate]), List.drop_drop,
        Group.belongs_replicate _ htake]
    rw [runAll, hrun, hsplit, ih ht]
    cases ((t.drop lo).take g.length.toNat).all g.charClass.has with
    | false => rfl
    | true => simp

/-- A match against a compiled pattern always has an answer. -/
theorem run_eq {e : Text} {p : Pattern} (h : compile e = .ok p) (t : Text) :
    p.run t = some (decide (t.length = p.length) && Group.belongs p.classes t) := by
  have htile := tiling_groups h
  rw [run]
  by_cases hlen : t.length = p.length
  · rw [if_pos hlen]
    have hspans := runAll_of_tiling (Group.tiling_mergeAll htile) (Nat.le_of_eq hlen.symm)
    rw [spans, hspans, Group.classList_mergeAll htile, decide_eq_true hlen]
    rfl
  · simp [hlen]

theorem accepts_iff_forall₂ {e : Text} {p : Pattern} (h : compile e = .ok p) (t : Text) :
    p.accepts t = true ↔ List.Forall₂ (fun k c => k.has c = true) p.classes t := by
  rw [accepts, run_eq h, List.forall₂_iff_zip, length_classes]
  simp only [beq_iff_eq, Option.some.injEq, Bool.and_eq_true, decide_eq_true_eq, Group.belongs, List.all_eq_true,
    Prod.forall, eq_comm (a := t.length)]

/-- Acceptance by the groups as they are written in the expression. -/
theorem accepts_iff_groups {e : Text} {p : Pattern} (h : compile e = .ok p) (t : Text) :
    p.accepts t = true ↔ t.length = p.length ∧
      ∀ (i : Nat) (c : Char), t[i]? = some c → ∃ g ∈ p.groups, g.start ≤ i ∧ i < g.stop ∧ g.charClass.has c = true := by
  rw [accepts_iff_forall₂ h, List.forall₂_iff_get]
  constructor
  · rintro ⟨hlen, hhas⟩
    refine ⟨by rw [← hlen, length_classes], fun i c hi => ?_⟩
    obtain ⟨hit, rfl⟩ := List.getElem?_eq_some_iff.1 hi
    have hik : i < p.classes.length := hlen ▸ hit
    obtain ⟨g, hg, hle, hlt, hk⟩ := (getElem?_classes h).1 (List.getElem?_eq_getElem hik)
    refine ⟨g, hg, hle, hlt, ?_⟩
    rw [hk]
    exact hhas i hik hit
  · rintro ⟨hlen, hcover⟩
    refine ⟨by rw [length_classes, hlen], fun i hik hit => ?_⟩
    obtain ⟨g, hg, hle, hlt, hhas⟩ := hcover i t[i] (List.getElem?_eq_getElem hit)
    obtain ⟨_, hk⟩ := List.getElem?_eq_some_iff.1 ((getElem?_classes h).2 ⟨g, hg, hle, hlt, rfl⟩)
    rw [List.get_eq_getElem, List.get_eq_getElem, hk]
    exact hhas

theorem length_of_accepts {e : Text} {p : Pattern} (h : compile e = .ok p) {t : Text} (ht : p.accepts t = true) :
    t.length = p.length :=
  ((accepts_iff_groups h t).1 ht).1

end Pattern

/-- A text of the kind that tokens describe: it is as long as they ask for together, and each character belongs to
the class of the token that covers its position. -/
structure Token.Describe (ts : List Token) (t : Text) : Prop where
  length_eq : t.length = (ts.map size).sum
  mem_class : ∀ (i : Nat) (c : Char), t[i]? = some c →
    ∃ pre u post, ts = pre ++ u :: post ∧ (pre.map size).sum ≤ i ∧ i < (pre.map size).sum + u.size ∧
      u.charClass.has c = true

namespace Pattern

/-- Acceptance by the tokens of the expression. -/
theorem accepts_iff_describe {e : Text} {p : Pattern} {ts : List Token} (h : compile e = .ok p)
    (hts : Token.Spells ts e) (t : Text) : p.accepts t = true ↔ Token.Describe ts t := by
  obtain ⟨us, hus, -, hp⟩ := compile_eq_ok_iff.1 h
  obtain rfl := hus.unique hts
  have hcover (i : Nat) (c : Char) :
      (∃ g ∈ p.groups, g.start ≤ i ∧ i < g.stop ∧ g.charClass.has c = true) ↔
        ∃ pre u post, us = pre ++ u :: post ∧ Token.total pre ≤ i ∧ i < Token.total pre + u.size ∧
          u.charClass.has c = true := by
    simp only [hp, Token.mem_laidOut, Nat.zero_add]
    constructor
    · rintro ⟨g, ⟨pre, u, post, hsplit, rfl⟩, hle, hlt, hhas⟩
      simp only [Group.stop] at hle hlt
      exact ⟨pre, u, post, hsplit, by omega, by omega, hhas⟩
    · rintro ⟨pre, u, post, hsplit, hle, hlt, hhas⟩
      refine ⟨_, ⟨pre, u, post, hsplit, rfl⟩, ?_, ?_, hhas⟩ <;> simp only [Group.stop] <;> omega
  have hlen : p.length = Token.total us := by
    rw [hp]
    exact Token.totalLength_laidOut 0 us
  rw [accepts_iff_groups h, hlen]
  simp only [hcover]
  constructor
  · intro h
    exact ⟨h.1, h.2⟩
  · intro h
    exact ⟨h.length_eq, h.mem_class⟩

theorem length_pos {e : Text} {p : Pattern} (h : compile e = .ok p) : 0 < p.length := by
  obtain ⟨ts, hts, hs, rfl⟩ := compile_eq_ok_iff.1 h
  cases ts with
  | nil => exact absurd hts.pos (by decide)
  | cons t ts =>
    have := (hs t (by simp)).2
    rw [length, Token.totalLength_laidOut, Token.total_cons]
    omega

/-- What a pattern accepts has no other characters than letters, digits and blanks. -/
theorem isAlphanum_of_accepts {e : Text} {p : Pattern} (h : compile e = .ok p) {t : Text} (ht : p.accepts t = true)
    {c : Char} (hc : c ∈ t) : c.isAlphanum = true ∨ c = ' ' := by
  obtain ⟨i, hi⟩ := List.mem_iff_getElem?.1 hc
  obtain ⟨g, -, -, -, hhas⟩ := ((accepts_iff_groups h t).1 ht).2 i c hi
  exact CharClass.isAlphanum_of_has hhas

end Pattern
end PaymentIdentifiers.Swift
