import PaymentIdentifiers.Proofs.Swift.Merging
import Mathlib.Data.List.SplitBy

/-!
# Joined groups as a normal form

Joining from left to right leaves no two neighbours that could still be joined, so a second pass changes nothing. The
joined groups of an expression are the longest runs of one class, which the class asked for at each position determines.
These classes in turn can be told from the texts that match: no two classes have the same members, though they overlap.
-/
namespace PaymentIdentifiers.Swift

namespace CharClass

/-- Each pair of classes is told apart by a digit, an upper-case letter or a lower-case letter. -/
theorem eq_of_has_eq {k l : CharClass} (h : ∀ c, k.has c = l.has c) : k = l := by
  have hdigit := h '0'
  have hupper := h 'A'
  have hlower := h 'a'
  revert hdigit hupper hlower
  cases k <;> cases l <;> decide

theorem exists_has (k : CharClass) : ∃ c, k.has c = true := by
  cases k with
  | digits => exact ⟨'0', rfl⟩
  | upperLetters => exact ⟨'A', rfl⟩
  | alphanumerics => exact ⟨'0', rfl⟩
  | spaces => exact ⟨' ', rfl⟩

/-- Every row of classes is met by some text. -/
theorem exists_forall₂_has (ks : List CharClass) : ∃ t : Text, List.Forall₂ (fun k c => k.has c = true) ks t := by
  induction ks with
  | nil => exact ⟨[], .nil⟩
  | cons k ks ih =>
    obtain ⟨c, hc⟩ := k.exists_has
    obtain ⟨t, ht⟩ := ih
    exact ⟨c :: t, .cons hc ht⟩

/-- Rows of classes that the same texts meet are equal. -/
theorem eq_of_forall₂_iff {ks ls : List CharClass}
    (h : ∀ t : Text, List.Forall₂ (fun k c => k.has c = true) ks t ↔ List.Forall₂ (fun k c => k.has c = true) ls t) :
    ks = ls := by
  induction ks generalizing ls with
  | nil =>
    have hnil := (h []).1 .nil
    cases hnil
    rfl
  | cons k ks ih =>
    obtain ⟨c, hc⟩ := k.exists_has
    obtain ⟨t, ht⟩ := exists_forall₂_has ks
    -- One text that meets the first row shows that the second is not empty, and serves for all comparisons of heads.
    cases ls with
    | nil => cases (h (c :: t)).1 (.cons hc ht)
    | cons l ls =>
      obtain ⟨hl, hls⟩ := List.forall₂_cons.1 ((h (c :: t)).1 (.cons hc ht))
      have hhead : k = l := eq_of_has_eq fun d => by
        have := h (d :: t)
        simp only [List.forall₂_cons, ht, hls, and_true] at this
        exact Bool.eq_iff_iff.2 this
      have htail : ks = ls := ih fun u => by
        have := h (c :: u)
        simpa only [List.forall₂_cons, hc, hl, true_and] using this
      rw [hhead, htail]

end CharClass

namespace Group

attribute [ext] Group

/-- The class of a group, once for each of its positions. -/
def stretch (g : Group) : List CharClass := List.replicate g.length.toNat g.charClass

theorem flatten_map_stretch (gs : List Group) : (gs.map stretch).flatten = classList gs :=
  List.flatMap_def.symm

/-- Appending a group leaves nothing to join. The list is reversed, so the later neighbour comes first. -/
theorem isChain_pushMerged {done : List Group} (g : Group) (h : done.IsChain fun f e => e.canMerge f = false) :
    (pushMerged done g).IsChain fun f e => e.canMerge f = false := by
  cases done with
  | nil => exact List.isChain_singleton g
  | cons last done =>
    rw [pushMerged]
    split
    · -- The joined group has the class and the start of the last one, on which the neighbour before it depends.
      rw [List.isChain_cons] at h ⊢
      exact h
    · rename_i hm
      exact h.cons fun f hf => by
        obtain rfl := Option.some.inj hf
        simpa using hm

theorem isChain_mergeAll (gs : List Group) : (mergeAll gs).IsChain fun g h => g.canMerge h = false := by
  have hfold (done : List Group) (h : done.IsChain fun f e => e.canMerge f = false) :
      (gs.foldl pushMerged done).IsChain fun f e => e.canMerge f = false := by
    induction gs generalizing done with
    | nil => exact h
    | cons g gs ih => exact ih _ (isChain_pushMerged g h)
  exact List.isChain_reverse.2 (hfold [] List.isChain_nil)

/-- Where no neighbours can be joined, joining changes nothing. -/
theorem mergeAll_of_isChain {gs : List Group} (h : gs.IsChain fun g h => g.canMerge h = false) : mergeAll gs = gs := by
  have hfold (done : List Group) (hdone : (done.reverse ++ gs).IsChain fun g h => g.canMerge h = false) :
      gs.foldl pushMerged done = gs.reverse ++ done := by
    induction gs generalizing done with
    | nil => rfl
    | cons g gs ih =>
      have hpush : pushMerged done g = g :: done := by
        cases done with
        | nil => rfl
        | cons last done =>
          have hpair : [last, g] <:+: (last :: done).reverse ++ g :: gs := ⟨done.reverse, gs, by simp⟩
          have hlast : [last, g].IsChain fun g h => g.canMerge h = false := hdone.infix hpair
          rw [pushMerged, if_neg (by simp [List.isChain_pair.1 hlast])]
      rw [List.foldl_cons, hpush, ih h.tail (g :: done) (by simpa using hdone)]
      simp
  rw [mergeAll, hfold [] h, List.append_nil, List.reverse_reverse]

theorem mergeAll_mergeAll (gs : List Group) : mergeAll (mergeAll gs) = mergeAll gs :=
  mergeAll_of_isChain (isChain_mergeAll gs)

section
variable {lo hi : Nat} {gs : List Group}

/-- Side by side, groups that cannot be joined have different classes. -/
theorem Tiling.isChain_charClass_ne (h : Tiling lo gs hi) (hm : gs.IsChain fun g h => g.canMerge h = false) :
    gs.IsChain fun g h => g.charClass ≠ h.charClass := by
  induction gs generalizing lo with
  | nil => exact List.isChain_nil
  | cons g gs ih =>
    obtain ⟨hstart, hlength, htail⟩ := h
    refine (ih htail hm.tail).cons fun f hf hclass => ?_
    obtain ⟨rest, rfl⟩ := List.head?_eq_some_iff.1 hf
    have hstop : g.stop = f.start := by
      rw [htail.1, stop]
      omega
    have hjoin : g.canMerge f = true := canMerge_iff.2 ⟨hclass, hstop⟩
    simp [List.rel_of_isChain_cons_cons hm] at hjoin

/-- Groups side by side are determined by where they begin and by their stretches. -/
theorem Tiling.eq_of_map_stretch {hs : List Group} {mid : Nat} (h : Tiling lo gs hi) (k : Tiling lo hs mid)
    (heq : gs.map stretch = hs.map stretch) : gs = hs := by
  induction gs generalizing lo hs with
  | nil => exact (List.map_eq_nil_iff.1 heq.symm).symm
  | cons g gs ih =>
    cases hs with
    | nil => simp at heq
    | cons f hs =>
      obtain ⟨hstart, hlength, htail⟩ := h
      obtain ⟨kstart, klength, ktail⟩ := k
      rw [List.map_cons, List.map_cons, List.cons.injEq, stretch, stretch, List.replicate_inj] at heq
      obtain ⟨⟨hnat, hclass⟩, hrest⟩ := heq
      have hhead : g = f := Group.ext (hclass.resolve_left (by omega)) (hstart.trans kstart.symm) (by omega)
      subst hhead
      rw [ih htail ktail hrest]

/-- Groups side by side, of which no neighbours have one class, are the longest runs of one class. -/
theorem Tiling.map_stretch_eq_splitBy (h : Tiling lo gs hi) (hne : gs.IsChain fun g h => g.charClass ≠ h.charClass) :
    gs.map stretch = (classList gs).splitBy (· == ·) := by
  have hpos (g : Group) (hg : g ∈ gs) : g.stretch ≠ [] := by
    have := h.length_pos g hg
    rw [stretch, ne_eq, List.replicate_eq_nil_iff]
    omega
  rw [← flatten_map_stretch, List.splitBy_flatten]
  · simpa using hpos
  · intro ks hks
    obtain ⟨g, -, rfl⟩ := List.mem_map.1 hks
    exact List.isChain_replicate_of_rel _ (by simp)
  · rw [List.isChain_map]
    refine hne.imp_of_mem_imp fun g f hg hf hclass => ⟨hpos g hg, hpos f hf, ?_⟩
    simp [stretch, hclass]

end

end Group

namespace Pattern

variable {e : Text} {p : Pattern}

theorem tiling_spans (h : compile e = .ok p) : Group.Tiling 0 p.spans p.length :=
  Group.tiling_mergeAll (tiling_groups h)

theorem isChain_spans (h : compile e = .ok p) : p.spans.IsChain fun g h => g.charClass ≠ h.charClass :=
  (tiling_spans h).isChain_charClass_ne (Group.isChain_mergeAll p.groups)

theorem classList_spans (h : compile e = .ok p) : Group.classList p.spans = p.classes :=
  Group.classList_mergeAll (tiling_groups h)

theorem map_stretch_spans (h : compile e = .ok p) : p.spans.map Group.stretch = p.classes.splitBy (· == ·) := by
  rw [(tiling_spans h).map_stretch_eq_splitBy (isChain_spans h), classList_spans h]

section
variable {f : Text} {q : Pattern} (hp : compile e = .ok p) (hq : compile f = .ok q)
include hp hq

theorem spans_eq_iff_classes_eq : p.spans = q.spans ↔ p.classes = q.classes := by
  constructor
  · intro h
    rw [← classList_spans hp, h, classList_spans hq]
  · intro h
    apply (tiling_spans hp).eq_of_map_stretch (tiling_spans hq)
    rw [map_stretch_spans hp, map_stretch_spans hq, h]

theorem accepts_eq_iff_classes_eq : (∀ t, p.accepts t = q.accepts t) ↔ p.classes = q.classes := by
  constructor
  · intro h
    refine CharClass.eq_of_forall₂_iff fun t => ?_
    rw [← accepts_iff_forall₂ hp, ← accepts_iff_forall₂ hq, h]
  · intro h t
    rw [accepts, accepts, run_congr hp hq h]

end

/-- The spans of an expression are a normal form. They lie side by side from zero to the length of the pattern with at
least one position each, and neighbours have different classes, so that they are the longest runs of one class among the
positions; joining them again changes nothing. Two expressions match the same texts exactly if their spans are equal. -/
theorem spans_normal_form :
    (∀ (e : Text) (p : Pattern), compile e = .ok p →
      Group.Tiling 0 p.spans p.length ∧
      p.spans.IsChain (fun g h => g.charClass ≠ h.charClass) ∧
      p.spans.map Group.stretch = p.classes.splitBy (· == ·) ∧
      Group.mergeAll p.spans = p.spans) ∧
    (∀ (e f : Text) (p q : Pattern), compile e = .ok p → compile f = .ok q →
      ((∀ t, p.accepts t = q.accepts t) ↔ p.spans = q.spans)) := by
  refine ⟨fun e p hp => ⟨tiling_spans hp, isChain_spans hp, map_stretch_spans hp, Group.mergeAll_mergeAll p.groups⟩, ?_⟩
  intro e f p q hp hq
  rw [accepts_eq_iff_classes_eq hp hq, spans_eq_iff_classes_eq hp hq]

/-- Ten digits and four letters or digits, cut in two ways, and ten digits with four upper-case letters. -/
theorem spans_normal_form_digits :
    ∃ p q r, compile "3!n5!n2!n4!c" = .ok p ∧ compile "10!n4!c" = .ok q ∧ compile "10!n4!a" = .ok r ∧
      p.groups.length = 4 ∧ p.spans = [⟨.digits, 0, 10⟩, ⟨.alphanumerics, 10, 4⟩] ∧ Group.Tiling 0 p.spans 14 ∧
      p.spans.map Group.stretch = p.classes.splitBy (· == ·) ∧ Group.mergeAll p.spans = p.spans ∧
      p.spans = q.spans ∧ (∀ t, p.accepts t = q.accepts t) ∧
      p.spans ≠ r.spans ∧ ¬ ∀ t, p.accepts t = r.accepts t := by
  obtain ⟨p, hp⟩ : ∃ p, compile "3!n5!n2!n4!c" = .ok p := ⟨_, rfl⟩
  obtain ⟨q, hq⟩ : ∃ q, compile "10!n4!c" = .ok q := ⟨_, rfl⟩
  obtain ⟨r, hr⟩ : ∃ r, compile "10!n4!a" = .ok r := ⟨_, rfl⟩
  have hpe := Except.ok.inj (hp.symm.trans rfl)
  have hqe := Except.ok.inj (hq.symm.trans rfl)
  have hre := Except.ok.inj (hr.symm.trans rfl)
  have hspans : p.spans = [⟨.digits, 0, 10⟩, ⟨.alphanumerics, 10, 4⟩] := by
    rw [hpe]
    decide +kernel
  have hsame : p.spans = q.spans := by
    rw [hspans, hqe]
    decide +kernel
  have hother : p.spans ≠ r.spans := by
    rw [hspans, hre]
    decide +kernel
  obtain ⟨hform, hmatch⟩ := spans_normal_form
  obtain ⟨htiling, -, hruns, hagain⟩ := hform _ p hp
  have hlength : p.length = 14 := by
    rw [hpe]
    decide +kernel
  rw [hlength] at htiling
  exact ⟨p, q, r, hp, hq, hr, by rw [hpe]; rfl, hspans, htiling, hruns, hagain, hsame, (hmatch _ _ p q hp hq).2 hsame,
    hother, mt (hmatch _ _ p r hp hr).1 hother⟩

end Pattern
end PaymentIdentifiers.Swift
