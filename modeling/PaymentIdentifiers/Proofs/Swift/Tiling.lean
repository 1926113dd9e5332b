import PaymentIdentifiers.Proofs.Swift.Compilation

/-!
# Groups side by side

The groups of a compiled expression tile the positions of the text. Joining neighbours of one class keeps the
tiling and the class asked for at each position, since a join only moves a border inside of a run of one class.
-/
namespace PaymentIdentifiers.Swift
namespace Group

/-- Groups of at least one position each, in a row from `lo` to `hi`. -/
def Tiling : Nat → List Group → Nat → Prop
  | lo, [], hi => lo = hi
  | lo, g :: gs, hi => g.start = lo ∧ 0 < g.length ∧ Tiling (lo + g.length.toNat) gs hi

/-- The class asked for at each position of a row of groups. -/
def classList (gs : List Group) : List CharClass := gs.flatMap fun g => List.replicate g.length.toNat g.charClass

@[simp] theorem classList_nil : classList [] = [] := rfl

@[simp] theorem classList_cons (g : Group) (gs : List Group) :
    classList (g :: gs) = List.replicate g.length.toNat g.charClass ++ classList gs := rfl

@[simp] theorem classList_append (gs hs : List Group) : classList (gs ++ hs) = classList gs ++ classList hs := by
  simp [classList]

theorem Tiling.stop_eq {lo hi : Nat} {gs : List Group} (h : Tiling lo gs hi) : hi = lo + totalLength gs := by
  induction gs generalizing lo with
  | nil => exact h.symm
  | cons g gs ih =>
    have := ih h.2.2
    simp only [totalLength]
    omega

theorem Tiling.length_pos {lo hi : Nat} {gs : List Group} (h : Tiling lo gs hi) : ∀ g ∈ gs, 0 < g.length := by
  induction gs generalizing lo with
  | nil => simp
  | cons g gs ih => exact List.forall_mem_cons.2 ⟨h.2.1, ih h.2.2⟩

theorem tiling_append {lo hi : Nat} {gs hs : List Group} :
    Tiling lo (gs ++ hs) hi ↔ ∃ mid, Tiling lo gs mid ∧ Tiling mid hs hi := by
  induction gs generalizing lo with
  | nil => simp [Tiling]
  | cons g gs ih =>
    simp only [List.cons_append, Tiling, ih]
    constructor
    · rintro ⟨hs, hl, mid, h1, h2⟩
      exact ⟨mid, ⟨hs, hl, h1⟩, h2⟩
    · rintro ⟨mid, ⟨hs, hl, h1⟩, h2⟩
      exact ⟨hs, hl, mid, h1, h2⟩

theorem canMerge_iff {g h : Group} : g.canMerge h = true ↔ g.charClass = h.charClass ∧ g.stop = h.start := by
  simp [canMerge]

theorem tiling_merge {lo hi : Nat} {g h : Group} (ht : Tiling lo [g, h] hi) : Tiling lo [g.merge h] hi := by
  obtain ⟨hs, hg, -, hh, hend⟩ := ht
  refine ⟨hs, ?_, ?_⟩ <;> simp only [Tiling, merge] at hend ⊢ <;> omega

theorem classList_merge {g h : Group} (hg : 0 < g.length) (hh : 0 < h.length) (hk : g.charClass = h.charClass) :
    classList [g.merge h] = classList [g, h] := by
  have hl : (g.length + h.length).toNat = g.length.toNat + h.length.toNat := by omega
  simp [merge, hl, ← hk]

/-- Appending a group to the joined ones keeps the tiling and the classes. -/
theorem tiling_pushMerged {lo hi : Nat} {done : List Group} {g : Group} (h : Tiling lo (done.reverse ++ [g]) hi) :
    Tiling lo (pushMerged done g).reverse hi ∧
      classList (pushMerged done g).reverse = classList (done.reverse ++ [g]) := by
  cases done with
  | nil => exact ⟨h, rfl⟩
  | cons last done =>
    simp only [pushMerged]
    split
    · rename_i hm
      rw [List.reverse_cons, List.append_assoc] at h
      obtain ⟨mid, hdone, hpair⟩ := tiling_append.1 h
      have hk := (canMerge_iff.1 hm).1
      refine ⟨?_, ?_⟩
      · rw [List.reverse_cons]
        exact tiling_append.2 ⟨mid, hdone, tiling_merge hpair⟩
      · have hclasses := classList_merge hpair.2.1 hpair.2.2.2.1 hk
        rw [List.reverse_cons, classList_append, hclasses, ← classList_append, List.reverse_cons, List.append_assoc]
        rfl
    · rw [List.reverse_cons]
      exact ⟨h, rfl⟩

theorem tiling_foldl_pushMerged {lo hi : Nat} {gs : List Group} (done : List Group)
    (h : Tiling lo (done.reverse ++ gs) hi) :
    Tiling lo (gs.foldl pushMerged done).reverse hi ∧
      classList (gs.foldl pushMerged done).reverse = classList (done.reverse ++ gs) := by
  induction gs generalizing done with
  | nil => simpa using h
  | cons g gs ih =>
    have hsplit : done.reverse ++ g :: gs = (done.reverse ++ [g]) ++ gs := by simp
    rw [hsplit] at h ⊢
    obtain ⟨mid, hfront, hback⟩ := tiling_append.1 h
    obtain ⟨htile, hclasses⟩ := tiling_pushMerged hfront
    obtain ⟨hall, heq⟩ := ih _ (tiling_append.2 ⟨mid, htile, hback⟩)
    refine ⟨hall, ?_⟩
    rw [List.foldl_cons, heq, classList_append, hclasses, classList_append _ gs]

theorem tiling_mergeAll {lo hi : Nat} {gs : List Group} (h : Tiling lo gs hi) : Tiling lo (mergeAll gs) hi :=
  (tiling_foldl_pushMerged [] h).1

theorem classList_mergeAll {lo hi : Nat} {gs : List Group} (h : Tiling lo gs hi) :
    classList (mergeAll gs) = classList gs :=
  (tiling_foldl_pushMerged [] h).2

theorem Tiling.le_start {lo hi : Nat} {gs : List Group} (h : Tiling lo gs hi) {g : Group} (hg : g ∈ gs) :
    (lo : Int) ≤ g.start := by
  induction gs generalizing lo with
  | nil => simp at hg
  | cons f gs ih =>
    obtain ⟨hs, -, ht⟩ := h
    rcases List.mem_cons.1 hg with rfl | hg
    · omega
    · have := ih ht hg
      omega

/-- The class at a position is that of the group that covers it. -/
theorem getElem?_classList {lo hi : Nat} {gs : List Group} (h : Tiling lo gs hi) {i : Nat} {k : CharClass} :
    (classList gs)[i]? = some k ↔ ∃ g ∈ gs, g.start ≤ (lo + i : Nat) ∧ (lo + i : Nat) < g.stop ∧ g.charClass = k := by
  induction gs generalizing lo i with
  | nil => simp
  | cons g gs ih =>
    obtain ⟨hs, hl, ht⟩ := h
    have hstop : g.stop = (lo + g.length.toNat : Nat) := by
      simp only [stop]
      omega
    rw [classList_cons]
    by_cases hi : i < g.length.toNat
    · rw [List.getElem?_append_left (by simpa using hi), List.getElem?_replicate, if_pos hi, Option.some.injEq]
      constructor
      · rintro rfl
        exact ⟨g, by simp, by omega, by omega, rfl⟩
      · rintro ⟨f, hf, hle, -, rfl⟩
        rcases List.mem_cons.1 hf with rfl | hf
        · rfl
        · have := ht.le_start hf
          omega
    · have hindex : lo + g.length.toNat + (i - g.length.toNat) = lo + i := by omega
      rw [List.getElem?_append_right (by simpa using hi), List.length_replicate, ih ht, hindex]
      constructor
      · rintro ⟨f, hf, hcover⟩
        exact ⟨f, by simp [hf], hcover⟩
      · rintro ⟨f, hf, hle, hlt, hk⟩
        rcases List.mem_cons.1 hf with rfl | hf
        · omega
        · exact ⟨f, hf, hle, hlt, hk⟩

end Group

namespace Token

theorem mem_laidOut {start : Nat} {ts : List Token} {g : Group} :
    g ∈ laidOut start ts ↔
      ∃ pre t post, ts = pre ++ t :: post ∧ g = ⟨t.charClass, (start + total pre : Nat), t.size⟩ := by
  induction ts generalizing start with
  | nil => simp [laidOut]
  | cons t ts ih =>
    simp only [laidOut, List.mem_cons, ih]
    constructor
    · rintro (rfl | ⟨pre, u, post, rfl, rfl⟩)
      · exact ⟨[], t, ts, rfl, by simp⟩
      · exact ⟨t :: pre, u, post, rfl, by simp [Nat.add_assoc]⟩
    · rintro ⟨pre, u, post, hsplit, rfl⟩
      cases pre with
      | nil =>
        obtain ⟨rfl, -⟩ := List.cons.inj hsplit
        exact .inl (by simp)
      | cons v pre =>
        obtain ⟨rfl, rfl⟩ := List.cons.inj hsplit
        exact .inr ⟨pre, u, post, rfl, by simp [Nat.add_assoc]⟩

/-- The groups of sound tokens tile as many positions as the tokens ask for. -/
theorem tiling_laidOut (start : Nat) {ts : List Token} (h : ∀ t ∈ ts, t.Sound) :
    Group.Tiling start (laidOut start ts) (start + total ts) := by
  induction ts generalizing start with
  | nil => rfl
  | cons t ts ih =>
    have ht := (h t (by simp)).2
    have hrest := ih (start + t.size) fun u hu => h u (by simp [hu])
    refine ⟨rfl, Int.natCast_pos.2 ht, ?_⟩
    rw [total_cons, ← Nat.add_assoc]
    exact hrest

end Token

theorem Pattern.tiling_groups {e : Text} {p : Pattern} (h : compile e = .ok p) :
    Group.Tiling 0 p.groups p.length := by
  obtain ⟨ts, -, hs, rfl⟩ := compile_eq_ok_iff.1 h
  have ht := Token.tiling_laidOut 0 hs
  rwa [Nat.zero_add, ← Token.totalLength_laidOut 0 ts] at ht

/-- The class that a pattern asks for at a position is that of the group, as written, that covers it. -/
theorem Pattern.getElem?_classes {e : Text} {p : Pattern} (h : compile e = .ok p) {i : Nat} {k : CharClass} :
    p.classes[i]? = some k ↔ ∃ g ∈ p.groups, g.start ≤ i ∧ i < g.stop ∧ g.charClass = k := by
  have hk := Group.getElem?_classList (tiling_groups h) (i := i) (k := k)
  rwa [Nat.zero_add] at hk

end PaymentIdentifiers.Swift
