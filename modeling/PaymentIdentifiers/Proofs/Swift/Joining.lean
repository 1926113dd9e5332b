import PaymentIdentifiers.Proofs.Swift.Tiling

/-!
# Joining neighbours

A group joined to the one that begins where it stops is tested like the two of them in order. The joined scan meets the
first character outside the class, or the first position outside the text, where the separate scans meet it, from
whatever position they begin. So joining all neighbours of a row keeps the outcome of a test, the undefined one included.
-/
namespace PaymentIdentifiers.Swift
namespace Group

variable {g h : Group}

theorem stop_merge (hm : g.canMerge h = true) : (g.merge h).stop = h.stop := by
  obtain ⟨-, hstop⟩ := canMerge_iff.1 hm
  simp only [stop, merge] at hstop ⊢
  omega

/-- What can be joined behind two joined groups is what can be joined to the second of them. -/
theorem canMerge_merge (hm : g.canMerge h = true) (k : Group) : (g.merge h).canMerge k = h.canMerge k := by
  have hclass : (g.merge h).charClass = h.charClass := (canMerge_iff.1 hm).1
  rw [canMerge, canMerge, hclass, stop_merge hm]

theorem merge_assoc (g h k : Group) : (g.merge h).merge k = g.merge (h.merge k) := by
  simp only [merge, Int.add_assoc]

/-- A joined group answers like its parts in order, where a refusal or a position outside the text ends the test. -/
theorem run_merge (hg : 0 ≤ g.length) (hh : 0 ≤ h.length) (hm : g.canMerge h = true) (t : Text) :
    (g.merge h).run t = (g.run t).bind fun ok => if ok then h.run t else some false := by
  obtain ⟨hclass, hstop⟩ := canMerge_iff.1 hm
  have hlength : (g.merge h).length.toNat = g.length.toNat + h.length.toNat := by
    simp only [merge]
    omega
  have hstart : g.start + (g.length.toNat : Int) = h.start := by
    rw [Int.toNat_of_nonneg hg]
    exact hstop
  rw [run_eq_scan, run_eq_scan, run_eq_scan, hlength, ← hclass, ← hstart]
  exact scan_add g.charClass t g.length.toNat h.length.toNat g.start

/-- Joining two groups keeps what a match answers: acceptance, refusal, and a position outside the text, also where the
positions count from the end. A third group can be joined to them exactly if it can be joined to the second, and then it
does not matter which join is made first. -/
theorem merge_keeps_outcome (hg : 0 ≤ g.length) (hh : 0 ≤ h.length) (hm : g.canMerge h = true) :
    (∀ t : Text, (g.merge h).run t = (g.run t).bind fun ok => if ok then h.run t else some false) ∧
    ∀ k : Group, ((g.merge h).canMerge k = true ↔ h.canMerge k = true) ∧
      (h.canMerge k = true → (g.merge h).merge k = g.merge (h.merge k)) :=
  ⟨run_merge hg hh hm, fun k => ⟨by rw [canMerge_merge hm], fun _ => merge_assoc g h k⟩⟩

/-- Two groups of digits that reach from the last three characters over the end of a text to its first two. The outcome
is undefined for a text that is too short, unless a letter is met before. -/
theorem merge_keeps_outcome_wrapped :
    let g : Group := ⟨.digits, -3, 2⟩
    let h : Group := ⟨.digits, -1, 3⟩
    let k : Group := ⟨.digits, 2, 1⟩
    0 ≤ g.length ∧ 0 ≤ h.length ∧ g.canMerge h = true ∧
      g.run "123" = some true ∧ h.run "123" = some true ∧ (g.merge h).run "123" = some true ∧
      g.run "1a3" = some false ∧ (g.merge h).run "1a3" = some false ∧
      g.run "12" = none ∧ (g.merge h).run "12" = none ∧
      h.canMerge k = true ∧ (g.merge h).canMerge k = true ∧ (g.merge h).merge k = g.merge (h.merge k) := by
  intro g h k
  have hm : g.canMerge h = true := by decide
  have hk : h.canMerge k = true := by decide
  obtain ⟨hrun, hthird⟩ := merge_keeps_outcome (g := g) (h := h) (by decide) (by decide) hm
  refine ⟨by decide, by decide, hm, by decide, by decide, ?_, by decide, ?_, by decide, ?_, hk, (hthird k).1.2 hk,
    (hthird k).2 hk⟩
  · rw [hrun]
    decide
  · rw [hrun]
    decide
  · rw [hrun]
    decide

/-- Joins keep lengths from getting negative. -/
theorem length_nonneg_of_mem_pushMerged {done : List Group} (hdone : ∀ f ∈ done, 0 ≤ f.length) (hg : 0 ≤ g.length) :
    ∀ f ∈ pushMerged done g, 0 ≤ f.length := by
  cases done with
  | nil => simpa [pushMerged] using hg
  | cons last done =>
    obtain ⟨hlast, hrest⟩ := List.forall_mem_cons.1 hdone
    rw [pushMerged]
    split
    · exact List.forall_mem_cons.2 ⟨Int.add_nonneg hlast hg, hrest⟩
    · exact List.forall_mem_cons.2 ⟨hg, hdone⟩

end Group

namespace Pattern

theorem runAll_cons (t : Text) (g : Group) (gs : List Group) :
    runAll t (g :: gs) = (g.run t).bind fun ok => if ok then runAll t gs else some false := by
  rw [runAll]
  cases g.run t <;> rfl

theorem runAll_append (t : Text) (gs hs : List Group) :
    runAll t (gs ++ hs) = (runAll t gs).bind fun ok => if ok then runAll t hs else some false := by
  induction gs with
  | nil => rfl
  | cons g gs ih =>
    rw [List.cons_append, runAll_cons, runAll_cons, ih]
    cases g.run t with
    | none => rfl
    | some ok => cases ok <;> rfl

theorem runAll_singleton (t : Text) (g : Group) : runAll t [g] = g.run t := by
  rw [runAll_cons]
  cases g.run t with
  | none => rfl
  | some ok => cases ok <;> rfl

/-- Appending a group to the joined ones keeps the outcome. -/
theorem runAll_pushMerged {done : List Group} {g : Group} (hdone : ∀ f ∈ done, 0 ≤ f.length) (hg : 0 ≤ g.length)
    (t : Text) : runAll t (Group.pushMerged done g).reverse = runAll t (done.reverse ++ [g]) := by
  cases done with
  | nil => rfl
  | cons last done =>
    rw [Group.pushMerged]
    split
    · rename_i hm
      have hpair : runAll t [last.merge g] = runAll t [last, g] := by
        rw [runAll_singleton, Group.run_merge (hdone last (by simp)) hg hm, runAll_cons, runAll_singleton]
      rw [List.reverse_cons, List.reverse_cons, List.append_assoc, runAll_append, hpair, ← runAll_append]
      rfl
    · rw [List.reverse_cons]

/-- Groups of no negative length are tested like the joined ones, whether or not they lie side by side within the text. -/
theorem runAll_mergeAll {gs : List Group} (h : ∀ g ∈ gs, 0 ≤ g.length) (t : Text) :
    runAll t (Group.mergeAll gs) = runAll t gs := by
  have hfold (done : List Group) (hdone : ∀ f ∈ done, 0 ≤ f.length) :
      runAll t (gs.foldl Group.pushMerged done).reverse = runAll t (done.reverse ++ gs) := by
    induction gs generalizing done with
    | nil => simp
    | cons g gs ih =>
      obtain ⟨hg, hgs⟩ := List.forall_mem_cons.1 h
      rw [List.foldl_cons, ih hgs _ (Group.length_nonneg_of_mem_pushMerged hdone hg), runAll_append,
        runAll_pushMerged hdone hg, ← runAll_append, List.append_assoc]
      rfl
  exact hfold [] (by simp)

end Pattern
end PaymentIdentifiers.Swift
