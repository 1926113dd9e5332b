import PaymentIdentifiers.Text.Basic

/-!
# Joined texts and the pieces they are cut into

Texts that are joined with a separator between them hold its characters and their own, and counting a character counts
it in both. Cutting a joined text at its separators gives back the texts.
-/
namespace PaymentIdentifiers.Text

variable {sep t : Text} {ts : List Text} {c : Char}

theorem joined_cons_cons (sep t u : Text) (ts : List Text) :
    joined sep (t :: u :: ts) = t ++ (sep ++ joined sep (u :: ts)) := by
  rw [joined, joined, List.intercalate_cons_cons, List.append_assoc]

theorem joined_append (sep : Text) {us : List Text} (ht : ts ≠ []) (hu : us ≠ []) :
    joined sep (ts ++ us) = joined sep ts ++ (sep ++ joined sep us) := by
  obtain ⟨u, us, rfl⟩ := List.exists_cons_of_ne_nil hu
  induction ts with
  | nil => exact absurd rfl ht
  | cons t ts ih =>
    cases ts with
    | nil =>
      have hsingle : joined sep [t] = t := by rw [joined, List.intercalate_singleton]
      rw [List.singleton_append, joined_cons_cons, hsingle]
    | cons v vs =>
      rw [List.cons_append, List.cons_append, joined_cons_cons, ← List.cons_append, ih (List.cons_ne_nil v vs),
        joined_cons_cons]
      simp only [List.append_assoc]

theorem mem_joined (h : c ∈ joined sep ts) : c ∈ sep ∨ c ∈ ts.flatten := by
  induction ts with
  | nil => simp [joined] at h
  | cons t ts ih =>
    cases ts with
    | nil => exact .inr (by simpa [joined] using h)
    | cons u us =>
      rw [joined_cons_cons, List.mem_append, List.mem_append] at h
      rw [List.flatten_cons, List.mem_append]
      rcases h with ht | hsep | hrest
      · exact .inr (.inl ht)
      · exact .inl hsep
      · exact (ih hrest).imp_right .inr

theorem mem_joined_of_mem (sep : Text) (ht : t ∈ ts) (hc : c ∈ t) : c ∈ joined sep ts := by
  induction ts with
  | nil => cases ht
  | cons u us ih =>
    cases us with
    | nil =>
      obtain rfl := List.mem_singleton.1 ht
      simpa [joined] using hc
    | cons v vs =>
      rw [joined_cons_cons, List.mem_append, List.mem_append]
      rcases List.mem_cons.1 ht with rfl | ht
      · exact .inl hc
      · exact .inr (.inr (ih ht))

/-- There is one separator less than texts. -/
theorem count_joined (h : ∀ t ∈ ts, c ∉ t) : (joined sep ts).count c = sep.count c * (ts.length - 1) := by
  induction ts with
  | nil => simp [joined]
  | cons t ts ih =>
    have ht : t.count c = 0 := List.count_eq_zero.2 (h t List.mem_cons_self)
    cases ts with
    | nil => simpa [joined] using ht
    | cons u us =>
      have hrest := ih fun v hv => h v (List.mem_cons_of_mem t hv)
      rw [joined_cons_cons, List.count_append, List.count_append, ht, hrest]
      simp only [List.length_cons, Nat.add_sub_cancel, Nat.mul_succ]
      omega

/-- What is dropped of a separator is dropped between texts. -/
theorem filter_joined {p : Char → Bool} (h : ∀ c ∈ sep, p c = false) (ts : List Text) :
    (joined sep ts).filter p = ts.flatten.filter p := by
  have hsep : sep.filter p = [] := List.filter_eq_nil_iff.2 fun c hc => by simp [h c hc]
  induction ts with
  | nil => rfl
  | cons t ts ih =>
    cases ts with
    | nil => simp [joined]
    | cons u us => rw [joined_cons_cons, List.flatten_cons, List.filter_append, List.filter_append, ih, hsep,
        List.nil_append, ← List.filter_append]

/-- Blanks between texts are dropped with all other blanks. -/
theorem deleteBlanks_joined (h : ∀ c ∈ sep, isBlank c = true) (ts : List Text) :
    deleteBlanks (joined sep ts) = deleteBlanks ts.flatten :=
  filter_joined (fun c hc => by simp [h c hc]) ts

theorem cut_ne_nil (c : Char) (t : Text) : cut c t ≠ [] := by
  cases t with
  | nil => exact List.cons_ne_nil [] []
  | cons x t =>
    unfold cut
    split
    · exact List.cons_ne_nil [] _
    · split <;> exact List.cons_ne_nil _ _

theorem cut_append (s u : Text) : cut c (s ++ c :: u) = cut c s ++ cut c u := by
  induction s with
  | nil => simp [cut]
  | cons x s ih =>
    obtain ⟨piece, pieces, hpieces⟩ := List.exists_cons_of_ne_nil (cut_ne_nil c s)
    rw [List.cons_append, cut, cut, ih, hpieces]
    by_cases hx : x = c
    · rw [if_pos hx, if_pos hx]
      rfl
    · rw [if_neg hx, if_neg hx]
      rfl

theorem cut_of_not_mem (h : c ∉ t) : cut c t = [t] := by
  induction t with
  | nil => rfl
  | cons x t ih =>
    obtain ⟨hx, ht⟩ := not_or.1 (mt List.mem_cons.2 h)
    rw [cut, if_neg (Ne.symm hx), ih ht]

theorem cut_append_cons (h : c ∉ t) (u : Text) : cut c (t ++ c :: u) = t :: cut c u := by
  rw [cut_append, cut_of_not_mem h, List.singleton_append]

/-- Texts that are joined with a separator which none of them has are the pieces it cuts. -/
theorem cut_joined (hne : ts ≠ []) (h : ∀ t ∈ ts, c ∉ t) : cut c (joined [c] ts) = ts := by
  induction ts with
  | nil => exact absurd rfl hne
  | cons t ts ih =>
    have ht : c ∉ t := h t List.mem_cons_self
    cases ts with
    | nil => rw [joined, List.intercalate_singleton, cut_of_not_mem ht]
    | cons u us =>
      rw [joined_cons_cons, List.singleton_append, cut_append_cons ht,
        ih (List.cons_ne_nil u us) fun v hv => h v (List.mem_cons_of_mem t hv)]

/-- Between separators at an end, or next to each other, there is an empty piece. -/
theorem separated_of_nil_not_mem_cut (h : [] ∉ cut c t) : t.head? ≠ some c ∧ t.getLast? ≠ some c ∧ ¬ [c, c] <:+: t := by
  refine ⟨fun hhead => h ?_, fun hlast => h ?_, fun hdouble => h ?_⟩
  · obtain ⟨u, rfl⟩ := List.head?_eq_some_iff.1 hhead
    rw [cut, if_pos rfl]
    exact List.mem_cons_self
  · obtain ⟨s, rfl⟩ := List.getLast?_eq_some_iff.1 hlast
    rw [cut_append]
    exact List.mem_append_right _ List.mem_cons_self
  · obtain ⟨s, u, rfl⟩ := hdouble
    rw [List.append_assoc, List.cons_append, cut_append, List.singleton_append, cut, if_pos rfl]
    exact List.mem_append_right _ List.mem_cons_self

end PaymentIdentifiers.Text
