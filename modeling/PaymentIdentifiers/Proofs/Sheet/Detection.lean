import PaymentIdentifiers.Proofs.Sheet.Dialects

/-!
# What a detected dialect can be

Whatever the text is, its dialect separates cells by one of the delimiters that are looked for, and quotes them with one
of the two quotes.
-/
namespace PaymentIdentifiers.Sheet

/-- The most frequent element is one of the elements. -/
theorem mem_of_mostFrequent? {α : Type} [BEq α] {xs : List α} {x : α} (h : mostFrequent? xs = some x) : x ∈ xs := by
  suffices hbest : ∀ b ∈ mostFrequent? xs, b ∈ xs from hbest x h
  rw [mostFrequent?]
  refine List.foldlRecOn (motive := fun best => ∀ b ∈ best, b ∈ xs) xs _ (by simp) fun best hbest y hy => ?_
  cases best with
  | none => simpa using hy
  | some b =>
    dsimp only
    split
    · simpa using hy
    · exact hbest

section
variable {t rest : Text} {before : Option Char} {q c : Char} {spaced : Bool} {shape : Shape} {s : Sighting}

theorem isQuote_of_openAfterSeparator? (h : openAfterSeparator? t = some (c, spaced, q, rest)) : isQuote q = true := by
  revert h
  fun_cases openAfterSeparator? t with
  | case1 d q' t hopen =>
    rintro ⟨⟩
    exact (Bool.and_eq_true_iff.1 hopen).2
  | case2 => simp
  | case3 d q' t _ hopen =>
    rintro ⟨⟩
    exact (Bool.and_eq_true_iff.1 hopen).2
  | case4 => simp
  | case5 => simp

theorem isQuote_of_openAtLine? (h : openAtLine? before t = some (q, rest)) : isQuote q = true := by
  revert h
  fun_cases openAtLine? before t with
  | case1 q' t hopen =>
    rintro ⟨⟩
    exact (Bool.and_eq_true_iff.1 hopen).1
  | case2 => simp
  | case3 => simp

theorem isQuote_of_match? (h : shape.match? before t = some (s, rest)) : isQuote s.quote = true := by
  cases shape with
  | between =>
    simp only [Shape.match?, Option.bind_eq_bind, Option.bind_eq_some_iff] at h
    obtain ⟨⟨d, spaced, q, r⟩, hopen, r', -, h⟩ := h
    cases h
    exact isQuote_of_openAfterSeparator? hopen
  | lineStart =>
    simp only [Shape.match?, Option.bind_eq_bind, Option.bind_eq_some_iff] at h
    obtain ⟨⟨q, r⟩, hopen, r', -, h⟩ := h
    cases h
    exact isQuote_of_openAtLine? hopen
  | lineEnd =>
    simp only [Shape.match?, Option.bind_eq_bind, Option.bind_eq_some_iff] at h
    obtain ⟨⟨d, spaced, q, r⟩, hopen, r', -, h⟩ := h
    cases h
    exact isQuote_of_openAfterSeparator? hopen
  | alone =>
    simp only [Shape.match?, Option.bind_eq_bind, Option.bind_eq_some_iff] at h
    obtain ⟨⟨q, r⟩, hopen, r', -, h⟩ := h
    cases h
    exact isQuote_of_openAtLine? hopen

/-- By induction on the text. -/
theorem isQuote_of_mem_sightings (skip : Nat) (h : s ∈ shape.sightings skip before t) : isQuote s.quote = true := by
  induction t generalizing skip before with
  | nil => cases h
  | cons c t ih =>
    rw [Shape.sightings] at h
    split at h
    · split at h
      · rename_i s' rest hmatch
        rcases List.mem_cons.1 h with rfl | h
        · exact isQuote_of_match? hmatch
        · exact ih _ h
      · exact ih _ h
    · exact ih _ h

theorem isQuote_of_mem_sightingsIn (h : s ∈ sightingsIn t) : isQuote s.quote = true := by
  rw [sightingsIn] at h
  cases hfind : (Shape.all.map fun shape => shape.sightings 0 none t).find? fun ss => !ss.isEmpty with
  | none => simp [hfind] at h
  | some ss =>
    obtain ⟨shape, -, rfl⟩ := List.mem_map.1 (List.mem_of_find?_eq_some hfind)
    rw [hfind, Option.getD_some] at h
    exact isQuote_of_mem_sightings 0 h

theorem quoteHint?_known {hint : QuoteHint} (h : quoteHint? t = some hint) :
    isQuote hint.quote = true ∧ ∀ d ∈ hint.delimiter, d ∈ delimiters := by
  simp only [quoteHint?] at h
  split at h
  · cases h
  · rename_i quote hquote
    have hknown : isQuote quote = true := by
      obtain ⟨s, hs, rfl⟩ := List.mem_map.1 (mem_of_mostFrequent? hquote)
      exact isQuote_of_mem_sightingsIn hs
    split at h
    · cases h
      exact ⟨hknown, by simp⟩
    · rename_i d hd
      cases h
      refine ⟨hknown, fun e he => ?_⟩
      obtain rfl := Option.some.inj he
      simpa using (List.mem_filter.1 (mem_of_mostFrequent? hd)).2

theorem mem_delimiters_of_delimiterHint? {d : Char} (h : delimiterHint? t = some (d, spaced)) : d ∈ delimiters := by
  obtain ⟨e, hguess, he⟩ := Option.map_eq_some_iff.1 h
  obtain ⟨n, -, hin⟩ := List.exists_of_findSome?_eq_some hguess
  obtain ⟨percent, -, hfind⟩ := List.exists_of_findSome?_eq_some hin
  obtain ⟨p, hp, rfl⟩ := Option.map_eq_some_iff.1 hfind
  obtain ⟨f, hf, rfl⟩ := List.mem_map.1 (List.mem_of_find?_eq_some hp)
  cases he
  exact hf

end

/-- A dialect whose delimiter and quote are among those that are looked for. -/
structure Dialect.IsKnown (d : Dialect) : Prop where
  delimiter : d.delimiter ∈ delimiters
  quote : isQuote d.quote = true

theorem Dialect.isKnown_ofSample (sample : Text) : (ofSample sample).IsKnown := by
  have hstandard : Dialect.standard.IsKnown := ⟨by decide, by decide⟩
  unfold ofSample
  split
  · rename_i hint hhint
    obtain ⟨hquote, hdelimiter⟩ := quoteHint?_known hhint
    dsimp only
    split
    · rename_i d hd
      exact ⟨hdelimiter d hd, hquote⟩
    · rename_i d spaced _ hhint
      exact ⟨mem_delimiters_of_delimiterHint? hhint, hquote⟩
    · exact hstandard
  · split
    · rename_i d spaced hhint
      exact ⟨mem_delimiters_of_delimiterHint? hhint, rfl⟩
    · exact hstandard

/-- Every text is read in a known dialect. -/
theorem Dialect.isKnown_detect (t : Text) : (detect t).IsKnown := isKnown_ofSample _

end PaymentIdentifiers.Sheet
