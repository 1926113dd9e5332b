import PaymentIdentifiers.Bic
import PaymentIdentifiers.Proofs.Text.Ends
import PaymentIdentifiers.Proofs.Text.Shape

/-!
# Which texts are institution codes

A text is read in upper case and without its outer blanks. Its shape is tested first and its country second, and what
passes is completed to eleven characters, which stand for themselves from then on.
-/
namespace PaymentIdentifiers.Bic

/-- The full form of a code: the primary office is written out. -/
def completed (t : Text) : Text := if t.length = 8 then t ++ primaryOffice else t

/-- What the two checks ask for. -/
structure Passes (t : Text) : Prop where
  formed : hasShape t = true
  listed : t.slice 4 6 ∈ Country.codes

theorem allAlphanum_of_hasShape {t : Text} (h : hasShape t = true) : t.AllAlphanum := by
  rw [hasShape, Bool.and_eq_true] at h
  refine Text.forall_mem_of_fits (fun test htest c hc => ?_) (fun c hc => hc) h.1
  rw [List.eq_of_mem_replicate htest] at hc
  exact Text.isAlphanum_of_isAlpha hc

theorem length_of_hasShape {t : Text} (h : hasShape t = true) : t.length = 8 ∨ t.length = 11 := by
  rw [hasShape, Bool.and_eq_true] at h
  simpa using h.2

theorem length_completed {t : Text} (h : hasShape t = true) : (completed t).length = 11 := by
  unfold completed
  split
  · rename_i hlen
    rw [List.length_append, hlen]
    rfl
  · rename_i hlen
    exact (length_of_hasShape h).resolve_left hlen

theorem slice_completed {t : Text} (h : hasShape t = true) : (completed t).slice 4 6 = t.slice 4 6 := by
  have hlen : 6 ≤ t.length := by
    rcases length_of_hasShape h with hlen | hlen <;> omega
  unfold completed
  split
  · rw [Text.slice, List.take_append_of_le_length hlen, Text.slice]
  · rfl

theorem hasShape_completed {t : Text} (h : hasShape t = true) : hasShape (completed t) = true := by
  have hlength := length_completed h
  rw [hasShape, Bool.and_eq_true] at h ⊢
  refine ⟨?_, by simp [hlength]⟩
  unfold completed
  split
  · rename_i hlen
    have hoffice : ∀ c ∈ primaryOffice, c.isAlphanum = true := List.all_eq_true.1 (by decide)
    exact (Text.fits_append_iff (by simp [hlen]) primaryOffice).2 ⟨h.1, hoffice⟩
  · exact h.1

/-- A completed code passes again, and there is nothing left to complete. -/
theorem Passes.completed {t : Text} (h : Passes t) : Passes (completed t) :=
  ⟨hasShape_completed h.formed, slice_completed h.formed ▸ h.listed⟩

theorem completed_completed {t : Text} (h : hasShape t = true) : completed (completed t) = completed t := by
  rw [completed, if_neg (by rw [length_completed h]; decide)]

theorem isUpperOrDigit_completed {t : Text} (h : ∀ c ∈ t, Text.isUpperOrDigit c = true) :
    ∀ c ∈ completed t, Text.isUpperOrDigit c = true := by
  unfold completed
  split
  · have hoffice : ∀ c ∈ primaryOffice, Text.isUpperOrDigit c = true := List.all_eq_true.1 (by decide)
    exact List.forall_mem_append.2 ⟨h, hoffice⟩
  · exact h

/-- The exits of reading a code: one for each check that can fail, and the completed code behind both. -/
inductive Reads (v : Text) : Except Rejection Bic → Prop
  | notWellFormed (h : hasShape v.trim.asciiUpper = false) : Reads v (.error ⟨.bic, v, .notWellFormed⟩)
  | unknownCountry (hs : hasShape v.trim.asciiUpper = true) (h : v.trim.asciiUpper.slice 4 6 ∉ Country.codes) :
      Reads v (.error ⟨.bic, v, .unknownCountry⟩)
  | accepted (h : Passes v.trim.asciiUpper) : Reads v (.ok ⟨completed v.trim.asciiUpper⟩)

theorem isUpperOrDigit_of_hasShape {v : Text} (h : hasShape v.trim.asciiUpper = true) :
    ∀ c ∈ v.trim.asciiUpper, Text.isUpperOrDigit c = true :=
  (allAlphanum_of_hasShape h).isUpperOrDigit_asciiUpper

theorem reads_parse (v : Text) : Reads v (parse v) := by
  have hcode (h : hasShape v.trim.asciiUpper = true) :=
    Country.ofAlpha2?_isNone_iff
      (((Text.isCanonical_of_upperOrDigit (isUpperOrDigit_of_hasShape h)).take 6).drop 4)
  fun_cases parse v with
  | case1 _ hs => exact .notWellFormed (by simpa using hs)
  | case2 _ hs hc =>
    rw [Bool.not_eq_true', Bool.not_eq_false] at hs
    exact .unknownCountry hs ((hcode hs).1 hc)
  | case3 _ hs hc =>
    rw [Bool.not_eq_true', Bool.not_eq_false] at hs
    exact .accepted ⟨hs, not_not.1 (mt (hcode hs).2 hc)⟩

theorem parse_eq_ok_iff {v : Text} {x : Bic} :
    parse v = .ok x ↔ x.text = completed v.trim.asciiUpper ∧ Passes v.trim.asciiUpper := by
  have hreads := reads_parse v
  generalize parse v = r at hreads
  constructor
  · rintro rfl
    cases hreads with
    | accepted h => exact ⟨rfl, h⟩
  · rintro ⟨htext, h⟩
    cases hreads with
    | notWellFormed hs => simp [h.formed] at hs
    | unknownCountry hs hc => exact absurd h.listed hc
    | accepted => rw [← htext]

theorem isUpperOrDigit_of_parse {v : Text} {x : Bic} (h : parse v = .ok x) :
    ∀ c ∈ x.text, Text.isUpperOrDigit c = true := by
  obtain ⟨htext, hp⟩ := parse_eq_ok_iff.1 h
  rw [htext]
  exact isUpperOrDigit_completed (isUpperOrDigit_of_hasShape hp.formed)

/-- A code that was read is read from its own text. -/
theorem parse_text_of_parse {v : Text} {x : Bic} (h : parse v = .ok x) : parse x.text = .ok x := by
  obtain ⟨htext, hp⟩ := parse_eq_ok_iff.1 h
  have hcan := Text.isCanonical_of_upperOrDigit (isUpperOrDigit_of_parse h)
  have hpasses := hp.completed
  have hfull := completed_completed hp.formed
  rw [← htext] at hpasses hfull
  rw [parse_eq_ok_iff, hcan.trim_eq, hcan.asciiUpper_eq]
  exact ⟨hfull.symm, hpasses⟩

end PaymentIdentifiers.Bic
