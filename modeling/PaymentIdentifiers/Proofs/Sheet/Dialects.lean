import PaymentIdentifiers.Sheet.Detection

/-!
# Dialects of texts without quotes

A text without quotes gives no hint by quoted cells. Its dialect is the one its delimiters hint at, and the quote of this
dialect does not occur in the text.
-/
namespace PaymentIdentifiers.Sheet

theorem forall_mem_delimiters {P : Char → Prop} : (∀ d ∈ delimiters, P d) ↔ P ',' ∧ P '\t' ∧ P ';' := by
  simp [delimiters]

/-- No character of the text is a quote. -/
def NoQuote (t : Text) : Prop := ∀ c ∈ t, isQuote c = false

instance (t : Text) : Decidable (NoQuote t) :=
  decidable_of_iff (t.all fun c => !isQuote c) (by simp [NoQuote])

theorem NoQuote.take {t : Text} (h : NoQuote t) (n : Nat) : NoQuote (t.take n) :=
  fun c hc => h c (List.mem_of_mem_take hc)

theorem openAfterSeparator?_eq_none {t : Text} (h : NoQuote t) : openAfterSeparator? t = none := by
  fun_cases openAfterSeparator? t with
  | case1 d q t hopen => simp [h q (by simp)] at hopen
  | case2 => rfl
  | case3 d q t _ hopen => simp [h q (by simp)] at hopen
  | case4 => rfl
  | case5 => rfl

theorem openAtLine?_eq_none {t : Text} (h : NoQuote t) (before : Option Char) : openAtLine? before t = none := by
  cases t with
  | nil => rfl
  | cons q t => simp [openAtLine?, h q (by simp)]

theorem Shape.match?_eq_none (shape : Shape) (before : Option Char) {t : Text} (h : NoQuote t) :
    shape.match? before t = none := by
  cases shape <;> simp [match?, openAfterSeparator?_eq_none h, openAtLine?_eq_none h]

theorem Shape.sightings_eq_nil (shape : Shape) (skip : Nat) (before : Option Char) {t : Text} (h : NoQuote t) :
    shape.sightings skip before t = [] := by
  induction t generalizing skip before with
  | nil => rfl
  | cons c t ih =>
    have htail : NoQuote t := fun x hx => h x (List.mem_cons_of_mem c hx)
    simp only [sightings, shape.match?_eq_none before h, ih _ _ htail, ite_self]

theorem quoteHint?_eq_none {t : Text} (h : NoQuote t) : quoteHint? t = none := by
  have hfound : sightingsIn t = [] := by
    simp [sightingsIn, Shape.all, Shape.sightings_eq_nil _ _ _ h]
  simp [quoteHint?, hfound, mostFrequent?]

/-- The dialect of a hinted delimiter, or the standard one without a hint. -/
def Dialect.separated (hint : Option (Char × Bool)) : Dialect :=
  hint.elim .standard fun (d, spaced) => ⟨d, '"', false, spaced⟩

theorem Dialect.detect_of_noQuote {t : Text} (h : NoQuote t) :
    detect t = separated (delimiterHint? (t.take sampleSize)) := by
  simp only [detect, ofSample, quoteHint?_eq_none (h.take sampleSize)]
  cases delimiterHint? (t.take sampleSize) <;> rfl

theorem Dialect.quote_separated (hint : Option (Char × Bool)) : (separated hint).quote = '"' := by
  cases hint <;> rfl

theorem Dialect.quote_detect_not_mem {t : Text} (h : NoQuote t) : (detect t).quote ∉ t := by
  rw [detect_of_noQuote h, quote_separated]
  exact fun hmem => absurd (h _ hmem) (by decide)

end PaymentIdentifiers.Sheet
