import PaymentIdentifiers.Proofs.Sheet.Lines
import PaymentIdentifiers.Proofs.Sheet.Runs

/-!
# The numbers of rows and of lines

In a text without quotes, each row is about a line with something on it. The number of the row counts the header and
these lines, and so it is the number of its line only if no line before it is left empty.
-/
namespace PaymentIdentifiers.Sheet

/-- The lines of a text with something on them, with their numbers. -/
def filledLines (t : Text) : List (Text × Nat) := ((lines t).zipIdx 1).filter fun l => !isVacant l.1

/-- How many of the lines before the one with the number have nothing on them. -/
def vacantBefore (t : Text) (n : Nat) : Nat := ((lines t).take (n - 1)).countP isVacant

/-- The row says what is reported on the cell of the record on a line. -/
def Row.IsAbout (d : Dialect) (k : Kind) (index : Nat) (row : Row) (l : Text) : Prop :=
  ∃ r, recordOf d l = .ok r ∧ row.Reports k (r.getD index [])

variable {d : Dialect} {k : Kind} {index : Nat} {ls : List Text} {rs : List Record} {t : Text}

/-- By induction on the lines: a row is `n` further than the first row if its line is `n` filled lines further than the
first line. -/
theorem number_rowsFor_lines (h : List.Forall₂ (StandsOn d) ls rs) (m n : Nat) :
    List.Forall₂ (fun (l : Text × Nat) row => Row.IsAbout d k index row l.1 ∧ m ≤ l.2 ∧
        row.number + m + (ls.take (l.2 - m)).countP isVacant = l.2 + n)
      ((ls.zipIdx m).filter fun l => !isVacant l.1) (rowsFor k index n rs).value := by
  induction h generalizing m n with
  | nil => exact .nil
  | @cons l r ls rs hrecord _ ih =>
    -- behind the first line, one more line stands before all others
    have htake {i : Nat} (hi : m + 1 ≤ i) : (l :: ls).take (i - m) = l :: ls.take (i - (m + 1)) := by
      rw [show i - m = i - (m + 1) + 1 by omega, List.take_succ_cons]
    rw [List.zipIdx_cons]
    cases hvacant : isVacant l with
    | true =>
      rw [List.filter_cons_of_neg (by simp [hvacant]), hrecord.empty_iff.2 hvacant]
      refine (ih (m + 1) n).imp fun line row ⟨habout, hle, hnumber⟩ => ⟨habout, by omega, ?_⟩
      rw [htake hle, List.countP_cons_of_pos hvacant]
      omega
    | false =>
      have hr : r ≠ [] := fun hempty => by simp [hrecord.empty_iff.1 hempty] at hvacant
      rw [List.filter_cons_of_pos (by simp [hvacant]), value_rowsFor_cons k index n hr]
      refine .cons ⟨⟨r, hrecord.read, reports_rowFor k n _⟩, Nat.le_refl m, ?_⟩ ?_
      · simp [number_rowFor]
        omega
      · refine (ih (m + 1) (n + 1)).imp fun line row ⟨habout, hle, hnumber⟩ => ⟨habout, by omega, ?_⟩
        rw [htake hle, List.countP_cons_of_neg (by simp [hvacant])]
        omega

/-- Behind a header on the first line, the number of a row is less than that of its line by the vacant lines before. -/
theorem number_rowsFor_behind (k : Kind) (index : Nat) {header : Record}
    (h : List.Forall₂ (StandsOn d) (lines t) (header :: rs)) (hheader : header ≠ []) :
    List.Forall₂ (fun (l : Text × Nat) row => Row.IsAbout d k index row l.1 ∧ row.number + vacantBefore t l.2 = l.2)
      (filledLines t).tail (rowsFor k index 2 rs).value := by
  rw [filledLines]
  obtain ⟨first, ls, hfirst, hrest, hlines⟩ := List.forall₂_cons_right_iff.1 h
  have hfilled : isVacant first = false := by simpa [hfirst.empty_iff] using hheader
  rw [hlines, List.zipIdx_cons, List.filter_cons_of_pos (by simp [hfilled]), List.tail_cons]
  refine (number_rowsFor_lines hrest 2 2).imp fun line row ⟨habout, hle, hnumber⟩ => ⟨habout, ?_⟩
  have htake : (lines t).take (line.2 - 1) = first :: ls.take (line.2 - 2) := by
    rw [hlines, show line.2 - 1 = line.2 - 2 + 1 by omega, List.take_succ_cons]
  rw [vacantBefore, htake, List.countP_cons_of_neg (by simp [hfilled])]
  omega

theorem Run.read_eq {folder : Folder} {path column kindName : Text} {content : ByteArray}
    (x : Run folder path column kindName) (hbytes : folder.read? (.ofText path) = some (.ok content)) :
    read (.detect (decode content)) (decode content) = ⟨x.header :: x.records, none⟩ := by
  have hplace := x.place
  rw [tableAt?, hbytes] at hplace
  exact Option.some.inj hplace

/-- The column was found, so the header is not empty. -/
theorem Run.header_ne_nil {folder : Folder} {path column kindName : Text} (x : Run folder path column kindName) :
    x.header ≠ [] := by
  intro hempty
  have hfound := folded_of_columnIndex? x.present
  simp [hempty] at hfound

/-- Numbers are right where nothing is to be added to them. -/
theorem forall₂_number_eq_iff {numbered : List (Text × Nat)} {rows : List Row} {missing : Nat → Nat}
    (h : List.Forall₂ (fun l row => row.number + missing l.2 = l.2) numbered rows) :
    List.Forall₂ (fun l row => row.number = l.2) numbered rows ↔ ∀ l ∈ numbered, missing l.2 = 0 := by
  induction h with
  | nil => simp
  | @cons l row numbered rows hnumber _ ih =>
    rw [List.forall₂_cons, List.forall_mem_cons, ih]
    exact and_congr_left fun _ => by omega

/-- In a text without the quote of its dialect, the rows are about the filled lines behind the header, in their order,
and each of them has the number of its line less the vacant lines before it. So all of them have the numbers of their
lines if and only if no filled line stands behind a vacant one. -/
theorem rowNumbers_of_lines {folder : Folder} {path column kindName : Text} {content : ByteArray} {rows : List Row}
    (hbytes : folder.read? (.ofText path) = some (.ok content))
    (hquote : (Dialect.detect (decode content)).quote ∉ decode content)
    (hrun : (validateFile folder path column kindName).value = .ok ⟨[], rows⟩) :
    ∃ k header first index, kindOf? kindName = some k ∧ (lines (decode content)).head? = some first ∧
      recordOf (.detect (decode content)) first = .ok header ∧ columnIndex? header column = some index ∧
      List.Forall₂ (fun l row => Row.IsAbout (.detect (decode content)) k index row l.1 ∧
        row.number + vacantBefore (decode content) l.2 = l.2) (filledLines (decode content)).tail rows ∧
      (List.Forall₂ (fun l row => row.number = l.2) (filledLines (decode content)).tail rows ↔
        ∀ l ∈ (filledLines (decode content)).tail, vacantBefore (decode content) l.2 = 0) := by
  obtain ⟨x, rfl⟩ := Run.exists_of_value hrun
  have hread := x.read_eq hbytes
  have hlines := standsOn_lines hquote (by rw [hread])
  rw [hread] at hlines
  have hnumbers := number_rowsFor_behind x.kind x.index hlines x.header_ne_nil
  obtain ⟨first, ls, hfirst, hrest, hcons⟩ := List.forall₂_cons_right_iff.1 hlines
  refine ⟨x.kind, x.header, first, x.index, x.known, by rw [hcons]; rfl, hfirst.read, x.present, hnumbers, ?_⟩
  exact forall₂_number_eq_iff (hnumbers.imp fun _ _ hrow => hrow.2)

/-- A table with a vacant line between two codes. The row about the code behind it has the number of the vacant line. -/
theorem rowNumbers_of_lines_gap :
    let content : ByteArray := "BIC\nPSSTFRPP\n\nPSSTZZPPXXX\n".toUTF8
    let folder : Folder := .ofFiles [(["codes.csv".toList], content)]
    let rows : List Row := [⟨2, "PSST***PXXX", true, [], "PSSTFRPPXXX"⟩,
      ⟨3, "PSST***PXXX", false, "Unbekannter Laendercode.", []⟩]
    folder.read? (.ofText "codes.csv") = some (.ok content) ∧ NoQuote (decode content) ∧
      (Dialect.detect (decode content)).quote ∉ decode content ∧
      (validateFile folder "codes.csv" "bic" "bic").value = .ok ⟨[], rows⟩ ∧
      filledLines (decode content) = [("BIC".toList, 1), ("PSSTFRPP".toList, 2), ("PSSTZZPPXXX".toList, 4)] ∧
      vacantBefore (decode content) 4 = 1 ∧
      ¬ List.Forall₂ (fun l row => row.number = l.2) (filledLines (decode content)).tail rows := by
  intro content folder rows
  have hbytes : folder.read? (.ofText "codes.csv") = some (.ok content) := rfl
  have hnoquote : NoQuote (decode content) := by decide +kernel
  have hquote := Dialect.quote_detect_not_mem hnoquote
  have hrun : (validateFile folder "codes.csv" "bic" "bic").value = .ok ⟨[], rows⟩ := by decide +kernel
  have hlines : filledLines (decode content) =
      [("BIC".toList, 1), ("PSSTFRPP".toList, 2), ("PSSTZZPPXXX".toList, 4)] := by
    decide +kernel
  have hvacant : vacantBefore (decode content) 4 = 1 := by decide +kernel
  refine ⟨hbytes, hnoquote, hquote, hrun, hlines, hvacant, fun hnumbers => ?_⟩
  obtain ⟨-, -, -, -, -, -, -, -, -, hright⟩ := rowNumbers_of_lines hbytes hquote hrun
  have hzero := hright.1 hnumbers ("PSSTZZPPXXX".toList, 4) (by rw [hlines]; decide)
  rw [hvacant] at hzero
  cases hzero

/-- A code on the third line, behind a vacant one, has the row with number two. -/
theorem rowNumbers_not_lines :
    let content : ByteArray := "BIC\n\nPSSTFRPP\n".toUTF8
    NoQuote (decode content) ∧ '\r' ∉ decode content ∧
      ¬ ∀ rows, (validateFile (.ofFiles [(["data.csv".toList], content)]) "data.csv" "bic" "bic").value = .ok ⟨[], rows⟩ →
        List.Forall₂ (fun l row => row.number = l.2) (filledLines (decode content)).tail rows := by
  intro content
  have hrun : (validateFile (.ofFiles [(["data.csv".toList], content)]) "data.csv" "bic" "bic").value =
      .ok ⟨[], [⟨2, "PSST***PXXX", true, [], "PSSTFRPPXXX"⟩]⟩ := by
    decide +kernel
  have hlines : filledLines (decode content) = [("BIC".toList, 1), ("PSSTFRPP".toList, 3)] := by decide +kernel
  refine ⟨by decide +kernel, by decide +kernel, fun h => ?_⟩
  have hnumbers := h _ hrun
  rw [hlines] at hnumbers
  cases hnumbers with
  | cons hnumber => cases hnumber

end PaymentIdentifiers.Sheet
