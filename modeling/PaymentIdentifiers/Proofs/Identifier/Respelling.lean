import PaymentIdentifiers.Proofs.Iban.Printing
import PaymentIdentifiers.Proofs.Identifier.Provenance
import PaymentIdentifiers.Proofs.Text.Respelling

/-!
# Identifiers in other spellings

An account number or a creditor identifier is read from every respelling of its text, with blanks also within the
country code and the check digits, and from no other text. The printed form of an account number is one of these
respellings.
-/
namespace PaymentIdentifiers

section
variable {t : Text}

/-- Reading that goes by the canonical form and keeps it reads an identifier from the respellings of its text only. -/
theorem eq_ok_iff_respelled {α : Type} {read : Text → Except Rejection α} {text : α → Text}
    (hcongr : ∀ v w : Text, v.canonical = w.canonical → read v = (read w).mapError (Rejection.about v))
    (htext : ∀ v x, read v = .ok x → text x = v.canonical) {x : α} (h : read (text x) = .ok x) :
    read t = .ok x ↔ Text.Respelled (text x) t := by
  have hcan : Text.IsCanonical (text x) := by
    rw [htext _ _ h]
    exact Text.isCanonical_canonical _
  rw [Text.respelled_iff hcan]
  constructor
  · intro ht
    exact (htext _ _ ht).symm
  · intro ht
    rw [hcongr t (text x) (ht.trans hcan.canonical_eq.symm), h]
    rfl

theorem Iban.parse_eq_ok_iff_respelled {x : Iban} (h : parse x.text = .ok x) :
    parse t = .ok x ↔ Text.Respelled x.text t :=
  eq_ok_iff_respelled (fun _ _ => parse_congr) (fun _ _ hv => (parse_eq_ok_iff.1 hv).1) h

theorem CreditorIdentifier.parse_eq_ok_iff_respelled {x : CreditorIdentifier} (h : parse x.text = .ok x) :
    parse t = .ok x ↔ Text.Respelled x.text t :=
  eq_ok_iff_respelled (fun _ _ => parse_congr) (fun _ _ hv => (parse_eq_ok_iff.1 hv).1) h

theorem Iban.parse_of_respelled_printable {x : Iban} (h : parse x.text = .ok x) (ht : Text.Respelled x.printable t) :
    parse t = .ok x := by
  rw [parse_congr (ht.canonical_eq.trans (canonical_printable x)), h]
  rfl

end

/-- In print an account number stands in groups of four, and it is read from every respelling of its text or of its
printed form. A creditor identifier is read from every respelling of its text. Neither is read from any other text. -/
theorem read_from_respelled :
    (∀ x, Obtained (.iban x) → Iban.PrintedAs x.text x.printable ∧
      (∀ t, Iban.parse t = .ok x ↔ Text.Respelled x.text t) ∧
      ∀ t, Text.Respelled x.printable t → Iban.parse t = .ok x) ∧
    (∀ x, Obtained (.creditorIdentifier x) → ∀ t, CreditorIdentifier.parse t = .ok x ↔ Text.Respelled x.text t) := by
  refine ⟨fun x hx => ?_, fun x hx t => ?_⟩
  · have hread := Iban.parse_text_of_obtained hx
    exact ⟨Iban.printedAs_printable hread, fun t => Iban.parse_eq_ok_iff_respelled hread,
      fun t => Iban.parse_of_respelled_printable hread⟩
  · exact CreditorIdentifier.parse_eq_ok_iff_respelled (CreditorIdentifier.parse_text_of_obtained hx)

/-- A Norwegian account number is read from its printed form with one more blank and one capital less, and a German
creditor identifier with blanks within the country code and the check digits. -/
theorem read_from_respelled_no :
    Obtained (.iban ⟨"NO9386011117947"⟩) ∧
      Iban.PrintedAs "NO9386011117947" "NO93 8601 1117 947" ∧
      Text.Respelled "NO93 8601 1117 947" "n\u2003O93 8601 1117 947" ∧
      Iban.parse "n\u2003O93 8601 1117 947" = .ok ⟨"NO9386011117947"⟩ ∧
      Obtained (.creditorIdentifier ⟨"DE98ZZZ09999999999"⟩) ∧
      Text.Respelled "DE98ZZZ09999999999" "D\u3000e9\n8zZz09999999999 " ∧
      CreditorIdentifier.parse "D\u3000e9\n8zZz09999999999 " = .ok ⟨"DE98ZZZ09999999999"⟩ := by
  have hiban : Obtained (.iban ⟨"NO9386011117947"⟩) :=
    .ibanBuilt _ _ (Iban.ofArguments_text_eq_ok_iff.2 Iban.fromParts_no)
  have hcreditor : Obtained (.creditorIdentifier ⟨"DE98ZZZ09999999999"⟩) :=
    .read .creditorIdentifier (.text "DE98ZZZ09999999999") (by decide +kernel)
  have hprintable : Iban.printable ⟨"NO9386011117947"⟩ = "NO93 8601 1117 947" := by decide +kernel
  obtain ⟨hprinted, -, hread⟩ := read_from_respelled.1 _ hiban
  rw [hprintable] at hprinted hread
  have hrespelled : Text.Respelled "NO93 8601 1117 947" "n\u2003O93 8601 1117 947" := by
    rw [show "NO93 8601 1117 947".toList = 'N' :: "O93 8601 1117 947".toList by decide +kernel,
      show "n\u2003O93 8601 1117 947".toList = 'n' :: '\u2003' :: "O93 8601 1117 947".toList by decide +kernel]
    exact .letter (.inr (.inr rfl)) (.blank rfl (.refl _))
  have hspread : Text.Respelled "DE98ZZZ09999999999" "D\u3000e9\n8zZz09999999999 " :=
    (Text.respelled_iff (Text.isCanonical_of_upperOrDigit hcreditor.isCanonical.isUpperOrDigit) _).2 (by decide +kernel)
  exact ⟨hiban, hprinted, hrespelled, hread _ hrespelled, hcreditor, hspread,
    (read_from_respelled.2 _ hcreditor _).2 hspread⟩

end PaymentIdentifiers
