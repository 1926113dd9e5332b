import PaymentIdentifiers.Proofs.Iban.Printing
import PaymentIdentifiers.Proofs.Tool.Building
import PaymentIdentifiers.Proofs.Validation.EntryPoints

/-!
# Replies that can be believed

For texts, every tool that reads no file has a reply, and its first words say whether an identifier was read, built or
found; behind them stands what was found or what is wrong. What a building tool shows is accepted by the tool that
validates it, an account number even with the same reply.
-/
namespace PaymentIdentifiers

/-- The registered format for a country that is given as a text. -/
theorem Bban.layoutFor_text (c : Text) : layoutFor (.datum (.text c)) = .ok (layoutOf c.trim.asciiUpper) := rfl

namespace Kind

/-- How the reply of a builder begins when there is nothing to build. -/
def refusedOpening (k : Kind) : Text := k.title ++ " konnte nicht gebaut werden: "

/-- How the reply of a builder begins when it shows an identifier. -/
def builtOpening : Kind → Text
  | creditorIdentifier => "Glaeubiger-ID: "
  | k => k.validOpening

/-- No reply begins in both ways. -/
theorem not_builtOpening_of_refusedOpening {k : Kind} {t : Text} (h : k.refusedOpening <+: t) :
    ¬ k.builtOpening <+: t := by
  intro hbuilt
  have hnone : ¬ k.refusedOpening <+: k.builtOpening ∧ ¬ k.builtOpening <+: k.refusedOpening := by
    cases k <;> decide
  exact (List.prefix_or_prefix_of_prefix h hbuilt).elim hnone.1 hnone.2

end Kind

namespace Tool

theorem refusedOpening_prefix_cannotBuild (k : Kind) (reason : Text) :
    k.refusedOpening <+: (cannotBuild k reason).value :=
  List.prefix_append _ _

theorem text_cons_cons (l m : Text) (ls : Lines) : text (l :: m :: ls) = l ++ '\n' :: text (m :: ls) := by
  rw [text, Text.joined_cons_cons]
  rfl

theorem labelled_eq {label front : Text} (h : labelled label [] = front) (value : Text) :
    labelled label value = front ++ value := by
  rw [← h]
  simp [labelled]

/-- The line about a part, if there is one. -/
def partLine (front : Text) (part : Option Text) : Lines := part.toList.map fun t => front ++ t

/-- The lines about an account number; there is none about a part that its format does not have. -/
def ibanLines (x : Iban) : Lines :=
  ["IBAN gueltig: " ++ x.printable, "  Land:           " ++ x.countryCode, "  Pruefziffer:    " ++ x.checkDigits,
    "  BBAN:           " ++ x.bban] ++
  partLine "  Bankkennung:    " (x.field? .bank) ++ partLine "  Filiale:        " (x.field? .branch) ++
  partLine "  Nat. Pruefz.:   " (x.field? .nationalCheck) ++ partLine "  Kontonummer:    " (x.field? .account)

theorem describeIban_eq (x : Iban) : describeIban x = ibanLines x := by
  have hpart {label front : Text} (h : labelled label [] = front) (part : Option Text) :
      (part.map (labelled label)).toList = partLine front part := by
    cases part with
    | none => rfl
    | some t => exact congrArg (fun l => [l]) (labelled_eq h t)
  have hparts (line : Bban.Field → Option Text) : Bban.Field.all.filterMap line =
      (line .bank).toList ++ (line .branch).toList ++ (line .nationalCheck).toList ++ (line .account).toList := by
    simp [List.filterMap_eq_flatMap_toList, Bban.Field.all]
  have hland : labelled "Land" [] = "  Land:           " := by decide
  have hcheck : labelled "Pruefziffer" [] = "  Pruefziffer:    " := by decide
  have hbban : labelled "BBAN" [] = "  BBAN:           " := by decide
  have hbank : labelled (fieldLabel .bank) [] = "  Bankkennung:    " := by decide
  have hbranch : labelled (fieldLabel .branch) [] = "  Filiale:        " := by decide
  have hnational : labelled (fieldLabel .nationalCheck) [] = "  Nat. Pruefz.:   " := by decide
  have haccount : labelled (fieldLabel .account) [] = "  Kontonummer:    " := by decide
  rw [describeIban, hparts, hpart hbank, hpart hbranch, hpart hnational, hpart haccount, labelled_eq hland,
    labelled_eq hcheck, labelled_eq hbban, ibanLines]
  simp only [List.append_assoc]

/-- What the reply shows of a valid identifier, line by line. -/
inductive Describes : Identifier → Text → Prop
  | iban (x : Iban) : Describes (.iban x) (Text.joined "\n" (ibanLines x))
  | bic (x : Bic) : Describes (.bic x) (Text.joined "\n"
      ["BIC gueltig: " ++ x.text ++ "  (" ++ (if x.isTest then "Test-BIC" else "Live-BIC" : Text) ++ ", " ++
          (if x.isPrimaryOffice then "Hauptstelle" else "Filiale" : Text) ++ ")",
        "  Institut:  " ++ x.institution, "  Land:      " ++ x.countryCode, "  Ort:       " ++ x.location,
        "  Filiale:   " ++ x.branch])
  | creditorIdentifier (x : CreditorIdentifier) : Describes (.creditorIdentifier x) (Text.joined "\n"
      ["Glaeubiger-ID gueltig: " ++ x.text, "  Land:               " ++ x.countryCode,
        "  Pruefziffer:        " ++ x.checkDigits, "  Geschaeftsbereich:  " ++ x.businessCode,
        "  Nationale Kennung:  " ++ x.nationalId])
  | card (x : Card) : Describes (.card x)
      ("Kartennummer gueltig: " ++ x.issuer.name ++ ", " ++ Log.maskEnds x.number)

theorem describes_text_describe (x : Identifier) : Describes x (text (describe (Log.maskEnds x.text) x)) := by
  cases x with
  | iban x =>
    rw [describe, describeIban_eq]
    exact .iban x
  | bic x => exact .bic x
  | creditorIdentifier x => exact .creditorIdentifier x
  | card x =>
    rw [text, describe, Text.joined, List.intercalate_singleton]
    exact .card x

/-- The first line about an account number has it in print, and at least one more line follows. -/
theorem exists_describeIban_eq (x : Iban) :
    ∃ rest, text (describeIban x) = Kind.iban.builtOpening ++ x.printable ++ '\n' :: rest :=
  ⟨_, text_cons_cons _ _ _⟩

theorem reply_validateIban_of_parse {v : Text} {x : Iban} (h : Iban.parse v = .ok x) :
    (validateIban (.text v)).reply = .ok (.quiet (text (describeIban x))) := by
  rw [show validateIban (.text v) = Kind.iban.tool (.text v) from rfl, Kind.reply_tool,
    Kind.validateText_of_ok (Kind.parse_iban_of_parse h)]
  rfl

/-- The reply of a builder: what it shows of an identifier, or why there is none. -/
def builderReply {α : Type} (k : Kind) (shown : α → Text) : Except Rejection α → Log.Logged Text
  | .ok x => .quiet (shown x)
  | .error r => cannotBuild k r.message

section
variable {α : Type} {k : Kind} {shown : α → Text} {r : Except Rejection α}

/-- A builder shows an identifier if there is one, -/
theorem builtOpening_prefix_builderReply_iff (h : ∀ x, k.builtOpening <+: shown x) :
    k.builtOpening <+: (builderReply k shown r).value ↔ ∃ x, r = .ok x := by
  cases r with
  | ok x => exact iff_of_true (h x) ⟨x, rfl⟩
  | error e =>
    refine iff_of_false ?_ (by simp)
    exact Kind.not_builtOpening_of_refusedOpening (refusedOpening_prefix_cannotBuild k e.message)

/-- and says that there is nothing to build if there is none. -/
theorem refusedOpening_prefix_builderReply_iff (h : ∀ x, k.builtOpening <+: shown x) :
    k.refusedOpening <+: (builderReply k shown r).value ↔ ¬ ∃ x, r = .ok x := by
  cases r with
  | ok x =>
    refine iff_of_false (fun hrefused => ?_) (by simp)
    exact Kind.not_builtOpening_of_refusedOpening hrefused (h x)
  | error e => exact iff_of_true (refusedOpening_prefix_cannotBuild k e.message) (by simp)

end

theorem buildIbanReply_eq (c b : Text) : buildIbanReply (.datum (.text c)) (.text b) =
    builderReply .iban (fun x => text (describeIban x)) (Iban.fromParts (.code c) b) := by
  rw [buildIbanReply_text]
  cases Iban.fromParts (.code c) b <;> rfl

theorem buildCreditorIdReply_eq (c n business : Text) :
    buildCreditorIdReply (.datum (.text c)) (.text n) (.text business) =
      builderReply .creditorIdentifier (fun x => Kind.creditorIdentifier.builtOpening ++ x.text)
        (CreditorIdentifier.fromParts (.code c) business n) := by
  rw [buildCreditorIdReply_text]
  cases CreditorIdentifier.fromParts (.code c) business n <;> rfl

/-- The words at the end of a reply about a country without a format. -/
def noFormat : Text := ": keine IBAN-Struktur bekannt."

/-- How the reply about a country with a format begins. -/
def formatOpening (code : Text) (l : Bban.Layout) : Text :=
  code ++ ": BBAN " ++ l.pattern.expression ++ "  |  IBAN-Laenge " ++ Text.ofNat l.ibanLength

section
variable {c : Text} {l : Bban.Layout}

/-- A reply about a format depends on what is registered only. -/
theorem formatReply_eq : formatReply = fun c =>
    (Bban.layoutOf c.trim.asciiUpper).elim (c.trim.asciiUpper ++ noFormat) fun l =>
      text (formatOpening c.trim.asciiUpper l ::
        if l.country = c.trim.asciiUpper then [] else ["  verwendet die Struktur von " ++ l.country]) := by
  -- unfolded as a function: at an argument, the comparison of both sides would go through the whole registry
  delta formatReply
  funext c
  dsimp only
  generalize Bban.layoutOf c.trim.asciiUpper = found
  cases found <;> rfl

theorem formatReply_of_none (h : Bban.layoutOf c.trim.asciiUpper = none) :
    formatReply c = c.trim.asciiUpper ++ noFormat := by
  simp only [formatReply_eq, h, Option.elim_none]

theorem formatReply_of_some (h : Bban.layoutOf c.trim.asciiUpper = some l) : formatReply c =
    text (formatOpening c.trim.asciiUpper l ::
      if l.country = c.trim.asciiUpper then [] else ["  verwendet die Struktur von " ++ l.country]) := by
  simp only [formatReply_eq, h, Option.elim_some]

/-- The second line names the country whose structure is used, if it is another one. -/
theorem formatReply_eq_append (h : Bban.layoutOf c.trim.asciiUpper = some l) : formatReply c =
    formatOpening c.trim.asciiUpper l ++
      if l.country = c.trim.asciiUpper then [] else ("\n  verwendet die Struktur von " : Text) ++ l.country := by
  rw [formatReply_of_some h]
  split
  · rw [text, Text.joined, List.intercalate_singleton, List.append_nil]
  · rw [text_cons_cons, text, Text.joined, List.intercalate_singleton]
    rfl

/-- A reply about a format ends with a digit of a length or a letter of a country, and so not with a full stop. -/
theorem isAlphanum_getLast?_formatReply (h : Bban.layoutOf c.trim.asciiUpper = some l) :
    ∀ x ∈ (formatReply c).getLast?, x.isAlphanum = true := by
  have hcountry := Bban.country_mem_codes_of_layoutOf h
  have hdigits : Text.ofNat l.ibanLength ≠ [] := List.ne_nil_of_length_pos (Text.length_ofNat_pos _)
  have hletters : l.country ≠ [] := List.ne_nil_of_length_pos (by rw [Country.length_of_mem_codes hcountry]; decide)
  intro x hx
  rw [formatReply_of_some h] at hx
  split at hx
  · rw [text, Text.joined, List.intercalate_singleton, formatOpening, List.getLast?_append_of_ne_nil _ hdigits] at hx
    exact Text.isAlphanum_of_isDigit (Text.allDigits_ofNat _ x (List.mem_of_getLast? hx))
  · rw [text_cons_cons, text, Text.joined, List.intercalate_singleton, ← List.singleton_append (l := _ ++ l.country),
      ← List.append_assoc, ← List.append_assoc, List.getLast?_append_of_ne_nil _ hletters] at hx
    exact Text.isAlphanum_of_isUpper (Country.isUpper_of_mem hcountry (List.mem_of_getLast? hx))

theorem noFormat_suffix_formatReply_iff (c : Text) :
    noFormat <:+ formatReply c ↔ Bban.layoutOf c.trim.asciiUpper = none := by
  constructor
  · rintro ⟨front, hfront⟩
    cases hl : Bban.layoutOf c.trim.asciiUpper with
    | none => rfl
    | some l =>
      have hend := isAlphanum_getLast?_formatReply hl
      rw [← hfront, List.getLast?_append_of_ne_nil _ (by decide)] at hend
      exact absurd (hend '.' (by decide)) (by decide)
  · intro h
    rw [formatReply_of_none h]
    exact List.suffix_append _ _

end

/-- The reply about an account number that was built. Its check digits can be computed and its country has a format, so
nothing fails on the way to the reply, which describes it. It stands in print in the first line, and is validated with
the same reply. -/
structure ShowsIban (c b : Text) (x : Iban) (reply : Log.Logged Text) : Prop where
  digits : CheckDigits.calculate (c.trim.asciiUpper ++ "00" ++ b.canonical) = .ok x.checkDigits
  layout : ∃ l, x.layout? = some l
  described : Describes (.iban x) reply.value
  firstLine : '\n' ∉ x.printable ∧ ∃ rest, reply.value = Kind.iban.builtOpening ++ x.printable ++ '\n' :: rest
  validated : (validateIban (.text x.printable)).reply = .ok reply

/-- The reply about a creditor identifier that was built. Its check digits can be computed, and it is accepted as it is
shown. -/
structure ShowsCreditorId (c n : Text) (x : CreditorIdentifier) (reply : Log.Logged Text) : Prop where
  digits : CheckDigits.calculate (c.trim.asciiUpper ++ "00" ++ n.canonical) = .ok x.checkDigits
  shown : reply.value = Kind.creditorIdentifier.builtOpening ++ x.text
  accepted : ∃ answer, (validateCreditorId (.text x.text)).reply = .ok answer ∧
    Kind.creditorIdentifier.validOpening <+: answer.value

theorem showsIban_of_fromParts {c b : Text} {x : Iban} (h : Iban.fromParts (.code c) b = .ok x) :
    ShowsIban c b x (buildIbanReply (.datum (.text c)) (.text b)) := by
  have hread := Iban.parse_text_of_fromParts h
  rw [buildIbanReply_eq, h]
  exact {
    digits := (Iban.parts_of_fromParts h).2.2.2
    layout := Iban.exists_layout?_of_parse hread
    described := describes_text_describe (.iban x)
    firstLine := ⟨Iban.newline_not_mem_printable hread, exists_describeIban_eq x⟩
    validated := reply_validateIban_of_parse (Iban.parse_printable hread) }

theorem showsCreditorId_of_fromParts {c business n : Text} {x : CreditorIdentifier}
    (h : CreditorIdentifier.fromParts (.code c) business n = .ok x) :
    ShowsCreditorId c n x (buildCreditorIdReply (.datum (.text c)) (.text n) (.text business)) := by
  have hread : Kind.creditorIdentifier.parse x.text = .ok (.creditorIdentifier x) :=
    map_eq_ok_iff.2 ⟨x, CreditorIdentifier.parse_text_of_fromParts h, rfl⟩
  rw [buildCreditorIdReply_eq, h]
  exact {
    digits := (CreditorIdentifier.parts_of_fromParts h).2.2.2
    shown := rfl
    accepted := ⟨_, Kind.reply_tool .creditorIdentifier x.text, validOpening_prefix_reply hread⟩ }

theorem builtOpening_prefix_describeIban (x : Iban) : Kind.iban.builtOpening <+: text (describeIban x) := by
  obtain ⟨rest, hrest⟩ := exists_describeIban_eq x
  rw [hrest, List.append_assoc]
  exact List.prefix_append _ _

/-- Every tool that reads no file has a reply for texts, and the reply tells the truth. The validating tools begin with
the words for a valid value exactly if there is an identifier, and then describe it; else they say what is wrong. The
building tools begin with their words exactly if an identifier was built, and else say why none was. The reply about a
format denies it exactly if none is registered, and else gives its expression and its length. What is built can be shown
and is accepted. -/
theorem replies_truthful :
    (∀ (k : Kind) (v : Text), ∃ reply, (k.tool (.text v)).reply = .ok reply ∧
      (k.validOpening <+: reply.value ↔ ∃ x, k.construct (.text v) = .ok x) ∧
      (k.invalidOpening <+: reply.value ↔ ¬ ∃ x, k.construct (.text v) = .ok x) ∧
      (∀ x, k.construct (.text v) = .ok x → Describes x reply.value) ∧
      (∀ e, k.construct (.text v) = .error e → ∃ r, e = .rejected r ∧
        reply.value = k.title ++ " ungueltig (" ++ Log.maskEnds v.trim ++ "): " ++ r.reason.germanText) ∧
      ∀ x, k.construct (.text v) = .ok (.iban x) → ∃ l, x.layout? = some l) ∧
    (∀ c b : Text, ∃ reply, (buildIban (.datum (.text c)) (.text b)).reply = .ok reply ∧
      (Kind.iban.builtOpening <+: reply.value ↔ ∃ x, Iban.ofArguments (.datum (.text c)) (.text b) = .ok x) ∧
      (Kind.iban.refusedOpening <+: reply.value ↔ ¬ ∃ x, Iban.ofArguments (.datum (.text c)) (.text b) = .ok x) ∧
      (∀ e, Iban.ofArguments (.datum (.text c)) (.text b) = .error e →
        reply.value = "IBAN konnte nicht gebaut werden: " ++ e.message) ∧
      ∀ x, Iban.ofArguments (.datum (.text c)) (.text b) = .ok x → ShowsIban c b x reply) ∧
    (∀ c n business : Text, ∃ reply,
      (buildCreditorId (.datum (.text c)) (.text n) (.text business)).reply = .ok reply ∧
      (Kind.creditorIdentifier.builtOpening <+: reply.value ↔
        ∃ x, CreditorIdentifier.ofArguments (.datum (.text c)) (.text business) (.text n) = .ok x) ∧
      (Kind.creditorIdentifier.refusedOpening <+: reply.value ↔
        ¬ ∃ x, CreditorIdentifier.ofArguments (.datum (.text c)) (.text business) (.text n) = .ok x) ∧
      (∀ e, CreditorIdentifier.ofArguments (.datum (.text c)) (.text business) (.text n) = .error e →
        reply.value = "Glaeubiger-ID konnte nicht gebaut werden: " ++ e.message) ∧
      ∀ x, CreditorIdentifier.ofArguments (.datum (.text c)) (.text business) (.text n) = .ok x →
        ShowsCreditorId c n x reply) ∧
    (∀ c : Text, ∃ reply, (bbanFormat (.text c)).reply = .ok reply ∧
      (noFormat <:+ reply.value ↔ Bban.layoutFor (.datum (.text c)) = .ok none) ∧
      (Bban.layoutFor (.datum (.text c)) = .ok none → reply.value = c.trim.asciiUpper ++ noFormat) ∧
      ∀ l, Bban.layoutFor (.datum (.text c)) = .ok (some l) → reply.value = formatOpening c.trim.asciiUpper l ++
        if l.country = c.trim.asciiUpper then [] else ("\n  verwendet die Struktur von " : Text) ++ l.country) := by
  refine ⟨fun k v => ⟨_, k.reply_tool v, ?_, ?_, fun x hx => ?_, fun e he => ?_, fun x hx => ?_⟩,
    fun c b => ⟨_, rfl, ?_, ?_, fun e he => ?_, fun x hx => ?_⟩,
    fun c n business => ⟨_, rfl, ?_, ?_, fun e he => ?_, fun x hx => ?_⟩,
    fun c => ⟨_, rfl, ?_, fun hnone => ?_, fun l hl => ?_⟩⟩
  · simp only [Kind.construct_text_eq_ok_iff]
    exact validOpening_prefix_reply_iff
  · simp only [Kind.construct_text_eq_ok_iff]
    exact invalidOpening_prefix_reply_iff
  · rw [Kind.validateText_of_ok (Kind.construct_text_eq_ok_iff.1 hx)]
    exact describes_text_describe x
  · rw [Kind.construct_text] at he
    cases hr : k.parse v with
    | ok x => simp [hr, Except.mapError] at he
    | error r =>
      rw [hr] at he
      refine ⟨r, (Except.error.inj he).symm, ?_⟩
      rw [Log.Logged.map, Kind.validateText_of_error hr]
      rfl
  · have hkind := Kind.kind_of_parse (Kind.construct_text_eq_ok_iff.1 hx)
    obtain rfl : Kind.iban = k := hkind
    obtain ⟨y, hy, hyx⟩ := map_eq_ok_iff.1 (Kind.construct_text_eq_ok_iff.1 hx)
    obtain rfl := Identifier.iban.inj hyx
    exact Iban.exists_layout?_of_parse hy
  · simp only [Iban.ofArguments_text_eq_ok_iff, buildIbanReply_eq]
    exact builtOpening_prefix_builderReply_iff builtOpening_prefix_describeIban
  · simp only [Iban.ofArguments_text_eq_ok_iff, buildIbanReply_eq]
    exact refusedOpening_prefix_builderReply_iff builtOpening_prefix_describeIban
  · rw [buildIbanReply, he]
    rfl
  · exact showsIban_of_fromParts (Iban.ofArguments_text_eq_ok_iff.1 hx)
  · simp only [CreditorIdentifier.ofArguments_text_eq_ok_iff, buildCreditorIdReply_eq]
    exact builtOpening_prefix_builderReply_iff fun x => List.prefix_append _ _
  · simp only [CreditorIdentifier.ofArguments_text_eq_ok_iff, buildCreditorIdReply_eq]
    exact refusedOpening_prefix_builderReply_iff fun x => List.prefix_append _ _
  · rw [buildCreditorIdReply, he]
    rfl
  · exact showsCreditorId_of_fromParts (CreditorIdentifier.ofArguments_text_eq_ok_iff.1 hx)
  · simp only [Log.Logged.quiet, Bban.layoutFor_text, Except.ok.injEq]
    exact noFormat_suffix_formatReply_iff c
  · rw [Bban.layoutFor_text, Except.ok.injEq] at hnone
    simp only [Log.Logged.quiet]
    exact formatReply_of_none hnone
  · rw [Bban.layoutFor_text, Except.ok.injEq] at hl
    simp only [Log.Logged.quiet]
    exact formatReply_eq_append hl

/-- A Norwegian account number and a German creditor identifier are built and accepted, and Norway has a format. A code
of an unknown country is not valid, and for this country nothing is built or found. -/
theorem replies_truthful_norway :
    Iban.ofArguments (.datum (.text " no ")) (.text "8601 1117 947") = .ok ⟨"NO9386011117947"⟩ ∧
      (∃ reply, (buildIban (.datum (.text " no ")) (.text "8601 1117 947")).reply = .ok reply ∧
        ShowsIban " no " "8601 1117 947" ⟨"NO9386011117947"⟩ reply) ∧
      Kind.iban.construct (.text "NO9386011117947") = .ok (.iban ⟨"NO9386011117947"⟩) ∧
      (∃ reply, (validateIban (.text "NO9386011117947")).reply = .ok reply ∧
        Describes (.iban ⟨"NO9386011117947"⟩) reply.value) ∧
      (∃ l, Iban.layout? ⟨"NO9386011117947"⟩ = some l) ∧
      CreditorIdentifier.ofArguments (.datum (.text "de")) (.text "ZZZ") (.text "09999999999") =
        .ok ⟨"DE98ZZZ09999999999"⟩ ∧
      (∃ reply, (buildCreditorId (.datum (.text "de")) (.text "09999999999") (.text "ZZZ")).reply = .ok reply ∧
        ShowsCreditorId "de" "09999999999" ⟨"DE98ZZZ09999999999"⟩ reply) ∧
      (∃ l, Bban.layoutFor (.datum (.text "NO")) = .ok (some l) ∧
        ∃ reply, (bbanFormat (.text "NO")).reply = .ok reply ∧ reply.value = formatOpening "NO" l ++
          if l.country = "NO".toList then [] else ("\n  verwendet die Struktur von " : Text) ++ l.country) ∧
      Kind.bic.construct (.text "PSSTZZPPXXX") = .error (.rejected ⟨.bic, "PSSTZZPPXXX", .unknownCountry⟩) ∧
      (∃ reply, (validateBic (.text "PSSTZZPPXXX")).reply = .ok reply ∧
        reply.value = "BIC ungueltig (PSST***PXXX): Unbekannter Laendercode.") ∧
      Iban.ofArguments (.datum (.text "zz")) (.text "1") = .error (.rejected ⟨.iban, "ZZ", .unknownCountry⟩) ∧
      (∃ reply, (buildIban (.datum (.text "zz")) (.text "1")).reply = .ok reply ∧ reply.value =
        "IBAN konnte nicht gebaut werden: 'ZZ' country code is not an ISO 3166-1-alpha-2 code") ∧
      CreditorIdentifier.ofArguments (.datum (.text "zz")) (.text "ZZZ") (.text "1") =
        .error (.rejected ⟨.creditorIdentifier, "1", .unknownCountry⟩) ∧
      (∃ reply, (buildCreditorId (.datum (.text "zz")) (.text "1") (.text "ZZZ")).reply = .ok reply ∧ reply.value =
        "Glaeubiger-ID konnte nicht gebaut werden: '1' country code is not an ISO 3166-1-alpha-2 code") ∧
      Bban.layoutFor (.datum (.text "zz")) = .ok none ∧
      ∃ reply, (bbanFormat (.text "zz")).reply = .ok reply ∧ reply.value = "ZZ: keine IBAN-Struktur bekannt." := by
  have hiban := Iban.ofArguments_text_eq_ok_iff.2 Iban.fromParts_no
  have hread : Kind.iban.construct (.text "NO9386011117947") = .ok (.iban ⟨"NO9386011117947"⟩) :=
    Kind.construct_text_eq_ok_iff.2 (Kind.parse_iban_of_parse (Iban.parse_text_of_fromParts Iban.fromParts_no))
  have hcreditor : CreditorIdentifier.ofArguments (.datum (.text "de")) (.text "ZZZ") (.text "09999999999") =
      .ok ⟨"DE98ZZZ09999999999"⟩ :=
    CreditorIdentifier.ofArguments_text_eq_ok_iff.2 (by decide +kernel)
  obtain ⟨l, hl, -⟩ := Iban.exists_layout_no
  have hcode : Text.asciiUpper (Text.trim "NO") = "NO" := by decide +kernel
  have hlayout : Bban.layoutFor (.datum (.text "NO")) = .ok (some l) := by
    rw [Bban.layoutFor_text, hcode, hl]
  have hbic : Kind.bic.construct (.text "PSSTZZPPXXX") =
      .error (.rejected ⟨.bic, "PSSTZZPPXXX", .unknownCountry⟩) := by
    decide +kernel
  have hunknown : Iban.ofArguments (.datum (.text "zz")) (.text "1") =
      .error (.rejected ⟨.iban, "ZZ", .unknownCountry⟩) := by
    decide +kernel
  have hforeign : CreditorIdentifier.ofArguments (.datum (.text "zz")) (.text "ZZZ") (.text "1") =
      .error (.rejected ⟨.creditorIdentifier, "1", .unknownCountry⟩) := by
    decide +kernel
  have hnone : Bban.layoutFor (.datum (.text "zz")) = .ok none := by
    have hcodes : Text.asciiUpper (Text.trim "zz") ∉ Bban.Registry.standard.codes := by
      rw [Bban.Registry.codes_standard]
      decide +kernel
    rw [Bban.layoutFor_text, Except.ok.injEq]
    exact Bban.Registry.find?_eq_none_iff.2 hcodes
  obtain ⟨hvalidate, hbuild, hassign, hformat⟩ := replies_truthful
  obtain ⟨reply, hreply, -, -, -, hshows⟩ := hbuild " no " "8601 1117 947"
  obtain ⟨refusal, hrefusal, -, -, hreason, -⟩ := hbuild "zz" "1"
  obtain ⟨answer, hanswer, -, -, -, haccepted⟩ := hassign "de" "09999999999" "ZZZ"
  obtain ⟨denial, hdenial, -, -, hcause, -⟩ := hassign "zz" "1" "ZZZ"
  obtain ⟨report, hreport, -, -, hdescribes, -, hlayouts⟩ := hvalidate .iban "NO9386011117947"
  obtain ⟨verdict, hverdict, -, -, -, hrejected, -⟩ := hvalidate .bic "PSSTZZPPXXX"
  obtain ⟨line, hline, -, -, hfound⟩ := hformat "NO"
  obtain ⟨nothing, hnothing, -, hmissing, -⟩ := hformat "zz"
  refine ⟨hiban, ⟨reply, hreply, hshows _ hiban⟩, hread, ⟨report, hreport, hdescribes _ hread⟩, hlayouts _ hread,
    hcreditor, ⟨answer, hanswer, haccepted _ hcreditor⟩, ⟨l, hlayout, line, hline, ?_⟩, hbic,
    ⟨verdict, hverdict, ?_⟩, hunknown, ⟨refusal, hrefusal, (hreason _ hunknown).trans (by decide +kernel)⟩, hforeign,
    ⟨denial, hdenial, (hcause _ hforeign).trans (by decide +kernel)⟩, hnone,
    ⟨nothing, hnothing, (hmissing hnone).trans (by decide +kernel)⟩⟩
  · have h := hfound l hlayout
    rwa [hcode] at h
  · obtain ⟨r, hr, hvalue⟩ := hrejected _ hbic
    obtain rfl := Refusal.rejected.inj hr
    exact hvalue.trans (by decide +kernel)

end Tool
end PaymentIdentifiers
