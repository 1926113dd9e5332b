import PaymentIdentifiers.Proofs.Identifier.Provenance

/-!
# The identifiers of a session

A session makes identifiers by reading, building, turning into test codes and storing, and by nothing else. So all its
identifiers are obtained in these ways, and they are in canonical form after any steps.
-/
namespace PaymentIdentifiers

theorem bind_eq_ok_iff {ε α β : Type} {r : Except ε α} {f : α → Except ε β} {y : β} :
    r >>= f = .ok y ↔ ∃ x, r = .ok x ∧ f x = .ok y := by
  cases r <;> simp [bind, Except.bind]

namespace Session

/-- If the item is an identifier, it was obtained in one of the ways. -/
def Item.Traced (i : Item) : Prop := ∀ x, i = .identifier x → Obtained x

/-- All items of the session are traced. -/
def Traced (s : Session) : Prop := ∀ e ∈ s.entries, e.2.item.Traced

theorem traced_empty : empty.Traced := fun _ he => absurd he List.not_mem_nil

section
variable {s : Session} {e e' : Entry}

/-- A result that is no identifier has no origin to tell. -/
theorem traced_of_ne {r : Entry} (h : (.ok r : Except StepError Entry) = .ok e) (hne : ∀ x, r.item ≠ .identifier x) :
    e.item.Traced := by
  obtain rfl := Except.ok.inj h
  exact fun x hx => absurd hx (hne x)

theorem traced_find (hs : s.Traced) {o : Operand} (h : s.find o = .ok e) : e.item.Traced := by
  unfold find at h
  split at h
  · exact traced_of_ne h nofun
  · split at h
    · rename_i name _ e hfound
      obtain rfl := Except.ok.inj h
      obtain ⟨before, after, hentries, -⟩ := List.lookup_eq_some_iff.1 hfound
      exact hs (name, e) (by simp [hentries])
    · cases h

theorem traced_freshIdentifier {r : Except Refusal Identifier} (hr : ∀ x, r = .ok x → Obtained x)
    (h : s.freshIdentifier r = .ok e) : e.item.Traced := by
  unfold freshIdentifier at h
  split at h
  · obtain rfl := Except.ok.inj h
    exact fun x hx => hr x (congrArg Except.ok (Item.identifier.inj hx))
  · cases h

/-- A copy of an identifier is restored from storage, any other copy is no identifier. -/
theorem traced_copyOf (he : e.item.Traced) (h : s.copyOf e = .ok e') : e'.item.Traced := by
  unfold copyOf at h
  split at h
  · rename_i x hx
    exact traced_freshIdentifier (fun y hy => .restored (he x hx) (mapError_eq_ok_iff.1 hy)) h
  · cases h
  · cases h
  · split at h
    · obtain rfl := Except.ok.inj h
      exact he
    · exact traced_of_ne h nofun
  · exact traced_of_ne h nofun
  · exact traced_of_ne h nofun

theorem traced_testOf (he : e.item.Traced) (h : s.testOf e = .ok e') : e'.item.Traced := by
  unfold testOf at h
  split at h
  · rename_i x hx
    split at h
    · obtain rfl := Except.ok.inj h
      exact he
    · refine traced_freshIdentifier (fun y hy => ?_) h
      obtain ⟨z, hz, rfl⟩ := map_eq_ok_iff.1 (mapError_eq_ok_iff.1 hy)
      exact .testCode (he _ hx) hz
  · cases h

theorem traced_mergeOf {g : Swift.Group} {i : Item} (h : s.mergeOf g i = .ok e) : e.item.Traced := by
  unfold mergeOf at h
  split at h
  · exact traced_of_ne h nofun
  · exact traced_of_ne h nofun
  · cases h

/-- What a step makes is traced if all items before it are. -/
theorem traced_make (hs : s.Traced) {m : Making} (h : s.make m = .ok e) : e.item.Traced := by
  cases m with
  | identifier k d => exact traced_freshIdentifier (fun x hx => .read k d hx) h
  | iban country bban =>
    refine traced_freshIdentifier (fun x hx => ?_) h
    obtain ⟨y, hy, rfl⟩ := map_eq_ok_iff.1 hx
    exact .ibanBuilt country bban hy
  | creditorIdentifier country business national =>
    refine traced_freshIdentifier (fun x hx => ?_) h
    obtain ⟨y, hy, rfl⟩ := map_eq_ok_iff.1 hx
    exact .creditorBuilt country business national hy
  | testBic of =>
    obtain ⟨d, hd, hmade⟩ := bind_eq_ok_iff.1 h
    exact traced_testOf (traced_find hs hd) hmade
  | copy of =>
    obtain ⟨d, hd, hmade⟩ := bind_eq_ok_iff.1 h
    exact traced_copyOf (traced_find hs hd) hmade
  | merge a b =>
    obtain ⟨d, -, hmade⟩ := bind_eq_ok_iff.1 h
    split at hmade
    · obtain ⟨d', -, hmerged⟩ := bind_eq_ok_iff.1 hmade
      exact traced_mergeOf hmerged
    · cases hmade
  | pattern d =>
    simp only [make] at h
    split at h
    · exact traced_of_ne h nofun
    · cases h
  | range start stop =>
    simp only [make] at h
    split at h
    · exact traced_of_ne h nofun
    · cases h
  | group qualifier start length =>
    simp only [make] at h
    split at h
    · exact traced_of_ne h nofun
    · cases h
  | layout country =>
    simp only [make] at h
    split at h
    · exact traced_of_ne h nofun
    · exact traced_of_ne h nofun
    · cases h

theorem traced_after (hs : s.Traced) (step : Step) : (s.after step).Traced := by
  unfold after
  split
  · split
    · rename_i hmade
      intro e he
      rcases List.mem_cons.1 he with rfl | he
      · exact traced_make hs hmade
      · exact hs e he
    · exact hs
  · exact hs

/-- The outcome is a truth value, a count, a list of texts or an error. -/
def ShowsNoItem (r : Except StepError Outcome) : Prop := ∀ i, r ≠ .ok (.item i)

theorem ShowsNoItem.bind {α : Type} {r : Except StepError α} {f : α → Except StepError Outcome}
    (hf : ∀ a, ShowsNoItem (f a)) : ShowsNoItem (r >>= f) := by
  intro i h
  obtain ⟨a, -, ha⟩ := bind_eq_ok_iff.1 h
  exact hf a i ha

/-- Only making and looking show an item. -/
theorem exists_entry_of_outcome {step : Step} {i : Item} (h : s.outcome step = .ok (.item i)) :
    ∃ e, e.item = i ∧ ((∃ m, s.make m = .ok e) ∨ ∃ o, s.find o = .ok e) := by
  cases step with
  | make m name =>
    obtain ⟨e, he, hitem⟩ := map_eq_ok_iff.1 h
    exact ⟨e, Outcome.item.inj hitem, .inl ⟨m, he⟩⟩
  | look of =>
    obtain ⟨e, he, hitem⟩ := map_eq_ok_iff.1 h
    exact ⟨e, Outcome.item.inj hitem, .inr ⟨of, he⟩⟩
  | compare r a b =>
    have hnone : ShowsNoItem (s.outcome (.compare r a b)) := .bind fun _ => .bind fun _ => .bind fun _ => nofun
    exact absurd h (hnone i)
  | sameHash a b =>
    have hnone : ShowsNoItem (s.outcome (.sameHash a b)) :=
      .bind fun _ => .bind fun _ => .bind fun _ => .bind fun _ => nofun
    exact absurd h (hnone i)
  | same a b =>
    have hnone : ShowsNoItem (s.outcome (.same a b)) := .bind fun _ => .bind fun _ => nofun
    exact absurd h (hnone i)
  | sort of down =>
    have hnone : ShowsNoItem (s.outcome (.sort of down)) := .bind fun _ => .bind fun _ => nofun
    exact absurd h (hnone i)
  | distinct of =>
    have hnone : ShowsNoItem (s.outcome (.distinct of)) := .bind fun _ => .bind fun _ => nofun
    exact absurd h (hnone i)
  | assign of field value =>
    have hnone : ShowsNoItem (s.outcome (.assign of field value)) := .bind fun _ => nofun
    exact absurd h (hnone i)
  | delete of field =>
    have hnone : ShowsNoItem (s.outcome (.delete of field)) := .bind fun _ => nofun
    exact absurd h (hnone i)

theorem traced_outcome (hs : s.Traced) {step : Step} {i : Item} (h : s.outcome step = .ok (.item i)) : i.Traced := by
  obtain ⟨e, rfl, ⟨m, he⟩ | ⟨o, he⟩⟩ := exists_entry_of_outcome h
  · exact traced_make hs he
  · exact traced_find hs he

end

/-- By induction on the steps: each one starts from traced items, shows only such and leaves only such. -/
theorem traced_run {s : Session} (hs : s.Traced) {steps : List Step} {i : Item}
    (h : .ok (.item i) ∈ s.run steps) : i.Traced := by
  induction steps generalizing s with
  | nil => cases h
  | cons step steps ih =>
    rcases List.mem_cons.1 h with h | h
    · exact traced_outcome hs h.symm
    · exact ih (traced_after hs step) h

end Session

/-- An identifier has upper-case letters and digits only, is found valid, is read from its own text and comes back from
storage as it is, whatever the way in which it was obtained. The identifiers of a session are among these. -/
theorem obtained_canonical :
    (∀ x : Identifier, Obtained x →
      (∀ c ∈ x.text, Text.isUpperOrDigit c = true) ∧ x.kind.construct (.text x.text) = .ok x ∧
        x.kind.isValid (.text x.text) = .quiet true ∧ x.restored = .ok x) ∧
    (∀ (steps : List Session.Step) (x : Identifier),
      .ok (.item (.identifier x)) ∈ Session.empty.run steps → Obtained x) := by
  refine ⟨fun x hx => ?_, fun steps x hx => Session.traced_run Session.traced_empty hx x rfl⟩
  have hcan := hx.isCanonical
  exact ⟨hcan.isUpperOrDigit, hcan.construct_eq, hcan.isValid_eq, hcan.restored_eq⟩

/-- The code of a session, and the test code that is made of it. -/
theorem obtained_canonical_test_code :
    .ok (.item (.identifier (.bic ⟨"PSSTFRPPXXX"⟩))) ∈
        Session.empty.run [.make (.identifier .bic (.text " psstfrpp")) "code"] ∧
      Obtained (.bic ⟨"PSSTFRP0XXX"⟩) ∧
      Kind.bic.construct (.text "PSSTFRP0XXX") = .ok (.bic ⟨"PSSTFRP0XXX"⟩) ∧
      Identifier.restored (.bic ⟨"PSSTFRP0XXX"⟩) = .ok (.bic ⟨"PSSTFRP0XXX"⟩) := by
  obtain ⟨hform, hsession⟩ := obtained_canonical
  have hread : Kind.bic.construct (.text " psstfrpp") = .ok (.bic ⟨"PSSTFRPPXXX"⟩) := by decide +kernel
  have hrun : .ok (.item (.identifier (.bic ⟨"PSSTFRPPXXX"⟩))) ∈
      Session.empty.run [.make (.identifier .bic (.text " psstfrpp")) "code"] := by
    rw [Session.run, Session.outcome, Session.make, hread]
    exact List.mem_cons_self
  have htest : Bic.asTest ⟨"PSSTFRPPXXX"⟩ = .ok ⟨"PSSTFRP0XXX"⟩ := by decide +kernel
  have hobtained := Obtained.testCode (hsession _ _ hrun) htest
  obtain ⟨-, hconstruct, -, hrestored⟩ := hform _ hobtained
  exact ⟨hrun, hobtained, hconstruct, hrestored⟩

end PaymentIdentifiers
