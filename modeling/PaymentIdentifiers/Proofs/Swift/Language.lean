import PaymentIdentifiers.Proofs.Regex.Matching
import PaymentIdentifiers.Proofs.Swift.Matching
import PaymentIdentifiers.Proofs.Text.Shape

/-!
# The regular expression of a format

A compiled format is written out as a regular expression group by group, in which each group is a set with a fixed count.
The expression is read back as it was meant, and the texts that match as a whole are those that the joined groups accept.
-/
namespace PaymentIdentifiers.Swift

open Regex (Reader)

namespace CharClass

/-- The ranges of a class in the order of its bracket expression. -/
def ranges : CharClass → List (Nat × Nat)
  | digits => Text.digitRanges
  | upperLetters => Text.upperRanges
  | alphanumerics => Text.alphanumericRanges
  | spaces => [(32, 32)]

theorem inRanges_ranges (k : CharClass) (c : Char) : Text.inRanges k.ranges c = k.has c := by
  cases k with
  | digits => exact Text.inRanges_digitRanges c
  | upperLetters => exact Text.inRanges_upperRanges c
  | alphanumerics => exact Text.inRanges_alphanumericRanges c
  | spaces =>
    have hspace : c = ' ' ↔ c.toNat = 32 := Char.toNat_inj.symm
    apply Bool.eq_iff_iff.2
    simp only [Text.inRanges, ranges, has, List.any_cons, List.any_nil, Bool.or_false, Bool.and_eq_true,
      decide_eq_true_eq, beq_iff_eq, hspace]
    omega

theorem run_bracket (outer : List (List Regex)) (row : List Regex) (k : CharClass) :
    Reader.run ⟨.between, outer, row⟩ k.bracket = some ⟨.between, outer, .oneOf k.ranges :: row⟩ := by
  cases k <;> rfl

/-- A text meets a class at each of its first `n` positions and other classes behind them. -/
theorem forall₂_replicate_append_iff {k : CharClass} {n : Nat} {ks : List CharClass} {t : Text} :
    List.Forall₂ (fun k c => k.has c = true) (List.replicate n k ++ ks) t ↔
      n ≤ t.length ∧ (∀ c ∈ t.take n, k.has c = true) ∧
        List.Forall₂ (fun k c => k.has c = true) ks (t.drop n) := by
  induction n generalizing t with
  | zero => simp
  | succ n ih =>
    cases t with
    | nil => simp [List.replicate_succ]
    | cons c t =>
      rw [List.replicate_succ, List.cons_append, List.forall₂_cons, ih, List.take_succ_cons, List.drop_succ_cons,
        List.forall_mem_cons, List.length_cons, Nat.succ_le_succ_iff]
      tauto

end CharClass

namespace Group

/-- What is written for a group: a set with a fixed count. -/
def expression (g : Group) : Regex := .repeated (.oneOf g.charClass.ranges) g.length.toNat g.length.toNat

theorem run_groupRegex (outer : List (List Regex)) (row : List Regex) {g : Group} (h : 0 ≤ g.length) :
    Reader.run ⟨.between, outer, row⟩ (Pattern.groupRegex g) = some ⟨.between, outer, g.expression :: row⟩ := by
  have hcount : Text.ofInt g.length = Text.ofNat g.length.toNat := by
    obtain ⟨n, hn⟩ := Int.eq_ofNat_of_zero_le h
    rw [hn]
    rfl
  have hwritten : Pattern.groupRegex g = g.charClass.bracket ++ ("\x7b" ++ Text.ofNat g.length.toNat ++ "\x7d") := by
    rw [Pattern.groupRegex, hcount, List.append_assoc, List.append_assoc, List.append_assoc]
  rw [hwritten, Reader.run_append, CharClass.run_bracket]
  exact Reader.run_count ⟨.between, outer, row⟩ rfl g.length.toNat

/-- The groups are read in order, each from where the one before it left off. -/
theorem run_flatMap_groupRegex (outer : List (List Regex)) (row : List Regex) {gs : List Group}
    (h : ∀ g ∈ gs, 0 ≤ g.length) :
    Reader.run ⟨.between, outer, row⟩ (gs.flatMap Pattern.groupRegex) =
      some ⟨.between, outer, (gs.map expression).reverse ++ row⟩ := by
  induction gs generalizing row with
  | nil => rfl
  | cons g gs ih =>
    obtain ⟨hg, hgs⟩ := List.forall_mem_cons.1 h
    rw [List.flatMap_cons, Reader.run_append, run_groupRegex outer row hg, Option.bind_some, ih _ hgs]
    simp

/-- What stands before the groups does not matter, since the only anchor is the one behind them. -/
theorem meaning_expressions {gs : List Group} {before t : Text} :
    (Regex.inRow (gs.map expression ++ [.textEnd])).meaning before t [] ↔
      List.Forall₂ (fun k c => k.has c = true) (classList gs) t := by
  induction gs generalizing before t with
  | nil => simp [Regex.meaning]
  | cons g gs ih =>
    rw [List.map_cons, List.cons_append, Regex.inRow_cons, expression, Regex.meaning_append_oneOf, ih, classList_cons,
      CharClass.forall₂_replicate_append_iff]
    simp only [CharClass.inRanges_ranges]

end Group

namespace Pattern

/-- The expression that is written for a pattern, with an anchor at both ends. -/
def regex (p : Pattern) : Regex := .inRow (.textStart :: (p.groups.map Group.expression ++ [.textEnd]))

theorem read?_regexText {p : Pattern} (h : ∀ g ∈ p.groups, 0 ≤ g.length) : Regex.read? p.regexText = some p.regex := by
  have hgroups := Group.run_flatMap_groupRegex [] [.textStart] h
  have hwhole : Reader.start.run p.regexText =
      some ⟨.between, [], .textEnd :: ((p.groups.map Group.expression).reverse ++ [.textStart])⟩ := by
    calc Reader.start.run p.regexText
        = Reader.run ⟨.between, [], [.textStart]⟩ (p.groups.flatMap groupRegex ++ ['$']) := rfl
      _ = _ := by
        rw [Reader.run_append, hgroups]
        rfl
  rw [Regex.read?, hwhole, regex]
  simp [Reader.finish?]

theorem meaning_regex_iff {p : Pattern} {t : Text} :
    p.regex.meaning [] t [] ↔ List.Forall₂ (fun k c => k.has c = true) p.classes t := by
  have hstart : p.regex.meaning [] t [] ↔
      (Regex.inRow (p.groups.map Group.expression ++ [.textEnd])).meaning [] t [] := by
    simp [regex, Regex.meaning, Regex.Meaning.andThen]
  rw [hstart, Group.meaning_expressions]
  rfl

/-- The regular expression of a compiled pattern can be read, and matches as a whole exactly the texts that the pattern
accepts. -/
theorem regexText_language {e : Text} {p : Pattern} (h : compile e = .ok p) :
    (Regex.read? p.regexText).isSome = true ∧ ∀ t, Regex.FullyMatches p.regexText t ↔ p.accepts t = true := by
  have hread : Regex.read? p.regexText = some p.regex :=
    read?_regexText fun g hg => Int.le_of_lt ((tiling_groups h).length_pos g hg)
  refine ⟨by rw [hread]; rfl, fun t => ?_⟩
  rw [Regex.fullyMatches_iff hread, meaning_regex_iff, accepts_iff_forall₂ h]

/-- Four digits in two groups, two upper-case letters, a space and three letters or digits. A line end behind them, an
Arabic digit, a lower-case letter in the third group and a no-break space are refused by both. -/
theorem regexText_language_mixed :
    ∃ p, compile "2!n2!n2!a1!e3!c" = .ok p ∧
      p.regexText = "^[0-9]\x7b2\x7d[0-9]\x7b2\x7d[A-Z]\x7b2\x7d[ ]\x7b1\x7d[A-Za-z0-9]\x7b3\x7d$".toList ∧
      (Regex.read? p.regexText).isSome = true ∧
      p.accepts "1234AB xY9" = true ∧ Regex.FullyMatches p.regexText "1234AB xY9" ∧
      ∀ t ∈ ["1234AB xY9\n".toList, "123\u0664AB xY9".toList, "1234aB xY9".toList, "1234AB\u00a0xY9".toList, [] ],
        p.accepts t = false ∧ ¬ Regex.FullyMatches p.regexText t := by
  obtain ⟨p, hp⟩ : ∃ p, compile "2!n2!n2!a1!e3!c" = .ok p := ⟨_, rfl⟩
  have hpe := Except.ok.inj (hp.symm.trans rfl)
  obtain ⟨hread, hiff⟩ := regexText_language hp
  have haccepts : p.accepts "1234AB xY9" = true := by
    rw [hpe]
    decide +kernel
  refine ⟨p, hp, by rw [hpe]; decide +kernel, hread, haccepts, (hiff _).2 haccepts, fun t ht => ?_⟩
  have hrefused : p.accepts t = false := by
    revert t
    rw [hpe]
    decide +kernel
  exact ⟨hrefused, by rw [hiff, hrefused]; exact Bool.false_ne_true⟩

end Pattern
end PaymentIdentifiers.Swift
