import PaymentIdentifiers.Swift.Pattern
import PaymentIdentifiers.Proofs.Swift.Search

/-!
# Compiling a format expression

Compilation succeeds exactly on rows of tokens with the fixed-length mark and a count of at least one, and keeps
every token: its class, its count, and the sum of the counts before it as the start of its group. Otherwise the
fault is the grammar or the leftmost token that is not of this kind.
-/
namespace PaymentIdentifiers.Swift
namespace Token

/-- The number of characters a token asks for. -/
def size (t : Token) : Nat := Text.toNat t.count

/-- What is wrong with a single token, if anything. -/
def fault? (t : Token) : Option ExpressionFault :=
  if t.fixed then if t.size = 0 then some (.emptyGroup t.text) else none else some (.variableLength t.text)

/-- A token that asks for a fixed number of characters, which is not zero. -/
def Sound (t : Token) : Prop := t.fixed = true ∧ 1 ≤ t.size

instance (t : Token) : Decidable t.Sound := inferInstanceAs (Decidable (_ ∧ _))

/-- The groups of tokens in a row, each beginning behind all the characters asked for before it. -/
def laidOut : Nat → List Token → List Group
  | _, [] => []
  | start, t :: ts => ⟨t.charClass, start, t.size⟩ :: laidOut (start + t.size) ts

/-- The number of characters that tokens ask for together. -/
def total (ts : List Token) : Nat := (ts.map size).sum

@[simp] theorem total_nil : total [] = 0 := rfl

@[simp] theorem total_cons (t : Token) (ts : List Token) : total (t :: ts) = t.size + total ts := by
  simp [total]

theorem fault?_eq_none_iff {t : Token} : t.fault? = none ↔ t.Sound := by
  unfold fault? Sound
  cases t.fixed with
  | false => simp
  | true =>
    by_cases hsize : t.size = 0
    · simp [hsize]
    · simp [hsize, Nat.one_le_iff_ne_zero]

/-- The missing mark is what counts, also when the count is zero. -/
theorem fault?_eq_some {t : Token} {f : ExpressionFault} (h : t.fault? = some f) :
    t.fixed = false ∧ f = .variableLength t.text ∨ t.fixed = true ∧ t.size = 0 ∧ f = .emptyGroup t.text := by
  unfold fault? at h
  cases hfixed : t.fixed with
  | false => exact .inl ⟨rfl, by simpa [hfixed] using h.symm⟩
  | true =>
    by_cases hsize : t.size = 0
    · exact .inr ⟨rfl, hsize, by simpa [hfixed, hsize] using h.symm⟩
    · simp [hfixed, hsize] at h

theorem group_eq (t : Token) (start : Nat) :
    t.group start = match t.fault? with
      | some f => .error f
      | none => .ok ⟨t.charClass, start, t.size⟩ := by
  unfold group fault? size
  split
  · split <;> rfl
  · rfl

theorem groups_cons (start : Nat) (t : Token) (ts : List Token) :
    groups start (t :: ts) = (do
      let g ← t.group start
      let gs ← groups (start + t.size) ts
      return g :: gs) := rfl

/-- A row of tokens has its groups, or the fault of the leftmost faulty token. -/
theorem groups_eq (start : Nat) (ts : List Token) :
    groups start ts = match ts.findSome? fault? with
      | some f => .error f
      | none => .ok (laidOut start ts) := by
  induction ts generalizing start with
  | nil => rfl
  | cons t ts ih =>
    rw [groups_cons, group_eq, List.findSome?_cons, ih]
    cases t.fault? with
    | some f => rfl
    | none =>
      cases ts.findSome? fault? with
      | some f => rfl
      | none => rfl

theorem length_laidOut (start : Nat) (ts : List Token) : (laidOut start ts).length = ts.length := by
  induction ts generalizing start with
  | nil => rfl
  | cons t ts ih => simp [laidOut, ih]

theorem getElem?_laidOut (start : Nat) (ts : List Token) (i : Nat) :
    (laidOut start ts)[i]? = ts[i]?.map fun t => ⟨t.charClass, (start + total (ts.take i) : Nat), t.size⟩ := by
  induction ts generalizing start i with
  | nil => simp [laidOut]
  | cons t ts ih =>
    cases i with
    | zero => simp [laidOut]
    | succ i => simp [laidOut, ih, Nat.add_assoc]

theorem totalLength_laidOut (start : Nat) (ts : List Token) : Group.totalLength (laidOut start ts) = total ts := by
  induction ts generalizing start with
  | nil => rfl
  | cons t ts ih => simp [laidOut, Group.totalLength, ih]

/-- The token for a class and a count. -/
def ofPair (q : CharClass × Nat) : Token := ⟨Text.ofNat q.2, true, q.1⟩

theorem size_ofPair (q : CharClass × Nat) : (ofPair q).size = q.2 := Text.toNat_ofNat q.2

theorem wellFormed_ofPair {q : CharClass × Nat} (h : q.2 ≤ 999) : (ofPair q).WellFormed where
  ne_nil := List.ne_nil_of_length_pos (Text.length_ofNat_pos q.2)
  length_le := Text.length_ofNat_le (by decide) (by omega)
  digits := Text.allDigits_ofNat q.2

theorem writeAll_ofPair (qs : List (CharClass × Nat)) :
    writeAll (qs.map ofPair) = qs.flatMap fun q => Text.ofNat q.2 ++ ['!', q.1.qualifier] := by
  simp [writeAll, List.flatMap_map, text, ofPair]

theorem map_laidOut {α : Type} (f : CharClass → Int → α) (start : Nat) (ts : List Token) :
    (laidOut start ts).map (fun g => f g.charClass g.length) = ts.map fun t => f t.charClass t.size := by
  induction ts generalizing start with
  | nil => rfl
  | cons t ts ih => simp [laidOut, ih]

end Token

/-- The beginning of every message about an expression. -/
def ExpressionError.heading (expression : Text) : Text := "invalid SWIFT expression " ++ expression.quoted ++ ": "

namespace Pattern

/-- What compilation answers on an expression within the grammar. -/
theorem compile_of_spells {ts : List Token} {e : Text} (h : Token.Spells ts e) :
    compile e = match ts.findSome? Token.fault? with
      | some f => .error ⟨e, f⟩
      | none => .ok ⟨e, Token.laidOut 0 ts⟩ := by
  rw [compile, Token.readAll?_eq_some_iff.2 h]
  simp only [h.findAll_eq, Token.groups_eq]
  cases ts.findSome? Token.fault? with
  | some f => rfl
  | none => rfl

theorem compile_of_sound {ts : List Token} {e : Text} (h : Token.Spells ts e) (hs : ∀ t ∈ ts, t.Sound) :
    compile e = .ok ⟨e, Token.laidOut 0 ts⟩ := by
  have hn : ts.findSome? Token.fault? = none :=
    List.findSome?_eq_none_iff.2 fun t ht => Token.fault?_eq_none_iff.2 (hs t ht)
  rw [compile_of_spells h, hn]

theorem compile_of_not_spells {e : Text} (h : ¬ ∃ ts, Token.Spells ts e) : compile e = .error ⟨e, .notGrammar⟩ := by
  rw [compile, Token.readAll?_eq_none_iff.2 h]

/-- An expression compiles exactly if it is spelled by sound tokens, and then to the groups of these. -/
theorem compile_eq_ok_iff {e : Text} {p : Pattern} :
    compile e = .ok p ↔ ∃ ts, Token.Spells ts e ∧ (∀ t ∈ ts, t.Sound) ∧ p = ⟨e, Token.laidOut 0 ts⟩ := by
  constructor
  · intro h
    by_cases hg : ∃ ts, Token.Spells ts e
    · obtain ⟨ts, hts⟩ := hg
      rw [compile_of_spells hts] at h
      cases hf : ts.findSome? Token.fault? with
      | some f =>
        rw [hf] at h
        contradiction
      | none =>
        rw [hf] at h
        have hs : ∀ t ∈ ts, t.Sound := fun t ht =>
          Token.fault?_eq_none_iff.1 (List.findSome?_eq_none_iff.1 hf t ht)
        exact ⟨ts, hts, hs, (Except.ok.inj h).symm⟩
    · rw [compile_of_not_spells hg] at h
      contradiction
  · rintro ⟨ts, hts, hs, rfl⟩
    exact compile_of_sound hts hs

/-- The leftmost faulty token of an expression within the grammar decides the error. -/
theorem compile_error_of_spells {ts : List Token} {e : Text} {err : ExpressionError} (hts : Token.Spells ts e)
    (h : compile e = .error err) :
    ∃ pre t post, ts = pre ++ t :: post ∧ (∀ u ∈ pre, u.Sound) ∧
      (t.fixed = false ∧ err = ⟨e, .variableLength t.text⟩ ∨
        t.fixed = true ∧ t.size = 0 ∧ err = ⟨e, .emptyGroup t.text⟩) := by
  rw [compile_of_spells hts] at h
  cases hf : ts.findSome? Token.fault? with
  | none =>
    rw [hf] at h
    contradiction
  | some f =>
    rw [hf] at h
    obtain rfl := Except.error.inj h
    obtain ⟨pre, t, post, hsplit, ht, hpre⟩ := List.findSome?_eq_some_iff.1 hf
    refine ⟨pre, t, post, hsplit, fun u hu => Token.fault?_eq_none_iff.1 (hpre u hu), ?_⟩
    rcases Token.fault?_eq_some ht with ⟨hfixed, rfl⟩ | ⟨hfixed, hsize, rfl⟩
    · exact .inl ⟨hfixed, rfl⟩
    · exact .inr ⟨hfixed, hsize, rfl⟩

/-- Pairs of a class and a count from 1 to 999, written one after the other, compile to groups that hold these pairs. -/
theorem compile_pairs {qs : List (CharClass × Nat)} (hpos : 1 ≤ qs.length) (hle : qs.length ≤ Token.limit)
    (hq : ∀ q ∈ qs, 1 ≤ q.2 ∧ q.2 ≤ 999) :
    ∃ p, compile (qs.flatMap fun q => Text.ofNat q.2 ++ ['!', q.1.qualifier]) = .ok p ∧
      p.groups.map (fun g => (g.charClass, g.length)) = qs.map fun q => (q.1, (q.2 : Int)) := by
  have hspells : Token.Spells (qs.map Token.ofPair) (qs.flatMap fun q => Text.ofNat q.2 ++ ['!', q.1.qualifier]) := by
    refine ⟨by simpa using hpos, by simpa using hle, fun t ht => ?_, Token.writeAll_ofPair qs⟩
    obtain ⟨q, hmem, rfl⟩ := List.mem_map.1 ht
    exact Token.wellFormed_ofPair (hq q hmem).2
  have hsound : ∀ t ∈ qs.map Token.ofPair, t.Sound := by
    intro t ht
    obtain ⟨q, hmem, rfl⟩ := List.mem_map.1 ht
    exact ⟨rfl, by rw [Token.size_ofPair]; exact (hq q hmem).1⟩
  refine ⟨_, compile_of_sound hspells hsound, ?_⟩
  rw [Token.map_laidOut Prod.mk, List.map_map]
  exact List.map_congr_left fun q _ => by simp [Token.ofPair, Token.size, Text.toNat_ofNat]

/-- Compilation accepts exactly its grammar, keeps every token as a group, gives back every list of pairs of a class
and a count, and otherwise names the grammar or the leftmost faulty token. -/
theorem compile_exact_grammar :
    (∀ e : Text,
      ((∃ p, compile e = .ok p) ↔ ∃ ts, Token.Spells ts e ∧ ∀ t ∈ ts, t.Sound) ∧
      (∀ p, compile e = .ok p →
        p.expression = e ∧ ∃ ts, Token.Spells ts e ∧ p.groups.length = ts.length ∧
          (∀ (i : Nat) (t : Token), ts[i]? = some t →
            p.groups[i]? = some ⟨t.charClass, (((ts.take i).map Token.size).sum : Nat), t.size⟩) ∧
          p.length = (ts.map Token.size).sum) ∧
      (∀ err, compile e = .error err →
        err.expression = e ∧
        ((¬ ∃ ts, Token.Spells ts e) → err.fault = .notGrammar ∧
          err.message = ExpressionError.heading e ++
            "expression must match (?:[0-9]\x7b1,3\x7d!?[ance])\x7b1,1000\x7d".toList) ∧
        ∀ ts, Token.Spells ts e → ∃ pre t post, ts = pre ++ t :: post ∧ (∀ u ∈ pre, u.Sound) ∧
          (t.fixed = false ∧ err.fault = .variableLength t.text ∧
              err.message = ExpressionError.heading e ++
                ("non-fixed length group " ++ t.text.quoted ++ " is not supported") ∨
            t.fixed = true ∧ t.size = 0 ∧ err.fault = .emptyGroup t.text ∧
              err.message = ExpressionError.heading e ++
                ("group " ++ t.text.quoted ++ " must have a length of at least 1")))) ∧
    (∀ qs : List (CharClass × Nat), 1 ≤ qs.length → qs.length ≤ Token.limit → (∀ q ∈ qs, 1 ≤ q.2 ∧ q.2 ≤ 999) →
      ∃ p, compile (qs.flatMap fun q => Text.ofNat q.2 ++ ['!', q.1.qualifier]) = .ok p ∧
        p.groups.map (fun g => (g.charClass, g.length)) = qs.map fun q => (q.1, (q.2 : Int))) := by
  refine ⟨fun e => ⟨⟨?_, ?_⟩, fun p hp => ?_, fun err herr => ?_⟩, fun qs hpos hle hq => compile_pairs hpos hle hq⟩
  · rintro ⟨p, hp⟩
    obtain ⟨ts, hts, hs, -⟩ := compile_eq_ok_iff.1 hp
    exact ⟨ts, hts, hs⟩
  · rintro ⟨ts, hts, hs⟩
    exact ⟨_, compile_of_sound hts hs⟩
  · obtain ⟨ts, hts, -, rfl⟩ := compile_eq_ok_iff.1 hp
    refine ⟨rfl, ts, hts, Token.length_laidOut 0 ts, fun i t hi => ?_, Token.totalLength_laidOut 0 ts⟩
    rw [Token.getElem?_laidOut, hi, Nat.zero_add]
    rfl
  · by_cases hg : ∃ ts, Token.Spells ts e
    · obtain ⟨us, hus⟩ := hg
      obtain ⟨pre, t, post, hsplit, hpre, herror⟩ := compile_error_of_spells hus herr
      refine ⟨?_, fun hn => absurd ⟨us, hus⟩ hn, fun ts hts => ⟨pre, t, post, hts.unique hus ▸ hsplit, hpre, ?_⟩⟩
      · rcases herror with ⟨-, rfl⟩ | ⟨-, -, rfl⟩ <;> rfl
      · rcases herror with ⟨hfix, rfl⟩ | ⟨hfix, hz, rfl⟩
        · exact .inl ⟨hfix, rfl, rfl⟩
        · exact .inr ⟨hfix, hz, rfl, rfl⟩
    · rw [compile_of_not_spells hg] at herr
      obtain rfl := Except.error.inj herr
      exact ⟨rfl, fun _ => ⟨rfl, rfl⟩, fun ts hts => absurd ⟨ts, hts⟩ hg⟩

/-- Two fixed groups compile; without its mark the second token is refused, in spite of the zero behind it. -/
theorem compile_exact_grammar_account :
    Token.Spells [⟨"4", true, .digits⟩, ⟨"12", true, .alphanumerics⟩] "4!n12!c" ∧
      (∃ p, compile "4!n12!c" = .ok p ∧
        p.groups.map (fun g => (g.charClass, g.length)) = [(.digits, 4), (.alphanumerics, 12)]) ∧
      Token.Spells [⟨"4", true, .digits⟩, ⟨"12", false, .alphanumerics⟩, ⟨"0", true, .upperLetters⟩] "4!n12c0!a" ∧
      compile "4!n12c0!a" = .error ⟨"4!n12c0!a", .variableLength "12c"⟩ ∧ ¬ ∃ p, compile "4!n12c0!a" = .ok p := by
  have hspells : Token.Spells [⟨"4", true, .digits⟩, ⟨"12", true, .alphanumerics⟩] "4!n12!c" := by
    rw [← Token.readAll?_eq_some_iff]
    decide
  have hfaulty : Token.Spells [⟨"4", true, .digits⟩, ⟨"12", false, .alphanumerics⟩, ⟨"0", true, .upperLetters⟩]
      "4!n12c0!a" := by
    rw [← Token.readAll?_eq_some_iff]
    decide
  have hpairs := compile_exact_grammar.2 [(.digits, 4), (.alphanumerics, 12)] (by decide) (by decide) (by decide)
  have herr : compile "4!n12c0!a" = .error ⟨"4!n12c0!a", .variableLength "12c"⟩ := by rfl
  refine ⟨hspells, hpairs, hfaulty, herr, fun hok => ?_⟩
  obtain ⟨ts, hts, hs⟩ := (compile_exact_grammar.1 _).1.1 hok
  rw [hts.unique hfaulty] at hs
  exact absurd (hs ⟨"12", false, .alphanumerics⟩ (by simp)).1 (by decide)

end Pattern
end PaymentIdentifiers.Swift
