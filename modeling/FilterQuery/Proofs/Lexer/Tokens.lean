import FilterQuery.Lexer

namespace FilterQuery.Lexer

theorem scan_gap (hc : isGap c) : scan c cs = .fault (.unexpectedChar c) [] [c] := by
  simp only [isGap, Bool.or_eq_true, beq_iff_eq] at hc
  rcases hc with ((rfl | rfl) | rfl) | rfl <;> rfl

theorem not_isGap_of_scan (h : scan c cs = .lexeme kind text left) : ¬isGap c :=
  fun hc => nomatch (scan_gap hc).symm.trans h

theorem next_gap (hc : isGap c) :
    next ⟨c :: cs, start, false⟩ = next ⟨cs, start + Text.size [c], false⟩ := by
  simp only [next, Bool.false_eq_true, if_false, List.takeWhile_cons_of_pos hc,
    List.dropWhile_cons_of_pos hc, Text.size_cons, Text.size_nil, Nat.add_zero, Nat.add_assoc]

theorem next_lexeme (start : Nat) (h : scan c cs = .lexeme kind text left) :
    next ⟨c :: cs, start, false⟩ =
      (some (.ok ⟨kind, start, start + Text.size text⟩), ⟨left, start + Text.size text, false⟩) := by
  have hc := not_isGap_of_scan h
  simp [next, List.takeWhile_cons_of_neg hc, List.dropWhile_cons_of_neg hc, h]

theorem next_fault (start : Nat) (hc : ¬isGap c) (h : scan c cs = .fault cause skipped culprit) :
    next ⟨c :: cs, start, false⟩ =
      (some (.error ⟨cause, start + Text.size skipped, start + Text.size skipped + Text.size culprit⟩),
        ⟨(c :: cs).drop (skipped.length + culprit.length),
          start + Text.size skipped + Text.size culprit, true⟩) := by
  simp [next, List.takeWhile_cons_of_neg hc, List.dropWhile_cons_of_neg hc, h]

theorem tokens_of_none {l : Lexer} (h : l.next.1 = none) : l.tokens = .ok [] := by
  rw [tokens]
  split <;> simp_all

theorem tokens_of_ok {l : Lexer} (h : l.next.1 = some (.ok t)) :
    l.tokens = l.next.2.tokens.map (t :: ·) := by
  rw [tokens]
  split <;> simp_all

theorem tokens_of_error {l : Lexer} (h : l.next.1 = some (.error error)) :
    l.tokens = .error error := by
  rw [tokens]
  split <;> simp_all

theorem tokens_nil : tokens ⟨[], start, false⟩ = .ok [.endAt start] := by
  rw [tokens_of_ok rfl, tokens_of_none rfl]
  rfl

theorem tokens_gap (hc : isGap c) :
    tokens ⟨c :: cs, start, false⟩ = tokens ⟨cs, start + Text.size [c], false⟩ := by
  rw [tokens, next_gap hc, ← tokens]

theorem tokens_lexeme (h : scan c cs = .lexeme kind text left) :
    tokens ⟨c :: cs, start, false⟩ =
      (tokens ⟨left, start + Text.size text, false⟩).map
        (⟨kind, start, start + Text.size text⟩ :: ·) := by
  have hn := next_lexeme start h
  rw [tokens_of_ok (congrArg Prod.fst hn), hn]

theorem tokens_fault (start : Nat) (hc : ¬isGap c) (h : scan c cs = .fault cause skipped culprit) :
    tokens ⟨c :: cs, start, false⟩ = .error ⟨cause, start + Text.size skipped,
      start + Text.size skipped + Text.size culprit⟩ :=
  tokens_of_error (congrArg Prod.fst (next_fault start hc h))

-- The text `cs` up to `left` is cut into tokens of these kinds.
inductive Cuts : List Char → List Token.Kind → List Char → Prop
  | done : Cuts left [] left
  | gap (hc : isGap c) : Cuts cs kinds left → Cuts (c :: cs) kinds left
  | lexeme (hs : scan c cs = .lexeme kind text after) :
    Cuts after kinds left → Cuts (c :: cs) (kind :: kinds) left

namespace Cuts

theorem trans (h₁ : Cuts cs kinds after) (h₂ : Cuts after kinds' left) :
    Cuts cs (kinds ++ kinds') left := by
  induction h₁
  case done           => exact h₂
  case gap hc _ ih    => exact .gap hc (ih h₂)
  case lexeme hs _ ih => exact .lexeme hs (ih h₂)

theorem single (hs : scan c cs = .lexeme kind text left) : Cuts (c :: cs) [kind] left :=
  .lexeme hs .done

theorem of_gap (hc : isGap c) (h : Cuts (c :: cs) kinds []) : Cuts cs kinds [] := by
  cases h
  case gap h       => exact h
  case lexeme hs _ => exact absurd hc (not_isGap_of_scan hs)

theorem of_lexeme (hs : scan c cs = .lexeme kind text after) (h : Cuts (c :: cs) kinds []) :
    ∃ rest, kinds = kind :: rest ∧ Cuts after rest [] := by
  cases h
  case gap hc _ => exact absurd hc (not_isGap_of_scan hs)
  case lexeme hs' h =>
    cases hs.symm.trans hs'
    exact ⟨_, rfl, h⟩

theorem tokens (h : Cuts cs kinds []) (start : Nat) :
    ∃ ts, Lexer.tokens ⟨cs, start, false⟩ = .ok ts ∧ ts.map Token.kind = kinds ++ [.eol] := by
  generalize hr : [] = left at h
  induction h generalizing start
  case done =>
    subst hr
    exact ⟨_, tokens_nil, rfl⟩
  case gap hc _ ih => rw [tokens_gap hc]; exact ih _ hr
  case lexeme text _ _ _ hs _ ih =>
    have ⟨ts, ht, hk⟩ := ih (start + Text.size text) hr
    rw [tokens_lexeme hs, ht]
    exact ⟨_, rfl, congrArg _ hk⟩

theorem unique (h : Cuts cs kinds []) (h' : Cuts cs kinds' []) : kinds = kinds' := by
  have ⟨_, ht, hk⟩ := h.tokens 0
  have ⟨_, ht', hk'⟩ := h'.tokens 0
  cases ht.symm.trans ht'
  exact List.append_cancel_right (hk.symm.trans hk')

end Cuts

-- The text `cs`, with `start` bytes before it, is cut into these tokens.
inductive Placed : Nat → List Char → List Token → Prop
  | done : Placed start [] [.endAt start]
  | gap (hc : isGap c) : Placed (start + Text.size [c]) cs ts → Placed start (c :: cs) ts
  | lexeme (hs : scan c cs = .lexeme kind text left) : Placed (start + Text.size text) left ts →
    Placed start (c :: cs) (⟨kind, start, start + Text.size text⟩ :: ts)

-- Induction on the length, since a lexeme may have any.
theorem placed_of_tokens (h : tokens ⟨cs, start, false⟩ = .ok ts) : Placed start cs ts := by
  generalize hn : cs.length = n
  induction n using Nat.strongRecOn generalizing cs start ts
  case ind n ih =>
    cases cs
    case nil =>
      cases tokens_nil.symm.trans h
      exact .done
    case cons c cs =>
      by_cases hc : isGap c
      case pos =>
        have hl : cs.length < n := hn ▸ cs.length.lt_succ_self
        exact .gap hc <| ih cs.length hl (tokens_gap hc ▸ h) rfl
      case neg =>
        cases hs : scan c cs
        case lexeme kind text after =>
          rw [tokens_lexeme hs] at h
          cases ht : tokens ⟨after, start + Text.size text, false⟩ <;> rw [ht] at h <;> cases h
          case ok us =>
            have hl : after.length < n := hn ▸ scan_rest_length hs
            exact .lexeme hs <| ih after.length hl ht rfl
        case fault => cases (tokens_fault start hc hs).symm.trans h

theorem Placed.cuts (h : Placed start cs ts) :
    ∃ kinds, Cuts cs kinds [] ∧ ts.map Token.kind = kinds ++ [.eol] := by
  induction h
  case done => exact ⟨[], .done, rfl⟩
  case gap hc _ ih =>
    have ⟨kinds, hk, ht⟩ := ih
    exact ⟨kinds, .gap hc hk, ht⟩
  case lexeme hs _ ih =>
    have ⟨_, hk, ht⟩ := ih
    exact ⟨_, .lexeme hs hk, congrArg _ ht⟩

theorem placed_of_tokenize (h : tokenize text = .ok ts) : Placed 0 text.toList ts :=
  placed_of_tokens h

theorem cuts_of_tokenize (h : tokenize text = .ok ts) :
    ∃ kinds, Cuts text.toList kinds [] ∧ ts.map Token.kind = kinds ++ [.eol] :=
  (placed_of_tokenize h).cuts

theorem Cuts.tokenize (h : Cuts text.toList kinds []) :
    ∃ ts, tokenize text = .ok ts ∧ ts.map Token.kind = kinds ++ [.eol] :=
  h.tokens 0

end FilterQuery.Lexer
