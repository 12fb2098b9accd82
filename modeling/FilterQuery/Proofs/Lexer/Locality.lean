import FilterQuery.Proofs.Lexer.Spelling

namespace FilterQuery.Lexer

variable {cs after left : List Char}

theorem scanPair_append_left (h : scanPair c single double cs = .lexeme kind text after) (hl : Closes left) :
    scanPair c single double (cs ++ left) = .lexeme kind text (after ++ left) := by
  cases cs
  case nil =>
    cases h
    exact scanPair_single (hl.head_ne (by decide))
  case cons d ds =>
    simp only [scanPair, List.cons_append] at h ⊢
    split at h <;> cases h <;> simp_all

theorem scanEquals_append_left (h : scanEquals c k cs = .lexeme kind text after) (left : List Char) :
    scanEquals c k (cs ++ left) = .lexeme kind text (after ++ left) := by
  unfold scanEquals at h
  split at h <;> cases h
  rfl

theorem scanString_append_left (h : scanString cs = .closed inside after) (left : List Char) :
    scanString (cs ++ left) = .closed inside (after ++ left) := by
  rw [← scanString_append h, List.append_assoc]
  exact scanString_closed (inside_of_closed h) _

theorem scanQuoted_append_left (h : scanQuoted cs = .lexeme kind text after) (left : List Char) :
    scanQuoted (cs ++ left) = .lexeme kind text (after ++ left) := by
  unfold scanQuoted at h ⊢
  cases hs : scanString cs <;> rw [hs] at h <;> cases h
  case closed => rw [scanString_append_left hs]

theorem numberRest_append_left (cs : List Char) (hl : Closes left) :
    numberRest (cs ++ left) = numberRest cs ++ left := by
  have h := numberText_append_numberRest (cs ++ left)
  rw [numberText_append_left cs hl] at h
  refine List.append_cancel_left (h.trans ?_)
  rw [← List.append_assoc, numberText_append_numberRest]

theorem scanNumber_append_left (h : scanNumber sign cs = .lexeme kind text after) (hl : Closes left) :
    scanNumber sign (cs ++ left) = .lexeme kind text (after ++ left) := by
  cases h
  simp only [scanNumber, numberText_append_left cs hl, numberRest_append_left cs hl]

theorem wordLexeme_append_left (h : wordLexeme word cs = .lexeme kind text after)
    (hp : after = ['('] → left.head? ≠ some ')') (hl : Closes left) :
    wordLexeme word (cs ++ left) = .lexeme kind text (after ++ left) := by
  cases hk : keyword? (.ofList word)
  case some =>
    simp only [wordLexeme, hk] at h ⊢
    cases h
    rfl
  case none =>
    by_cases hc : ∃ more, cs = '(' :: ')' :: more
    case pos =>
      obtain ⟨more, rfl⟩ := hc
      cases (wordLexeme_call hk more).symm.trans h
      exact wordLexeme_call hk _
    case neg =>
      cases (wordLexeme_identifier hk (not_exists.mp hc)).symm.trans h
      refine wordLexeme_identifier hk fun more he => ?_
      rcases cs with _ | ⟨c, _ | ⟨d, ds⟩⟩
      case nil => exact hl.head_ne (c := '(') (by decide) (congrArg List.head? he)
      case cons.nil =>
        obtain ⟨rfl, ht⟩ := List.cons.inj he
        exact hp rfl (congrArg List.head? ht)
      case cons.cons =>
        cases he
        exact hc ⟨ds, rfl⟩

theorem scanWord_append_closes (h : scanWord cs = .lexeme kind text after)
    (hp : after = ['('] → left.head? ≠ some ')') (hl : Closes left) :
    scanWord (cs ++ left) = .lexeme kind text (after ++ left) := by
  have hw := hl.head_false (p := isWordChar) rfl
  rw [scanWord, takeWhile_append_left cs hw, dropWhile_append_left cs hw]
  exact wordLexeme_append_left h hp hl

-- The exception is an opening parenthesis at the end of the text: with a closing one it can make a call out of a name.
theorem scan_append_left (h : scan c cs = .lexeme kind text after)
    (hp : after = ['('] → left.head? ≠ some ')') (hl : Closes left) :
    scan c (cs ++ left) = .lexeme kind text (after ++ left) := by
  induction c, cs using scan_cases
  case less        => exact scanPair_append_left h hl
  case greater     => exact scanPair_append_left h hl
  case exclamation => exact scanEquals_append_left h left
  case tilde       => exact scanEquals_append_left h left
  case minus cs hd =>
    have hd : ((cs ++ left).headD ' ').isDigit := by cases cs <;> simp_all
    exact (if_pos hd).trans <| scanNumber_append_left h hl
  case quote      => exact scanQuoted_append_left h left
  case digit hd   => exact (scan_digit hd).trans <| scanNumber_append_left h hl
  case word hw    => exact (scan_word hw).trans <| scanWord_append_closes h hp hl
  case loneMinus  => cases h
  case unexpected => cases h
  all_goals cases h; rfl

namespace Cuts

theorem nil_iff : Cuts [] kinds left ↔ kinds = [] ∧ left = [] := by
  constructor
  case mp  => intro h; cases h; exact ⟨rfl, rfl⟩
  case mpr => rintro ⟨rfl, rfl⟩; exact .done

theorem openParen (h : Cuts ['('] kinds []) : kinds = [.openParen] := by
  cases h
  case gap hc _ => exact absurd hc (by decide)
  case lexeme hs h =>
    cases hs
    exact congrArg _ (nil_iff.mp h).1

theorem append_left (h : Cuts cs kinds []) (hp : kinds.getLast? ≠ some .openParen) (hl : Closes left) :
    Cuts (cs ++ left) kinds left := by
  generalize hn : [] = end' at h
  induction h
  case done => exact hn ▸ .done
  case gap hc _ ih => exact .gap hc (ih hp hn)
  case lexeme after kind kinds _ hs h ih =>
    subst hn
    have hk : kinds.getLast? ≠ some .openParen := fun hk => by simp_all [List.getLast?_cons]
    refine .lexeme (scan_append_left hs ?_ hl) (ih hk rfl)
    rintro rfl
    exact absurd (h.openParen ▸ rfl) hk

end Cuts

end FilterQuery.Lexer
