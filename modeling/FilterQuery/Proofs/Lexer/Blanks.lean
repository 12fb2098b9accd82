import FilterQuery.Proofs.Lexer.Spelling
import FilterQuery.Text.Blank
import Mathlib.Data.List.Basic
import Mathlib.Data.List.TakeWhile

namespace FilterQuery

open Text (isBlank dropBlanks trimChars)

namespace Text

variable {cs before word after : List Char}

theorem dropBlanks_append (hb : ∀ c ∈ before, isBlank c) (hh : ∀ c ∈ cs.head?, isBlank c = false) :
    dropBlanks (before ++ cs) = cs :=
  Lexer.dropWhile_append hb hh

theorem exists_dropBlanks (cs : List Char) : ∃ blanks, (∀ c ∈ blanks, isBlank c) ∧ cs = blanks ++ dropBlanks cs :=
  ⟨cs.takeWhile isBlank, fun _ hc => List.mem_takeWhile_imp hc, List.takeWhile_append_dropWhile.symm⟩

theorem exists_dropBlanks_eq (cs : List Char) :
    ∃ after, (∀ c ∈ after, isBlank c) ∧ dropBlanks cs = trimChars cs ++ after := by
  have ⟨after, ha, ht⟩ := exists_dropBlanks (dropBlanks cs).reverse
  refine ⟨after.reverse, by simpa using ha, ?_⟩
  rw [trimChars, ← List.reverse_append, ← ht, List.reverse_reverse]

theorem exists_trimChars (cs : List Char) :
    ∃ before after, (∀ c ∈ before, isBlank c) ∧ (∀ c ∈ after, isBlank c) ∧
      cs = before ++ (trimChars cs ++ after) := by
  have ⟨before, hb, hs⟩ := exists_dropBlanks cs
  have ⟨after, ha, ht⟩ := exists_dropBlanks_eq cs
  exact ⟨before, after, hb, ha, ht ▸ hs⟩

theorem head?_trimChars (cs : List Char) : ∀ c ∈ (trimChars cs).head?, isBlank c = false := by
  intro c hc
  have ⟨after, _, ht⟩ := exists_dropBlanks_eq cs
  have hh : (dropBlanks cs).head? = some c := by rw [ht, List.head?_append, Option.mem_def.mp hc, Option.some_or]
  have hn := List.head?_dropWhile_not isBlank cs
  rw [show (cs.dropWhile isBlank).head? = some c from hh] at hn
  simpa using hn

theorem trimChars_of_blank (h : ∀ c ∈ cs, isBlank c) : trimChars cs = [] := by
  have hd : dropBlanks cs = [] := List.dropWhile_eq_nil_iff.mpr h
  rw [trimChars, hd]
  rfl

-- Trimming stops on either side at the first character that is not blank.
theorem trimChars_append (hb : ∀ c ∈ before, isBlank c) (ha : ∀ c ∈ after, isBlank c) (hn : word ≠ [])
    (hh : ∀ c ∈ word.head?, isBlank c = false) (hl : ∀ c ∈ word.getLast?, isBlank c = false) :
    trimChars (before ++ (word ++ after)) = word := by
  have hh : ∀ c ∈ (word ++ after).head?, isBlank c = false := by
    rwa [List.head?_append_of_ne_nil _ hn]
  have hl : ∀ c ∈ word.reverse.head?, isBlank c = false := by
    rwa [List.head?_reverse]
  rw [trimChars, dropBlanks_append hb hh, List.reverse_append, dropBlanks_append (by simpa using ha) hl,
    List.reverse_reverse]

end Text

namespace Lexer

variable {cs blanks : List Char}

theorem isBlank_of_isGap (h : isGap c) : isBlank c := by
  simp only [isGap, Bool.or_eq_true, beq_iff_eq] at h
  rcases h with ((rfl | rfl) | rfl) | rfl <;> decide

theorem not_isWordChar_of_isBlank {c : Char} (h : isBlank c) : isWordChar c = false := by
  simp only [isBlank, Bool.or_eq_true, Bool.and_eq_true, decide_eq_true_eq, beq_iff_eq] at h
  refine Bool.eq_false_iff.mpr fun hw => ?_
  simp only [isWordChar, Char.isAlphanum, Bool.or_eq_true, beq_iff_eq] at hw
  rcases hw with (hw | hw) | rfl
  case inl.inl =>
    have ha := toNat_of_isAlpha hw
    omega
  case inl.inr =>
    have hd : 48 ≤ c.toNat ∧ c.toNat ≤ 57 := Char.isDigit_iff_toNat.mp hw
    omega
  case inr => exact absurd h (by decide)

-- A blank starts no lexeme, whether it is a gap or not.
theorem scan_blank (h : isBlank c) : scan c cs = .fault (.unexpectedChar c) [] [c] := by
  have hw : ¬isWordChar c := Bool.eq_false_iff.mp (not_isWordChar_of_isBlank h)
  have hd : ¬c.isDigit := fun hd => hw (by simp [isWordChar, Char.isAlphanum, hd])
  have hs : ¬isWordStart c := fun hs => hw (isWordChar_of_isWordStart hs)
  induction c, cs using scan_cases
  case digit hc     => exact absurd hc hd
  case word hc      => exact absurd hc hs
  case unexpected => rfl
  all_goals exact absurd h (by decide)

theorem Cuts.of_blanks (hb : ∀ c ∈ blanks, isBlank c) (h : Cuts (blanks ++ cs) kinds []) : Cuts cs kinds [] := by
  induction blanks
  case nil => exact h
  case cons c blanks ih =>
    have ⟨hc, hb⟩ := List.forall_mem_cons.mp hb
    cases h
    case gap h       => exact ih hb h
    case lexeme hs _ => exact nomatch (scan_blank hc).symm.trans hs

theorem Cuts.blank (h : Cuts cs [] []) : ∀ c ∈ cs, isBlank c := by
  generalize hk : [] = kinds at h
  generalize hl : [] = left at h
  induction h
  case done        => exact hl ▸ fun _ => nofun
  case gap hc _ ih => exact List.forall_mem_cons.mpr ⟨isBlank_of_isGap hc, ih hk hl⟩
  case lexeme      => cases hk

theorem Cuts.split_single (h : Cuts cs [kind] []) :
    ∃ before text after, (∀ c ∈ before, isBlank c) ∧ (∀ c ∈ after, isBlank c) ∧ Lexeme text kind ∧
      cs = before ++ (text ++ after) := by
  generalize hk : [kind] = kinds at h
  generalize hl : [] = left at h
  induction h
  case done => cases hk
  case gap c _ _ _ hc _ ih =>
    have ⟨before, text, after, hb, ha, ht, hs⟩ := ih hk hl
    exact ⟨c :: before, text, after, List.forall_mem_cons.mpr ⟨isBlank_of_isGap hc, hb⟩, ha, ht, congrArg _ hs⟩
  case lexeme hs h _ =>
    cases hk
    subst hl
    exact ⟨[], _, _, fun _ => nofun, h.blank, scan_lexeme hs, (scan_append hs).symm⟩

end Lexer
end FilterQuery
