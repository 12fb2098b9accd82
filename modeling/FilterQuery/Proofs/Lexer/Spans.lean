import FilterQuery.Proofs.Lexer.Lexemes

namespace FilterQuery.Lexer

theorem size_pos {cs : List Char} (h : cs ≠ []) : 0 < Text.size cs := by
  have ⟨c, _, hc⟩ := List.exists_cons_of_ne_nil h
  rw [hc, Text.size_cons]
  exact Nat.add_pos_left c.utf8Size_pos _

namespace Placed

theorem start_le (h : Placed start cs ts) : ∀ t ∈ ts, start ≤ t.span.start := by
  induction h
  case done         => simp [Token.endAt]
  case gap ih       => exact fun t ht => Nat.le_trans (Nat.le_add_right ..) (ih t ht)
  case lexeme _ _ ih =>
    intro t ht
    cases ht
    case head    => exact Nat.le_refl _
    case tail ht => exact Nat.le_trans (Nat.le_add_right ..) (ih t ht)

theorem starts_increase (h : Placed start cs ts) : ts.Pairwise (·.span.start < ·.span.start) := by
  induction h
  case done   => exact List.pairwise_singleton ..
  case gap ih => exact ih
  case lexeme hs h ih =>
    refine .cons (fun t ht => ?_) ih
    exact Nat.lt_of_lt_of_le (Nat.lt_add_of_pos_right <| size_pos <| scan_text_ne_nil hs) (h.start_le t ht)

theorem disjoint (h : Placed start cs ts) : ts.Pairwise (·.span.stop ≤ ·.span.start) := by
  induction h
  case done            => exact List.pairwise_singleton ..
  case gap ih          => exact ih
  case lexeme _ h ih   => exact .cons h.start_le ih

-- Every token but the last is the lexeme that stands at its span.
theorem lexemes (h : Placed start cs ts) :
    ∃ us, ts = us ++ [.endAt (start + Text.size cs)] ∧
      ∀ t ∈ us, ∃ before slice after, cs = before ++ slice ++ after ∧ slice ≠ [] ∧
        Lexeme slice t.kind ∧
        t.span = ⟨start + Text.size before, start + Text.size before + Text.size slice⟩ := by
  induction h
  case done => exact ⟨[], rfl, fun _ => nofun⟩
  case gap c _ _ _ _ _ ih =>
    have ⟨us, hts, hu⟩ := ih
    refine ⟨us, by simp [hts, Nat.add_assoc], fun t ht => ?_⟩
    obtain ⟨before, slice, after, rfl, hn, hl, hs⟩ := hu t ht
    exact ⟨c :: before, slice, after, rfl, hn, hl, by simp [hs, Nat.add_assoc]⟩
  case lexeme text left _ _ hs _ ih =>
    have ⟨us, hts, hu⟩ := ih
    rw [← scan_append hs, Text.size_append, ← Nat.add_assoc]
    refine ⟨_ :: us, congrArg _ hts, List.forall_mem_cons.mpr ⟨?first, fun t ht => ?later⟩⟩
    case first => exact ⟨[], text, left, rfl, scan_text_ne_nil hs, scan_lexeme hs, rfl⟩
    case later =>
      obtain ⟨before, slice, after, rfl, hn, hl, hp⟩ := hu t ht
      exact ⟨text ++ before, slice, after, by simp, hn, hl, by simp [hp, Nat.add_assoc]⟩

theorem ends (h : Placed start cs ts) :
    ∃ us last, ts = us ++ [last] ∧ last.kind = .eol ∧ ∀ t ∈ us, t.kind ≠ .eol := by
  have ⟨us, hts, hu⟩ := h.lexemes
  refine ⟨us, _, hts, rfl, fun t ht he => ?_⟩
  have ⟨_, _, _, _, _, hl, _⟩ := hu t ht
  exact (he ▸ hl.lexed : Lexed .eol)

end Placed
end FilterQuery.Lexer
