import FilterQuery.Proofs.Lexer.Spans
import FilterQuery.Proofs.Parser.Failure

namespace FilterQuery
namespace Parser.State

-- Some tokens lead from this state to the end of a query.
def Completable (context : Option Context) (s : State) : Prop :=
  ∃ ts s' e, s.Reads context ts s' ∧ s'.Yields e

variable {s s' : State}

theorem Advance.completable (h : s.Advance context t s') (hc : s'.Completable context) :
    s.Completable context :=
  have ⟨_, _, _, hr, hy⟩ := hc
  ⟨_, _, _, .step h hr, hy⟩

-- Every open parenthesis can be closed, and that needs no depth.
theorem completable_operandEnd (hm : s.mode = .operandEnd e) : s.Completable context := by
  generalize ho : s.outer = groups
  induction groups generalizing s e
  case nil => exact ⟨[], s, _, .refl, ho, _, hm, rfl⟩
  case cons group groups ih =>
    have ha : s.Advance context ⟨.closeParen, ⟨0, 0⟩⟩ _ := .closeParen hm ho
    exact ha.completable <| ih rfl rfl

theorem completable_complete (s : State) (e : Expr) : (s.complete e).Completable context :=
  completable_operandEnd rfl

theorem completable_value (hm : s.mode = .value left op) : s.Completable context := by
  have ha : s.Advance context ⟨.null, ⟨0, 0⟩⟩ _ := .value hm rfl
  exact ha.completable <| s.completable_complete _

theorem completable_fieldRead (hm : s.mode.FieldRead left) : s.Completable context := by
  have ha : s.Advance context ⟨.comparison .eq, ⟨0, 0⟩⟩ _ := .comparison hm
  exact ha.completable <| completable_value rfl

theorem completable_indexEnd (hm : s.mode = .indexEnd left bracket) : s.Completable context := by
  have ha : s.Advance context ⟨.closeBracket, ⟨0, 0⟩⟩ _ := .closeIndex hm
  exact ha.completable <| completable_fieldRead .index

theorem completable_firstItem (hm : s.mode = .firstItem left bracket) : s.Completable context := by
  have ha : s.Advance context ⟨.closeBracket, ⟨0, 0⟩⟩ _ := .closeEmpty hm
  exact ha.completable <| s.completable_complete _

theorem completable_itemEnd (hm : s.mode = .itemEnd left bracket values) : s.Completable context := by
  have ha : s.Advance context ⟨.closeBracket, ⟨0, 0⟩⟩ _ := .closeList hm
  exact ha.completable <| s.completable_complete _

theorem completable (context : Option Context) (s : State) : s.Completable context := by
  cases hm : s.mode
  case operand =>
    have ha : s.Advance context ⟨.boolean true, ⟨0, 0⟩⟩ _ := .boolean hm
    exact ha.completable <| s.completable_complete _
  case fieldEnd name =>
    have hr : s.mode.FieldRead { field := name } := hm ▸ .name
    exact completable_fieldRead hr
  case index =>
    have ha : s.Advance context ⟨.string "", ⟨0, 0⟩⟩ _ := .index hm rfl
    exact ha.completable <| completable_indexEnd rfl
  case indexEnd => exact completable_indexEnd hm
  case operator left =>
    have hr : s.mode.FieldRead left := hm ▸ .index
    exact completable_fieldRead hr
  case value    => exact completable_value hm
  case listStart =>
    have ha : s.Advance context ⟨.openBracket, ⟨0, 0⟩⟩ _ := .openList hm
    exact ha.completable <| completable_firstItem rfl
  case firstItem => exact completable_firstItem hm
  case item =>
    have ha : s.Advance context ⟨.null, ⟨0, 0⟩⟩ _ := .item hm rfl
    exact ha.completable <| completable_itemEnd rfl
  case itemEnd    => exact completable_itemEnd hm
  case operandEnd => exact completable_operandEnd hm

theorem Stuck.not_accepts (h : s.Stuck { context } t cause) : ¬s.Accepts context (t :: ts) e := by
  intro ha
  by_cases ht : t.kind = .eol
  case pos => exact ((stuck_eol_iff ht).mp h).2 e <| (Accepts.eol_iff ht).mp ha
  case neg =>
    have ⟨_, ha, _⟩ := (Accepts.cons_iff ht).mp ha
    exact h.not_advance (fun _ _ => rfl) ha

end Parser.State

namespace Parser

open State

-- Tokens that can be read can be continued to a query.
theorem State.Reads.accepted (h : Reads context {} us s) :
    ∃ more e, (∀ t ∈ more, t.kind ≠ .eol) ∧ ∀ last, last.kind = .eol →
      (ofTokens { context } (us ++ more ++ [last])).parse.1 = .ok (some e) := by
  have ⟨more, s', e, hm, hy⟩ := s.completable context
  refine ⟨more, e, hm.kind_ne_eol, fun last hl => ?_⟩
  rw [List.append_assoc]
  refine parse_eq_some_iff.mpr ⟨(Accepts.append_iff h).mpr ?_, fun _ _ => rfl⟩
  exact (Accepts.append_iff hm).mpr <| (Accepts.eol_iff hl).mpr hy

theorem State.Stuck.rejected (h : s.Stuck { context } t cause) (hr : Reads context {} us s)
    (hne : ∃ u ∈ (us ++ t :: after).head?, u.kind ≠ .eol) (after' : List Token) (r : Option Expr) :
    (ofTokens { context } (us ++ t :: after')).parse.1 ≠ .ok r := by
  intro hp
  cases r
  case none =>
    have ⟨u, hu, hk⟩ := hne
    have hh := parse_eq_none_iff.mp hp
    cases us <;> exact hk (hh u hu)
  case some => exact h.not_accepts <| (Accepts.append_iff hr).mp (parse_eq_some_iff.mp hp).1

end Parser

-- An error points at the first token that leaves no way to a query. The end of the text counts as a token.
theorem parse_error_earliest (text : String) (context : Option Context) (ts : List Token)
    (error : ParseError) (ht : tokenize text = .ok ts) (h : parse text context = .error error) :
    error.category = .grammatical ∧
    ∃ before t after, ts = before ++ t :: after ∧ error.span = t.span ∧
      (∃ more e, (∀ u ∈ more, u.kind ≠ .eol) ∧ ∀ last, last.kind = .eol →
        (Parser.ofTokens { context } (before ++ more ++ [last])).parse.1 = .ok (some e)) ∧
      ∀ after' r, (Parser.ofTokens { context } (before ++ t :: after')).parse.1 ≠ .ok r := by
  rw [parse_of_tokenize ht] at h
  have ⟨us, last, hts, hl, _⟩ := (Lexer.placed_of_tokenize ht).ends
  have he : ∃ t ∈ ts, t.kind = .eol := ⟨last, by simp [hts], hl⟩
  have ⟨hne, hf⟩ := (Parser.parse_eq_error_iff he).mp h
  have ⟨before, t, after, s, hts, hr, _, hs, hspan⟩ := hf.split_init
  exact ⟨hs.not_restricted, before, t, after, hts, hspan, hr.accepted, hs.rejected hr (hts ▸ hne)⟩

-- The list of the condition is never closed, which only the end of the text shows.
theorem parse_error_earliest_unclosed :
    let error : ParseError := ⟨.unexpected (.listEnd 10) .eol, ⟨12, 12⟩⟩
    let ts : List Token :=
      [⟨.not, ⟨0, 3⟩⟩, ⟨.openParen, ⟨4, 5⟩⟩, ⟨.identifier "a", ⟨5, 6⟩⟩, ⟨.membership, ⟨7, 9⟩⟩,
        ⟨.openBracket, ⟨10, 11⟩⟩, ⟨.number "1", ⟨11, 12⟩⟩, ⟨.eol, ⟨12, 12⟩⟩]
    error.category = .grammatical ∧
    ∃ before t after, ts = before ++ t :: after ∧ error.span = t.span ∧
      (∃ more e, (∀ u ∈ more, u.kind ≠ .eol) ∧ ∀ last, last.kind = .eol →
        (Parser.ofTokens {} (before ++ more ++ [last])).parse.1 = .ok (some e)) ∧
      ∀ after' r, (Parser.ofTokens {} (before ++ t :: after')).parse.1 ≠ .ok r := by
  intro error ts
  exact parse_error_earliest "NOT (a IN [1" none ts error (by decide +kernel) (by decide +kernel)

end FilterQuery
