import FilterQuery.Proofs.Parser.Calls

namespace FilterQuery.Parser

open ParseError (Cause)

-- Behind the tokens that `p` has left, `q` has the end, unless nothing is left of either.
structure Closes (p q : Parser) : Prop where
  environment : q.toEnvironment = p.toEnvironment
  eol         : q.eol = p.eol
  depth       : q.depth = p.depth
  consulted   : q.consulted = p.consulted
  rest        : q.rest = p.rest ++ [p.eol] ∨ p.rest = [] ∧ q.rest = []

variable {p q : Parser} {s : State}

theorem closes_leave (h : p.Closes q) (s : State) (depth : Nat)
    (hr : us = ts ++ [p.eol] ∨ ts = [] ∧ us = []) : (p.leave s depth ts).Closes (q.leave s depth us) :=
  ⟨h.environment, h.eol, rfl, rfl, hr⟩

namespace Closes

-- The token at fault may be the end itself, which is then used up where it is there, and otherwise cannot be.
theorem fail (h : p.Closes q) (s : State) (cause : Cause) (t : Token) (ts : List Token) :
    (q.fail s cause t (ts ++ [p.eol])).1 = (p.fail s cause t ts).1 ∧
      (p.fail s cause t ts).2.Closes (q.fail s cause t (ts ++ [p.eol])).2 := by
  refine ⟨rfl, closes_leave h s _ ?_⟩
  split
  case isTrue =>
    cases ts
    case nil  => exact .inr ⟨rfl, rfl⟩
    case cons => exact .inl rfl
  case isFalse => exact .inl rfl

theorem finish (h : p.Closes q) (s : State) (t : Token) (ts : List Token) :
    (q.finish s t (ts ++ [p.eol])).1 = (p.finish s t ts).1 ∧
      (p.finish s t ts).2.Closes (q.finish s t (ts ++ [p.eol])).2 := by
  by_cases hy : ∃ e, s.Yields e
  case pos =>
    have ⟨e, hy⟩ := hy
    rw [finish_of_yields hy, finish_of_yields hy]
    exact ⟨rfl, closes_leave h s _ (.inl rfl)⟩
  case neg =>
    rw [finish_of_not_yields (not_exists.mp hy), finish_of_not_yields (not_exists.mp hy)]
    exact h.fail s _ t ts

theorem run (h : p.Closes q) (he : p.eol.kind = .eol) (s : State) (ts : List Token) :
    (q.run s (ts ++ [p.eol])).1 = (p.run s ts).1 ∧ (p.run s ts).2.Closes (q.run s (ts ++ [p.eol])).2 := by
  induction ts generalizing s
  case nil =>
    simp only [Parser.run, List.nil_append, he, if_true]
    exact h.finish s p.eol []
  case cons t ts ih =>
    simp only [Parser.run, List.cons_append, h.environment]
    split
    case isTrue => exact h.finish s t (t :: ts)
    case isFalse =>
      cases (s.consult p.toEnvironment t).step p.toEnvironment t
      case error cause => exact h.fail _ cause t (t :: ts)
      case ok s        => exact ih s

-- Either way the end is the next token when no other is left.
theorem headD_eq (h : p.Closes q) : q.rest.headD q.eol = p.rest.headD p.eol := by
  rcases h.rest with hr | ⟨hp, hq⟩
  case inl => cases hp : p.rest <;> simp [hr, hp]
  case inr => rw [hp, hq, h.eol]

theorem parse (h : p.Closes q) (hp : p.Ready) :
    q.parse.1 = p.parse.1 ∧ p.parse.2.Closes q.parse.2 := by
  by_cases ht : (p.rest.headD p.eol).kind = .eol
  case pos =>
    rw [parse_of_eol ht, parse_of_eol (h.headD_eq ▸ ht)]
    exact ⟨rfl, h⟩
  case neg =>
    have hq : ¬(q.rest.headD q.eol).kind = .eol := h.headD_eq ▸ ht
    have hr : q.rest = p.rest ++ [p.eol] :=
      h.rest.resolve_right fun ⟨hn, _⟩ => ht (by rw [hn]; exact hp.eol)
    rw [Parser.parse, Parser.parse, if_neg ht, if_neg hq, hr, h.depth, h.consulted]
    exact h.run hp.eol _ p.rest

theorem afterCalls (h : p.Closes q) (hp : p.Ready) (n : Nat) :
    (p.afterCalls n).Closes (q.afterCalls n) := by
  induction n
  case zero      => exact h
  case succ n ih => exact (ih.parse <| (afterCalls_follows hp n).ready hp).2

end Closes

-- The token that a parser has for a missing end is the one that stands behind them.
theorem closes_ofTokens (env : Environment) (ts : List Token) :
    (ofTokens env ts).Closes (ofTokens env (ts ++ [(ofTokens env ts).eol])) where
  environment := rfl
  eol         := by simp [ofTokens, Token.endAt]
  depth       := rfl
  consulted   := rfl
  rest        := .inl rfl

-- Call by call, tokens without an end give the same queries and the same errors as with an empty one where the last
-- of them stops. It makes no difference whether there are ends before.
theorem parse_unended (env : Environment) (ts : List Token) (n : Nat) :
    let stop := ts.getLast?.elim 0 (·.span.stop)
    let p := (ofTokens env ts).afterCalls n
    let q := (ofTokens env (ts ++ [⟨.eol, ⟨stop, stop⟩⟩])).afterCalls n
    q.parse.1 = p.parse.1 ∧ q.parse.2.consulted = p.parse.2.consulted := by
  intro stop p q
  have h₀ := ready_ofTokens env ts
  have h : p.Closes q := (closes_ofTokens env ts).afterCalls h₀ n
  have ⟨hr, hc⟩ := h.parse <| (afterCalls_follows h₀ n).ready h₀
  exact ⟨hr, hc.consulted⟩

end FilterQuery.Parser
