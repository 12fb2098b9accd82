import FilterQuery.Proofs.Grammar.Unambiguous
import FilterQuery.Proofs.Lexer.Lexemes
import FilterQuery.Proofs.Parser.Completeness
import FilterQuery.Proofs.Parser.Soundness

namespace FilterQuery

namespace Parser

open Grammar (Derives Spelled)

variable {ts us vs : List Token} {last : Token}

-- A text is cut off at the first end in one way only.
theorem before_eol_unique (h : ∀ t ∈ ts, t.kind ≠ .eol) (hl : last.kind = .eol)
    (hu : ∀ t ∈ us, t.kind ≠ .eol) (hv : ∀ t ∈ vs.head?, t.kind = .eol)
    (he : ts ++ [last] = us ++ vs) : us = ts := by
  cases List.append_eq_append_iff.mp he
  case inl he =>
    have ⟨as, hus, hvs⟩ := he
    cases as
    case nil  => exact hus.trans ts.append_nil
    case cons =>
      have hl' := (List.cons.inj hvs).1 ▸ hl
      exact absurd hl' <| hu _ (hus ▸ List.mem_append_right _ (List.mem_cons_self ..))
  case inr he =>
    have ⟨bs, hts, hvs⟩ := he
    cases bs
    case nil         => exact us.append_nil.symm.trans hts.symm
    case cons b rest =>
      have hb := h b (hts ▸ List.mem_append_right _ (List.mem_cons_self ..))
      exact absurd (hv b (by rw [hvs]; rfl)) hb

theorem parse_eq_some_iff_spelled (h : ∀ t ∈ ts, t.kind ≠ .eol) (hl : last.kind = .eol) :
    (ofTokens { context } (ts ++ [last])).parse.1 = .ok (some e) ↔
      Spelled context 0 (.chain .or) (ts.map Token.kind) e := by
  rw [parse_eq_some_iff]
  constructor
  case mp =>
    intro ⟨ha, _⟩
    have ⟨us, vs, he, hv, hu, hs⟩ := ha.spelled
    exact before_eol_unique h hl hu hv he ▸ hs
  case mpr =>
    intro hs
    refine ⟨State.accepts_of_spelled hs rfl fun t ht => ?_, fun _ _ => rfl⟩
    exact Option.mem_some.mp ht ▸ hl

theorem parse_eq_none_iff_nil (h : ∀ t ∈ ts, t.kind ≠ .eol) (hl : last.kind = .eol) :
    (ofTokens env (ts ++ [last])).parse.1 = .ok none ↔ ts = [] := by
  rw [parse_eq_none_iff]
  cases ts
  case nil      => simpa using hl
  case cons t _ => simpa using h t (List.mem_cons_self ..)

-- The parser decides the grammar with its limits: it reads the one expression that the tokens spell, finds
-- nothing exactly where there are none, and fails on all others.
theorem parse_decides_grammar (context : Option Context) (ts : List Token) (last : Token)
    (h : ∀ t ∈ ts, t.kind ≠ .eol) (hl : last.kind = .eol) :
    let kinds := ts.map Token.kind
    let result := (ofTokens { context } (ts ++ [last])).parse.1
    (∀ e, result = .ok (some e) ↔
      Derives context (.chain .or) kinds e ∧ e.Finite ∧ e.nesting ≤ maxDepth) ∧
    (result = .ok none ↔ ts = []) ∧
    ((∃ error, result = .error error) ↔
      ts ≠ [] ∧ ¬∃ e, Derives context (.chain .or) kinds e ∧ e.Finite ∧ e.nesting ≤ maxDepth) ∧
    ∀ e e', Derives context (.chain .or) kinds e → Derives context (.chain .or) kinds e' → e = e' := by
  intro kinds result
  have hs : ∀ e, result = .ok (some e) ↔
      Derives context (.chain .or) kinds e ∧ e.Finite ∧ e.nesting ≤ maxDepth := fun _ =>
    (parse_eq_some_iff_spelled h hl).trans Grammar.spelled_iff
  have hn : result = .ok none ↔ ts = [] := parse_eq_none_iff_nil h hl
  refine ⟨hs, hn, ?_, fun _ _ => Derives.unique⟩
  simp only [← hs, ne_eq, ← hn]
  cases result
  case error error => simp
  case ok r        => cases r <;> simp

-- NOT (a = null)
theorem parse_decides_grammar_negation :
    (ofTokens {} <|
      [⟨.not, ⟨0, 3⟩⟩, ⟨.openParen, ⟨4, 5⟩⟩, ⟨.identifier "a", ⟨5, 6⟩⟩, ⟨.comparison .eq, ⟨7, 8⟩⟩,
        ⟨.null, ⟨9, 13⟩⟩, ⟨.closeParen, ⟨13, 14⟩⟩] ++ [⟨.eol, ⟨14, 14⟩⟩]).parse.1 =
      .ok (some (.not (.paren (.condition { field := "a" } .eq .null)))) := by
  refine ((parse_decides_grammar none _ _ (by decide) rfl).1 _).mpr ⟨?derives, ?finite, by decide⟩
  case derives =>
    have hc : Derives none .primary [.identifier "a", .comparison .eq, .null] _ :=
      .condition .name .null
    exact .operand_chain <| .operand_chain <| .not <| .primary <| .paren <|
      .operand_chain <| .operand_chain <| .primary hc
  case finite => exact fun _ ha => List.mem_singleton.mp ha ▸ fun _ => nofun

end Parser

open Grammar (Spelled)

-- The only end among the tokens of a text is the last of them.
theorem split_eol (hc : Lexer.Cuts cs kinds left) (hk : ts.map Token.kind = kinds ++ [.eol]) :
    ∃ us last, ts = us ++ [last] ∧ us.map Token.kind = kinds ∧ last.kind = .eol ∧
      ∀ t ∈ us, t.kind ≠ .eol := by
  have ⟨us, vs, hts, hu, hv⟩ := List.map_eq_append_iff.mp hk
  have ⟨last, hlast, hl⟩ := List.map_eq_singleton_iff.mp hv
  refine ⟨us, last, hlast ▸ hts, hu, hl, fun t ht he => ?_⟩
  have hk := hc.lexed t.kind (hu ▸ List.mem_map_of_mem ht)
  exact (he ▸ hk : Lexer.Lexed .eol)

-- What the lexer makes of an accepted text spells its query.
theorem parse_eq_some_iff_cuts :
    parse text context = .ok (some e) ↔
      ∃ kinds, Lexer.Cuts text.toList kinds [] ∧ Spelled context 0 (.chain .or) kinds e := by
  rw [parse_eq_ok_iff]
  constructor
  case mp =>
    intro ⟨ts, ht, hp⟩
    have ⟨kinds, hc, hk⟩ := Lexer.cuts_of_tokenize ht
    have ⟨us, last, hts, hu, hl, hn⟩ := split_eol hc hk
    refine ⟨kinds, hc, ?_⟩
    rw [hts, Parser.parse_eq_some_iff_spelled hn hl, hu] at hp
    exact hp
  case mpr =>
    intro ⟨kinds, hc, hs⟩
    have ⟨ts, ht, hk⟩ := hc.tokenize
    have ⟨us, last, hts, hu, hl, hn⟩ := split_eol hc hk
    refine ⟨ts, ht, ?_⟩
    rw [hts, Parser.parse_eq_some_iff_spelled hn hl, hu]
    exact hs

theorem parse_eq_none_iff_cuts :
    parse text context config = .ok none ↔ Lexer.Cuts text.toList [] [] := by
  rw [parse_eq_ok_iff]
  constructor
  case mp =>
    intro ⟨ts, ht, hp⟩
    have ⟨kinds, hc, hk⟩ := Lexer.cuts_of_tokenize ht
    have ⟨us, last, hts, hu, hl, hn⟩ := split_eol hc hk
    rw [hts, Parser.parse_eq_none_iff_nil hn hl] at hp
    subst hp hu
    exact hc
  case mpr =>
    intro hc
    have ⟨ts, ht, hk⟩ := hc.tokenize
    have ⟨us, last, hts, hu, hl, hn⟩ := split_eol hc hk
    refine ⟨ts, ht, ?_⟩
    rw [hts, Parser.parse_eq_none_iff_nil hn hl]
    exact List.map_eq_nil_iff.mp hu

end FilterQuery
