import FilterQuery.Proofs.Expr.Printing
import FilterQuery.Proofs.Grammar.Shape
import FilterQuery.Proofs.Parser.Acceptance
import FilterQuery.Proofs.Restriction

namespace FilterQuery

open Grammar (Spelled)
open Lexer (Lexed)

theorem spelled_of_parse (h : parse text context config = .ok (some e)) :
    ∃ kinds, (∀ kind ∈ kinds, Lexed kind) ∧ Spelled context 0 (.chain .or) kinds e :=
  have ⟨kinds, hc, hs⟩ := parse_eq_some_iff_cuts.mp (parse_unrestricted h)
  ⟨kinds, hc.lexed, hs⟩

theorem wellFormed_of_parse (h : parse text context config = .ok (some e)) : e.WellFormed :=
  have ⟨_, hk, hs⟩ := spelled_of_parse h
  hs.wellFormed hk

-- The parser has given every call the value that the context has for it.
theorem unresolved_of_parse (h : parse text context config = .ok (some e)) :
    ∀ v ∈ e.values, v.Unresolved context :=
  have ⟨_, _, hs⟩ := spelled_of_parse h
  hs.unresolved

theorem parse_canonical (h : e.WellFormed) (hu : ∀ v ∈ e.values, v.Unresolved context) :
    parse e.canonical context = .ok (some e) := by
  have hd := Expr.derivesTokens h.layered ⟨h.accessors, fun v hv => ⟨h.values v hv, hu v hv⟩⟩
  have hs := Grammar.spelled_iff.mpr ⟨hd.disjunction, h.finite, h.shallow⟩
  exact parse_eq_some_iff_cuts.mpr ⟨e.tokens, h.cuts, hs⟩

theorem parse_canonical_restricted (config : Option Config)
    (h : parse text context config = .ok (some e)) (hu : ∀ v ∈ e.values, v.Unresolved context') :
    parse e.canonical context' config = .ok (some e) := by
  have hc := parse_canonical (wellFormed_of_parse h) hu
  cases config
  case none        => exact hc
  case some config => exact parse_restricted_some_iff.mpr ⟨hc, (parse_restricted_some_iff.mp h).2⟩

-- Without a context, no call has a value.
theorem Value.unresolved_none (v : Value) : v.Unresolved none := fun _ => rfl

theorem parse_canonical_of_parse (text : String) (context : Option Context) (config : Option Config)
    (e : Expr) (h : parse text context config = .ok (some e)) :
    parse e.canonical = .ok (some e) ∧
    parse e.canonical context = .ok (some e) ∧
    parse e.canonical none config = .ok (some e) ∧
    parse e.canonical context config = .ok (some e) := by
  have hw := wellFormed_of_parse h
  have hu := unresolved_of_parse h
  have hn : ∀ v ∈ e.values, v.Unresolved none := fun v _ => v.unresolved_none
  exact ⟨parse_canonical hw hn, parse_canonical hw hu, parse_canonical_restricted config h hn,
    parse_canonical_restricted config h hu⟩

-- The context has a value for the call, and the canonical text spells that value instead.
theorem parse_canonical_of_parse_resolved :
    let context : Context := ⟨[("NOW()", .string "a\"b")]⟩
    let config : Config := { operations := some [.membership] }
    let e : Expr := .not (.membership ⟨"since", some (.key "\n")⟩ [.string "a\"b", .number "-1.50"])
    parse e.canonical = .ok (some e) ∧
    parse e.canonical (some context) = .ok (some e) ∧
    parse e.canonical none (some config) = .ok (some e) ∧
    parse e.canonical (some context) (some config) = .ok (some e) := by
  intro context config e
  exact parse_canonical_of_parse "NOT since[\"\\n\"] IN [NOW(), -1.50]" (some context) (some config) e
    (by decide +kernel)

theorem parse_canonical_iff (e : Expr) :
    (parse e.canonical = .ok (some e) ↔ e.WellFormed) ∧
    ((∃ e', parse e.canonical = .ok (some e') ∧ e'.equals e) ↔ e.WellFormed) ∧
    ((∃ text context, parse text context = .ok (some e)) ↔ e.WellFormed) := by
  have hp : e.WellFormed → parse e.canonical = .ok (some e) := fun h =>
    parse_canonical h fun v _ => v.unresolved_none
  refine ⟨⟨wellFormed_of_parse, hp⟩, ?equal, ?image⟩
  case equal =>
    constructor
    case mp  => exact fun ⟨_, h, he⟩ => (wellFormed_of_parse h).of_equals he
    case mpr => exact fun h => ⟨e, hp h, Expr.equals_self h.finite⟩
  case image =>
    constructor
    case mp  => exact fun ⟨_, _, h⟩ => wellFormed_of_parse h
    case mpr => exact fun h => ⟨e.canonical, none, hp h⟩

end FilterQuery
