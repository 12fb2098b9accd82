import FilterQuery.Proofs.Parser.Outcome

namespace FilterQuery

theorem parse_restricted_none_iff :
    parse text context config = .ok none ↔ parse text context = .ok none := by
  simp only [parse_eq_ok_iff, Parser.parse_eq_none_iff]

theorem parse_restricted_some_iff :
    parse text context (some config) = .ok (some e) ↔
      parse text context = .ok (some e) ∧ ∀ c ∈ e.constructs, config.permits c := by
  simp only [parse_eq_ok_iff, Parser.parse_eq_some_iff]
  simp [Parser.Environment.permits, ← and_assoc]

theorem parse_restricted_iff_permits :
    parse text context (some config) = .ok r ↔
      parse text context = .ok r ∧ ∀ e ∈ r, ∀ c ∈ e.constructs, config.permits c := by
  cases r
  case none   => simp [parse_restricted_none_iff]
  case some e => simp [parse_restricted_some_iff]

theorem parse_unrestricted (h : parse text context config = .ok r) : parse text context = .ok r := by
  cases config
  case none => exact h
  case some => exact (parse_restricted_iff_permits.mp h).1

-- Besides the filter: what one configuration accepts, every more permissive one accepts with the same result.
theorem parse_restricted (text : String) (context : Option Context) (config : Config)
    (r : Option Expr) :
    (parse text context (some config) = .ok r ↔
      parse text context = .ok r ∧ ∀ e ∈ r, ∀ c ∈ e.constructs, config.permits c) ∧
    ∀ config' : Config, (∀ c, config.permits c → config'.permits c) →
      parse text context (some config) = .ok r → parse text context (some config') = .ok r := by
  refine ⟨parse_restricted_iff_permits, fun config' hc h => ?_⟩
  have ⟨hr, hp⟩ := parse_restricted_iff_permits.mp h
  exact parse_restricted_iff_permits.mpr ⟨hr, fun e he c hm => hc c <| hp e he c hm⟩

end FilterQuery
