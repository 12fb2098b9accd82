import FilterQuery.Parser.Basic

namespace FilterQuery.Parser

-- A field is complete once its name stands alone, or once its index is closed.
inductive Mode.FieldRead : Mode → Accessor → Prop
  | name : FieldRead (.fieldEnd name) { field := name }
  | index : FieldRead (.operator left) left

namespace State

-- A rule for each way a token is read. There are no others (`advance_eq_ok_iff`), so that an invariant is shown rule
-- by rule.
inductive Advance (context : Option Context) (s : State) : Token → State → Prop
  | not (hm : s.mode = .operand) (hd : s.depth < maxDepth) :
    Advance context s ⟨.not, span⟩
      { s with group := { s.group with negations := s.group.negations + 1 }, depth := s.depth + 1 }
  | openParen (hm : s.mode = .operand) (hd : s.depth < maxDepth) :
    Advance context s ⟨.openParen, span⟩
      { s with group := {}, outer := (span.start, s.group) :: s.outer, depth := s.depth + 1 }
  | boolean (hm : s.mode = .operand) :
    Advance context s ⟨.boolean b, span⟩ (s.complete (.boolean b))
  | identifier (hm : s.mode = .operand) :
    Advance context s ⟨.identifier name, span⟩ { s with mode := .fieldEnd name }
  | openIndex (hm : s.mode = .fieldEnd name) :
    Advance context s ⟨.openBracket, span⟩ { s with mode := .index name span.start }
  | index (hm : s.mode = .index name bracket) (hi : readIndex kind = .ok i) :
    Advance context s ⟨kind, span⟩ { s with mode := .indexEnd ⟨name, some i⟩ bracket }
  | closeIndex (hm : s.mode = .indexEnd left bracket) :
    Advance context s ⟨.closeBracket, span⟩ { s with mode := .operator left }
  | comparison (hm : s.mode.FieldRead left) :
    Advance context s ⟨.comparison op, span⟩ { s with mode := .value left op }
  | membership (hm : s.mode.FieldRead left) :
    Advance context s ⟨.membership, span⟩ { s with mode := .listStart left }
  | value (hm : s.mode = .value left op) (hv : value? context kind = some v) :
    Advance context s ⟨kind, span⟩ (s.complete (.condition left op v))
  | openList (hm : s.mode = .listStart left) :
    Advance context s ⟨.openBracket, span⟩ { s with mode := .firstItem left span.start }
  | firstItem (hm : s.mode = .firstItem left bracket) (hv : value? context kind = some v) :
    Advance context s ⟨kind, span⟩ { s with mode := .itemEnd left bracket [v] }
  | item (hm : s.mode = .item left bracket values) (hv : value? context kind = some v) :
    Advance context s ⟨kind, span⟩ { s with mode := .itemEnd left bracket (values ++ [v]) }
  | comma (hm : s.mode = .itemEnd left bracket values) :
    Advance context s ⟨.comma, span⟩ { s with mode := .item left bracket values }
  | closeEmpty (hm : s.mode = .firstItem left bracket) :
    Advance context s ⟨.closeBracket, span⟩ (s.complete (.membership left []))
  | closeList (hm : s.mode = .itemEnd left bracket values) :
    Advance context s ⟨.closeBracket, span⟩ (s.complete (.membership left values))
  | connective (hm : s.mode = .operandEnd e) :
    Advance context s ⟨.connective op, span⟩
      { s with mode := .operand, group := s.group.extend e op }
  | closeParen (hm : s.mode = .operandEnd e) (ho : s.outer = (paren, g) :: groups) :
    Advance context s ⟨.closeParen, span⟩
      (complete { s with group := g, outer := groups, depth := s.depth - 1 }
        (.paren (s.group.disjunction e)))

inductive Reads (context : Option Context) : State → List Token → State → Prop
  | refl : Reads context s [] s
  | step : s₁.Advance context t s₂ → Reads context s₂ ts s₃ → Reads context s₁ (t :: ts) s₃

variable {s s' : State}

theorem deepen_map_eq_ok {f : State → State} (h : s.deepen.map f = .ok s') :
    s.depth < maxDepth ∧ s' = f { s with depth := s.depth + 1 } := by
  cases hd : s.deepen
  case error => simp [hd, Except.map] at h
  case ok =>
    have ⟨hl, e⟩ := deepen_eq_ok hd
    simp [hd, Except.map] at h
    exact ⟨hl, e ▸ h.symm⟩

theorem readValue_eq_ok (h : readValue context s kind next = .ok s') :
    ∃ v, value? context kind = some v ∧ s' = next v := by
  simp only [readValue] at h
  split at h <;> cases h
  exact ⟨_, ‹_›, rfl⟩

namespace Advance

theorem of_readOperand (hm : s.mode = .operand) (h : s.readOperand ⟨kind, span⟩ = .ok s') :
    s.Advance context ⟨kind, span⟩ s' := by
  cases kind <;> simp only [readOperand] at h <;> try cases h
  case not =>
    have ⟨hd, e⟩ := deepen_map_eq_ok h
    exact e ▸ .not hm hd
  case openParen =>
    have ⟨hd, e⟩ := deepen_map_eq_ok h
    exact e ▸ .openParen hm hd
  case boolean    => exact .boolean hm
  case identifier => exact .identifier hm

theorem of_readOperator (hm : s.mode.FieldRead left) (h : s.readOperator left kind = .ok s') :
    s.Advance context ⟨kind, span⟩ s' := by
  cases kind <;> cases h
  case comparison => exact .comparison hm
  case membership => exact .membership hm

theorem of_readOperandEnd (hm : s.mode = .operandEnd e) (h : s.readOperandEnd e kind = .ok s') :
    s.Advance context ⟨kind, span⟩ s' := by
  cases kind
  case connective => cases h; exact .connective hm
  case closeParen =>
    cases ho : s.outer <;> simp only [readOperandEnd, ho] at h <;> cases h
    case cons => exact .closeParen hm ho
  all_goals cases h

theorem of_advance (h : s.advance context ⟨kind, span⟩ = .ok s') :
    s.Advance context ⟨kind, span⟩ s' := by
  cases hm : s.mode <;> simp only [advance, hm] at h
  case operand => exact of_readOperand hm h
  case fieldEnd =>
    cases kind
    case openBracket => cases h; exact .openIndex hm
    all_goals exact of_readOperator (hm ▸ .name) h
  case index =>
    cases hi : readIndex kind <;> simp [hi, Except.map] at h
    exact h ▸ .index hm hi
  case indexEnd =>
    cases kind <;> cases h
    case closeBracket => exact .closeIndex hm
  case operator => exact of_readOperator (hm ▸ .index) h
  case value =>
    have ⟨_, hv, e⟩ := readValue_eq_ok h
    exact e ▸ .value hm hv
  case listStart =>
    cases kind <;> cases h
    case openBracket => exact .openList hm
  case firstItem =>
    cases kind
    case closeBracket => cases h; exact .closeEmpty hm
    all_goals
      have ⟨_, hv, e⟩ := readValue_eq_ok h
      exact e ▸ .firstItem hm hv
  case item =>
    have ⟨_, hv, e⟩ := readValue_eq_ok h
    exact e ▸ .item hm hv
  case itemEnd =>
    cases kind <;> cases h
    case comma        => exact .comma hm
    case closeBracket => exact .closeList hm
  case operandEnd => exact of_readOperandEnd hm h

theorem advance_eq {t : Token} (h : s.Advance context t s') : s.advance context t = .ok s' := by
  cases h
  case not hm hd        => simp [advance, hm, readOperand, deepen, hd, Except.map]
  case openParen hm hd  => simp [advance, hm, readOperand, deepen, hd, Except.map]
  case comparison hm    => generalize e : s.mode = m at hm; cases hm <;> simp [advance, e, readOperator]
  case membership hm    => generalize e : s.mode = m at hm; cases hm <;> simp [advance, e, readOperator]
  case firstItem hm hv  =>
    simp only [advance, hm]
    split
    · simp [value?] at hv
    · simp [readValue, hv]
  all_goals simp_all [advance, readOperand, readValue, readOperandEnd, Except.map]

end Advance

theorem advance_eq_ok_iff {t : Token} : s.advance context t = .ok s' ↔ s.Advance context t s' :=
  ⟨Advance.of_advance, Advance.advance_eq⟩

theorem Advance.deterministic {t : Token} {s₁ s₂ : State} (h₁ : s.Advance context t s₁)
    (h₂ : s.Advance context t s₂) : s₁ = s₂ :=
  Except.ok.inj <| h₁.advance_eq.symm.trans h₂.advance_eq

-- The names put to the predicate so far have no part in what is read.
theorem Advance.consulted {t : Token} (h : s.Advance context t s') (names : List String) :
    { s with consulted := names }.Advance context t { s' with consulted := names } := by
  cases h
  case not hm hd        => exact .not hm hd
  case openParen hm hd  => exact .openParen hm hd
  case boolean hm       => exact .boolean hm
  case identifier hm    => exact .identifier hm
  case openIndex hm     => exact .openIndex hm
  case index hm hi      => exact .index hm hi
  case closeIndex hm    => exact .closeIndex hm
  case comparison hm    => exact .comparison hm
  case membership hm    => exact .membership hm
  case value hm hv      => exact .value hm hv
  case openList hm      => exact .openList hm
  case firstItem hm hv  => exact .firstItem hm hv
  case item hm hv       => exact .item hm hv
  case comma hm         => exact .comma hm
  case closeEmpty hm    => exact .closeEmpty hm
  case closeList hm     => exact .closeList hm
  case connective hm    => exact .connective hm
  case closeParen hm ho => exact .closeParen hm ho

theorem Advance.consulted_eq {t : Token} (h : s.Advance context t s') : s'.consulted = s.consulted := by
  cases h <;> rfl

namespace Reads

theorem trans (h : Reads context s ts s₁) (h' : Reads context s₁ us s') : Reads context s (ts ++ us) s' := by
  induction h
  case refl         => exact h'
  case step ha _ ih => exact .step ha (ih h')

theorem consulted (h : Reads context s ts s') (names : List String) :
    Reads context { s with consulted := names } ts { s' with consulted := names } := by
  induction h
  case refl        => exact .refl
  case step h _ ih => exact .step (h.consulted names) ih

end Reads
end State
end FilterQuery.Parser
