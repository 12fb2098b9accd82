import FilterQuery.Parser.Basic

namespace FilterQuery

-- Where a token is moved to that starts, or stops, at a place.
structure Relocation where
  start : Nat → Nat
  stop : Nat → Nat

def Span.moved (m : Relocation) (span : Span) : Span :=
  ⟨m.start span.start, m.stop span.stop⟩

def Token.moved (m : Relocation) (t : Token) : Token :=
  { t with span := t.span.moved m }

namespace ParseError

def Expectation.moved (m : Relocation) : Expectation → Expectation
  | .indexEnd bracket => .indexEnd (m.start bracket)
  | .listEnd bracket => .listEnd (m.start bracket)
  | .groupEnd paren => .groupEnd (m.start paren)
  | expected => expected

def Cause.moved (m : Relocation) : Cause → Cause
  | .unexpected expected found => .unexpected (expected.moved m) found
  | cause => cause

def moved (m : Relocation) (error : ParseError) : ParseError :=
  ⟨error.cause.moved m, error.span.moved m⟩

theorem Cause.category_moved (m : Relocation) (cause : Cause) : (cause.moved m).category = cause.category := by
  cases cause <;> rfl

theorem category_moved (m : Relocation) (error : ParseError) : (error.moved m).category = error.category :=
  error.cause.category_moved m

end ParseError

namespace Parser

open ParseError (Cause)

def Mode.moved (m : Relocation) : Mode → Mode
  | .index name bracket => .index name (m.start bracket)
  | .indexEnd left bracket => .indexEnd left (m.start bracket)
  | .firstItem left bracket => .firstItem left (m.start bracket)
  | .item left bracket values => .item left (m.start bracket) values
  | .itemEnd left bracket values => .itemEnd left (m.start bracket) values
  | mode => mode

namespace State

def moved (m : Relocation) (s : State) : State :=
  { s with
    mode := s.mode.moved m
    outer := s.outer.map (Prod.map m.start id) }

-- The outcome of a step.
def movedOutcome (m : Relocation) (r : Except Cause State) : Except Cause State :=
  (r.map (moved m)).mapError (Cause.moved m)

variable {m : Relocation} {env : Environment}

theorem expects_moved (s : State) : (s.moved m).expects = s.expects.moved m := by
  simp only [expects, moved]
  cases s.mode <;> cases s.outer <;> rfl

theorem unexpected_moved (s : State) (found : Token.Kind) :
    (s.moved m).unexpected found = movedOutcome m (s.unexpected found) := by
  rw [unexpected, expects_moved]
  rfl

theorem complete_moved (s : State) (e : Expr) : (s.moved m).complete e = (s.complete e).moved m :=
  rfl

theorem deepen_moved (s : State) : (s.moved m).deepen = movedOutcome m s.deepen := by
  have hd : (s.moved m).depth = s.depth := rfl
  simp only [deepen, hd]
  split <;> rfl

theorem deepen_map_moved (s : State) {f g : State → State} (h : ∀ s, f (s.moved m) = (g s).moved m) :
    (s.moved m).deepen.map f = movedOutcome m (s.deepen.map g) := by
  rw [deepen_moved]
  cases s.deepen
  case error => rfl
  case ok s  => exact congrArg Except.ok (h s)

theorem readOperand_moved (s : State) (t : Token) :
    (s.moved m).readOperand (t.moved m) = movedOutcome m (s.readOperand t) := by
  have hk : (t.moved m).kind = t.kind := rfl
  simp only [readOperand, hk]
  cases t.kind
  case not        => exact s.deepen_map_moved fun _ => rfl
  case openParen  => exact s.deepen_map_moved fun _ => rfl
  case boolean    => exact congrArg Except.ok (s.complete_moved (.boolean _))
  case identifier => rfl
  all_goals exact s.unexpected_moved _

theorem readOperator_moved (s : State) (left : Accessor) (found : Token.Kind) :
    (s.moved m).readOperator left found = movedOutcome m (s.readOperator left found) := by
  cases found
  case comparison => rfl
  case membership => rfl
  all_goals exact s.unexpected_moved _

-- An index stands between brackets, but none of its errors names one.
theorem readIndex_moved (found : Token.Kind) : (readIndex found).mapError (Cause.moved m) = readIndex found := by
  cases found
  case number =>
    simp only [readIndex]
    split <;> rfl
  all_goals rfl

theorem readValue_moved (s : State) (found : Token.Kind) {next next' : Value → State}
    (h : ∀ v, next' v = (next v).moved m) :
    readValue context (s.moved m) found next' = movedOutcome m (readValue context s found next) := by
  simp only [readValue]
  cases value? context found
  case none   => exact s.unexpected_moved found
  case some v => exact congrArg Except.ok (h v)

theorem readOperandEnd_moved (s : State) (e : Expr) (found : Token.Kind) :
    (s.moved m).readOperandEnd e found = movedOutcome m (s.readOperandEnd e found) := by
  have ho : (s.moved m).outer = s.outer.map (Prod.map m.start id) := rfl
  simp only [readOperandEnd, ho]
  cases s.outer <;> cases found
  case nil.connective   => rfl
  case cons.connective  => rfl
  case cons.closeParen  => rfl
  all_goals exact s.unexpected_moved _

-- A token at another place does the same to the state.
theorem advance_moved (s : State) (t : Token) :
    (s.moved m).advance context (t.moved m) = movedOutcome m (s.advance context t) := by
  have hm : (s.moved m).mode = s.mode.moved m := rfl
  have hk : (t.moved m).kind = t.kind := rfl
  simp only [advance, hk]
  cases hs : s.mode <;> simp only [hm, hs, Mode.moved]
  case operand => exact s.readOperand_moved t
  case fieldEnd =>
    cases t.kind
    case openBracket => rfl
    all_goals exact s.readOperator_moved _ _
  case index =>
    have hi := readIndex_moved (m := m) t.kind
    cases hr : readIndex t.kind <;> rw [hr] at hi
    case error => exact congrArg Except.error (Except.error.inj hi).symm
    case ok    => rfl
  case indexEnd =>
    cases t.kind
    case closeBracket => rfl
    all_goals exact s.unexpected_moved _
  case operator => exact s.readOperator_moved _ _
  case value => exact s.readValue_moved _ fun v => s.complete_moved (.condition _ _ v)
  case listStart =>
    cases t.kind
    case openBracket => rfl
    all_goals exact s.unexpected_moved _
  case firstItem =>
    cases t.kind
    case closeBracket => exact congrArg Except.ok (s.complete_moved (.membership _ []))
    all_goals exact s.readValue_moved _ fun _ => rfl
  case item => exact s.readValue_moved _ fun _ => rfl
  case itemEnd =>
    cases t.kind
    case comma        => rfl
    case closeBracket => exact congrArg Except.ok (s.complete_moved (.membership _ _))
    all_goals exact s.unexpected_moved _
  case operandEnd => exact s.readOperandEnd_moved _ _

theorem introduces_moved (context : Option Context) (s : State) (found : Token.Kind) :
    (s.moved m).introduces context found = s.introduces context found := by
  have hm : (s.moved m).mode = s.mode.moved m := rfl
  simp only [introduces, hm]
  cases s.mode <;> rfl

theorem step_moved (s : State) (t : Token) :
    (s.moved m).step env (t.moved m) = movedOutcome m (s.step env t) := by
  have hk : (t.moved m).kind = t.kind := rfl
  simp only [step, hk, introduces_moved]
  cases (s.introduces env.context t.kind).filter (!env.permits ·)
  case some => rfl
  case none => exact s.advance_moved t

theorem consult_moved (s : State) (t : Token) :
    (s.moved m).consult env (t.moved m) = (s.consult env t).moved m := by
  have hk : (t.moved m).kind = t.kind := rfl
  simp only [consult, hk, introduces_moved]
  split <;> try split
  all_goals rfl

end State

variable {m : Relocation} {p q : Parser} {s : State} {t : Token}

theorem fail_moved : (q.fail (s.moved m) (cause.moved m) (t.moved m) us).1 =
    (p.fail s cause t ts).1.mapError (ParseError.moved m) :=
  rfl

theorem finish_moved :
    (q.finish (s.moved m) (t.moved m) us).1 = (p.finish s t ts).1.mapError (ParseError.moved m) := by
  have hm : (s.moved m).mode = s.mode.moved m := rfl
  have ho : (s.moved m).outer = s.outer.map (Prod.map m.start id) := rfl
  simp only [finish, hm, ho]
  cases s.mode <;> cases s.outer
  case operandEnd.nil => rfl
  all_goals simp only [Mode.moved, List.map_nil, List.map_cons, s.expects_moved]; rfl

-- The parser does not get to stand in for the end of the text, whose place is its own.
theorem run_moved (hp : q.toEnvironment = p.toEnvironment) (he : ∃ t ∈ ts, t.kind = .eol) :
    (q.run (s.moved m) (ts.map (Token.moved m))).1 = (p.run s ts).1.mapError (ParseError.moved m) := by
  induction ts generalizing s
  case nil => exact nomatch he
  case cons t ts ih =>
    have hk : (t.moved m).kind = t.kind := rfl
    simp only [run, List.map_cons, hk, hp, State.consult_moved, State.step_moved]
    split
    case isTrue => exact finish_moved
    case isFalse ht =>
      cases (s.consult p.toEnvironment t).step p.toEnvironment t
      case error cause => exact fail_moved
      case ok s        => exact ih (by simpa [ht] using he)

theorem ofTokens_parse_moved (env : Environment) (he : ∃ t ∈ ts, t.kind = .eol) :
    (ofTokens env (ts.map (Token.moved m))).parse.1 =
      (ofTokens env ts).parse.1.mapError (ParseError.moved m) := by
  cases ts
  case nil => exact nomatch he
  case cons t ts =>
    by_cases ht : t.kind = .eol
    case pos =>
      have ht' : (t.moved m).kind = .eol := ht
      simp only [parse, ofTokens, List.map_cons, List.headD_cons, ht, ht', if_true]
      rfl
    case neg =>
      have ht' : (t.moved m).kind ≠ .eol := ht
      simp only [parse, ofTokens, List.map_cons, List.headD_cons, ht, ht', if_false]
      let p := ofTokens env (t :: ts)
      let q := ofTokens env ((t :: ts).map (Token.moved m))
      exact run_moved (m := m) (p := p) (q := q) (s := {}) rfl he

end Parser
end FilterQuery
