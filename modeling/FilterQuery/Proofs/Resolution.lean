import FilterQuery.Proofs.Grammar.Shape
import FilterQuery.Proofs.Parser.Acceptance

namespace FilterQuery

-- A call that the context has a value for becomes the literal of that value.
def Value.fill (context : Context) (v : Value) : Value :=
  match v.kind, context.get? v.text with
  | .function, some json => .ofJson json
  | _, _ => v

def Expr.fill (context : Context) : Expr → Expr
  | condition left op right => condition left op (right.fill context)
  | membership left values => membership left (values.map (Value.fill context))
  | binary left op right => binary (left.fill context) op (right.fill context)
  | not e => not (e.fill context)
  | paren e => paren (e.fill context)
  | boolean b => boolean b

namespace Parser

def Group.fill (context : Context) (g : Group) : Group :=
  { g with
    disjunct := g.disjunct.map (Expr.fill context)
    conjunct := g.conjunct.map (Expr.fill context) }

def Mode.fill (context : Context) : Mode → Mode
  | .item left bracket values => .item left bracket (values.map (Value.fill context))
  | .itemEnd left bracket values => .itemEnd left bracket (values.map (Value.fill context))
  | .operandEnd e => .operandEnd (e.fill context)
  | mode => mode

-- Two parsers, one with the context and one without, differ just in the calls that are filled in.
def State.fill (context : Context) (s : State) : State :=
  { s with
    mode := s.mode.fill context
    group := s.group.fill context
    outer := s.outer.map (Prod.map id (Group.fill context)) }

variable {context : Context}

theorem value?_fill (context : Context) (kind : Token.Kind) :
    value? (some context) kind = (value? none kind).map (Value.fill context) := by
  simp only [value?]
  split <;> try rfl
  rename_i call
  cases h : context.get? call <;> simp [Value.resolve, Value.fill, Value.function, h]

theorem fill_join (op : Connective) (left : Option Expr) (e : Expr) :
    (join op left e).fill context = join op (left.map (Expr.fill context)) (e.fill context) := by
  cases left <;> rfl

theorem fill_negate (e : Expr) (n : Nat) : (negate e n).fill context = negate (e.fill context) n := by
  induction n
  case zero      => rfl
  case succ n ih => exact congrArg Expr.not ih

theorem Group.fill_disjunction (g : Group) (e : Expr) :
    (g.disjunction e).fill context = (g.fill context).disjunction (e.fill context) :=
  fill_join ..

theorem Group.fill_extend (g : Group) (e : Expr) (op : Connective) :
    (g.extend e op).fill context = (g.fill context).extend (e.fill context) op := by
  cases op
  case and => rfl
  case or  => simp [extend, fill, fill_disjunction]

namespace State

theorem fill_complete (s : State) (e : Expr) :
    (s.complete e).fill context = (s.fill context).complete (e.fill context) := by
  simp [complete, fill, Mode.fill, Group.fill, Group.conjunction, fill_join, fill_negate]

theorem expects_fill (s : State) : (s.fill context).expects = s.expects := by
  simp only [expects, fill]
  cases hm : s.mode <;> cases ho : s.outer <;> rfl

theorem unexpected_fill (s : State) (found : Token.Kind) :
    (s.fill context).unexpected found = (s.unexpected found).map (State.fill context) := by
  simp [unexpected, expects_fill, Except.map]

theorem deepen_fill (s : State) : (s.fill context).deepen = s.deepen.map (State.fill context) := by
  by_cases hd : s.depth < maxDepth
  case pos => simp [deepen, fill, hd, Except.map]
  case neg => simp [deepen, fill, hd, Except.map]

theorem readOperand_fill (s : State) (t : Token) :
    (s.fill context).readOperand t = (s.readOperand t).map (State.fill context) := by
  simp only [readOperand, deepen_fill]
  cases t.kind
  case not        => cases s.deepen <;> rfl
  case openParen  => cases s.deepen <;> rfl
  case boolean    => exact congrArg Except.ok (s.fill_complete (.boolean _)).symm
  case identifier => rfl
  all_goals exact s.unexpected_fill _

theorem readOperator_fill (s : State) (left : Accessor) (found : Token.Kind) :
    (s.fill context).readOperator left found =
      (s.readOperator left found).map (State.fill context) := by
  cases found
  case comparison => rfl
  case membership => rfl
  all_goals exact s.unexpected_fill _

theorem readValue_fill (s : State) (found : Token.Kind) {next next' : Value → State}
    (h : ∀ v, next' (v.fill context) = (next v).fill context) :
    readValue (some context) (s.fill context) found next' =
      (readValue none s found next).map (State.fill context) := by
  simp only [readValue, value?_fill]
  cases value? none found
  case none   => exact s.unexpected_fill found
  case some v => exact congrArg Except.ok (h v)

theorem readOperandEnd_fill (s : State) (e : Expr) (found : Token.Kind) :
    (s.fill context).readOperandEnd (e.fill context) found =
      (s.readOperandEnd e found).map (State.fill context) := by
  have ho : (s.fill context).outer = s.outer.map (Prod.map id (Group.fill context)) := rfl
  simp only [readOperandEnd, ho]
  cases s.outer
  case nil =>
    cases found
    case connective op => simp [fill, Mode.fill, Group.fill_extend, Except.map]
    all_goals exact s.unexpected_fill _
  case cons group groups =>
    cases found
    case connective op => simp [fill, Mode.fill, Group.fill_extend, Except.map]
    case closeParen =>
      refine congrArg Except.ok ?_
      rw [fill_complete, Expr.fill, Group.fill_disjunction]
      rfl
    all_goals exact s.unexpected_fill _

-- A token does the same to both states, and both give the same error.
theorem advance_fill (s : State) (t : Token) :
    (s.fill context).advance (some context) t = (s.advance none t).map (State.fill context) := by
  have hm : (s.fill context).mode = s.mode.fill context := rfl
  simp only [advance]
  cases hs : s.mode <;> simp only [hm, hs, Mode.fill]
  case operand => exact s.readOperand_fill t
  case fieldEnd =>
    cases t.kind
    case openBracket => rfl
    all_goals exact s.readOperator_fill _ _
  case index => cases readIndex t.kind <;> rfl
  case indexEnd =>
    cases t.kind
    case closeBracket => rfl
    all_goals exact s.unexpected_fill _
  case operator => exact s.readOperator_fill _ _
  case value => exact s.readValue_fill _ fun v => (s.fill_complete (.condition _ _ v)).symm
  case listStart =>
    cases t.kind
    case openBracket => rfl
    all_goals exact s.unexpected_fill _
  case firstItem =>
    cases t.kind
    case closeBracket => exact congrArg Except.ok (s.fill_complete (.membership _ [])).symm
    all_goals exact s.readValue_fill _ fun v => rfl
  case item =>
    exact s.readValue_fill _ fun v => by simp [fill, Mode.fill]
  case itemEnd =>
    cases t.kind
    case comma        => rfl
    case closeBracket => exact congrArg Except.ok (s.fill_complete (.membership _ _)).symm
    all_goals exact s.unexpected_fill _
  case operandEnd => exact s.readOperandEnd_fill _ _

end State

open State

variable {p q : Parser} {s : State}

theorem fail_fill {t : Token} :
    (q.fail (s.fill context) cause t ts).1 = (p.fail s cause t ts).1.map (Option.map (Expr.fill context)) :=
  rfl

theorem finish_fill {t : Token} :
    (q.finish (s.fill context) t ts).1 = (p.finish s t ts).1.map (Option.map (Expr.fill context)) := by
  have hm : (s.fill context).mode = s.mode.fill context := rfl
  have ho : (s.fill context).outer = s.outer.map (Prod.map id (Group.fill context)) := rfl
  simp only [finish, hm, ho]
  cases s.mode <;> cases s.outer <;>
    simp only [Mode.fill, List.map_nil, List.map_cons, s.expects_fill, fail_fill (p := p)]
  case operandEnd.nil e => simp [Except.map, Group.fill_disjunction, fill]

-- Without a configuration nothing is asked of one.
theorem step_unrestricted (context : Option Context) (s : State) (t : Token) :
    s.step { context } t = s.advance context t := by
  cases hi : s.introduces context t.kind <;> simp [step, hi, Environment.permits, Option.filter]

theorem consult_unrestricted (context : Option Context) (s : State) (t : Token) :
    s.consult { context } t = s := by
  simp only [consult]
  split <;> rfl

theorem run_fill (hp : p.toEnvironment = {}) (hq : q.toEnvironment = { context := some context })
    (he : q.eol = p.eol) :
    (q.run (s.fill context) ts).1 = (p.run s ts).1.map (Option.map (Expr.fill context)) := by
  induction ts generalizing s
  case nil => simp only [run, he, finish_fill (p := p)]
  case cons t ts ih =>
    simp only [run, hp, hq, step_unrestricted, consult_unrestricted, advance_fill]
    split
    case isTrue => exact finish_fill
    case isFalse =>
      cases s.advance none t
      case error cause => exact fail_fill
      case ok s        => exact ih

theorem ofTokens_parse_fill (context : Context) (ts : List Token) :
    (ofTokens { context := some context } ts).parse.1 =
      (ofTokens {} ts).parse.1.map (Option.map (Expr.fill context)) := by
  by_cases he : ∀ t ∈ ts.head?, t.kind = .eol
  case pos =>
    have hn (env : Environment) : (ofTokens env ts).parse.1 = .ok none := parse_eq_none_iff.mpr he
    rw [hn, hn]
    rfl
  case neg =>
    have hr (env : Environment) : (ofTokens env ts).parse = (ofTokens env ts).run {} ts :=
      if_neg <| mt (kind_headD_eol env ts).mp he
    rw [hr, hr]
    exact run_fill (s := {}) rfl rfl rfl

end Parser

theorem parse_fill (text : String) (context : Context) :
    parse text (some context) = (parse text).map (Option.map (Expr.fill context)) := by
  simp only [parse]
  cases tokenize text
  case error => rfl
  case ok ts => exact Parser.ofTokens_parse_fill context ts

-- The value of a query that a JSON value is, by its kind.
inductive Json.Literal : Json → Value → Prop
  | null : Literal .null ⟨"null", .null⟩
  | boolean : Literal (.boolean b) ⟨toString b, .boolean⟩
  | integer : Literal (.number (.integer n)) ⟨toString n, .number⟩
  | real : Literal (.number (.real x h)) ⟨x.toText, .number⟩
  | string : Literal (.string s) ⟨s, .string⟩
  | array : Literal (.array items) ⟨text (.array items), .string⟩
  | object : Literal (.object members) ⟨text (.object members), .string⟩

theorem Value.ofJson_literal (json : Json) : json.Literal (.ofJson json) := by
  cases json
  case null      => exact .null
  case boolean b => cases b <;> exact .boolean
  case number n  => cases n <;> constructor
  case string    => exact .string
  case array     => exact .array
  case object    => exact .object

theorem Value.fill_of_ne (v : Value) (h : v.kind ≠ .function) (context : Context) :
    v.fill context = v := by
  simp only [fill]
  split
  · contradiction
  · rfl

theorem Value.fill_of_none {v : Value} (h : context.get? v.text = none) : v.fill context = v := by
  simp [fill, h]

theorem Value.fill_function (h : context.get? call = some json) :
    (Value.function call).fill context = .ofJson json := by
  simp [fill, function, h]

theorem Value.fill_congr {v : Value} {context other : Context}
    (h : v.kind = .function → context.get? v.text = other.get? v.text) :
    v.fill context = v.fill other := by
  by_cases hk : v.kind = .function
  case pos => simp only [fill, h hk]
  case neg => rw [v.fill_of_ne hk, v.fill_of_ne hk]

theorem Expr.fill_congr {e : Expr} (h : ∀ v ∈ e.values, v.fill context = v.fill other) :
    e.fill context = e.fill other := by
  induction e
  case condition => simp [fill, h _ (List.mem_singleton_self _)]
  case membership => exact congrArg _ (List.map_congr_left h)
  case binary ih₁ ih₂ =>
    have ⟨h₁, h₂⟩ := List.forall_mem_append.mp h
    simp [fill, ih₁ h₁, ih₂ h₂]
  case not ih   => exact congrArg _ (ih h)
  case paren ih => exact congrArg _ (ih h)
  case boolean  => rfl

theorem Value.fill_empty (v : Value) : v.fill ⟨[]⟩ = v :=
  fill_of_none (Context.get?_empty _)

theorem Expr.fill_empty (e : Expr) : e.fill ⟨[]⟩ = e := by
  induction e
  case condition left op right => exact congrArg (condition left op) right.fill_empty
  case membership left values  => exact congrArg (membership left) (List.map_id'' Value.fill_empty values)
  case binary ih₁ ih₂          => rw [fill, ih₁, ih₂]
  case not ih                  => exact congrArg _ ih
  case paren ih                => exact congrArg _ ih
  case boolean                 => rfl

-- Without a context, a call in a query is one in its text.
theorem Grammar.Literal.function_eq (h : Literal none kind v) (hv : v.kind = .function) :
    kind = .function v.text := by
  cases h
  case function => rfl
  all_goals exact nomatch hv

theorem function_mem_of_parse (ht : tokenize text = .ok ts) (h : parse text = .ok (some e))
    (hv : v ∈ e.values) (hk : v.kind = .function) : ∃ t ∈ ts, t.kind = .function v.text := by
  have ⟨kinds, hc, hs⟩ := parse_eq_some_iff_cuts.mp h
  have ⟨ts', ht', hkinds⟩ := hc.tokenize
  cases ht.symm.trans ht'
  have hl : e.Leaves (fun _ => True) fun v => v.kind = .function → .function v.text ∈ kinds :=
    hs.derives.leaves (K := (· ∈ kinds)) (fun _ _ => trivial)
      (fun hl hm hv => hl.function_eq hv ▸ hm) fun _ => id
  have hm := List.mem_append_left [.eol] (hl.values v hv hk)
  exact List.mem_map.mp (hkinds ▸ hm)

-- A context fills in the calls of the query that is read without it, once each, and has no part in any error.
theorem parse_fills_calls (text : String) (context : Context) :
    parse text (some context) = (parse text).map (Option.map (Expr.fill context)) ∧
    (∀ call json, context.get? call = some json →
      json.Literal ((Value.function call).fill context) ∧
      ∀ other, ((Value.function call).fill context).fill other = (Value.function call).fill context) ∧
    (∀ v : Value, v.kind ≠ .function ∨ context.get? v.text = none → v.fill context = v) ∧
    parse text (some ⟨[]⟩) = parse text ∧
    ∀ other : Context,
      (∀ ts, tokenize text = .ok ts → ∀ t ∈ ts, ∀ call, t.kind = .function call →
        context.get? call = other.get? call) →
      parse text (some context) = parse text (some other) := by
  refine ⟨parse_fill text context, fun call json hj => ?filled, ?kept, ?empty, fun other ho => ?agreeing⟩
  case filled =>
    rw [Value.fill_function hj]
    exact ⟨Value.ofJson_literal json, Value.fill_of_ne _ (Value.ofJson_kind_ne json)⟩
  case kept => exact fun v hv => hv.elim (v.fill_of_ne · context) Value.fill_of_none
  case empty =>
    rw [parse_fill]
    rcases parse text with _ | _ | e
    case error   => rfl
    case ok.none => rfl
    case ok.some => exact congrArg (Except.ok ∘ some) e.fill_empty
  case agreeing =>
    rw [parse_fill, parse_fill]
    rcases hr : parse text with _ | _ | e
    case error   => rfl
    case ok.none => rfl
    case ok.some =>
      have ⟨ts, ht, _⟩ := parse_eq_ok_iff.mp hr
      refine congrArg (Except.ok ∘ some) (Expr.fill_congr fun v hv => Value.fill_congr fun hk => ?_)
      have ⟨t, hm, hf⟩ := function_mem_of_parse ht hr hv hk
      exact ho ts ht t hm v.text hf

-- The value that takes the place of a call is not looked up in turn.
example :
    parse "a = f()" (some ⟨[("f()", .string "g()"), ("g()", .null)]⟩) =
      .ok (some (.condition { field := "a" } .eq (.string "g()"))) := by decide +kernel

end FilterQuery
