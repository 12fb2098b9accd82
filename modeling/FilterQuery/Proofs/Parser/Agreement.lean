import FilterQuery.Proofs.Parser.Acceptance

namespace FilterQuery

-- The text of a call: a word that is no keyword, and the brackets right behind it.
def IsCall (call : String) : Prop :=
  ∃ word, Lexer.IsWord word ∧ (∀ kind, (String.ofList word, kind) ∉ Lexer.keywords) ∧
    call = .ofList (word ++ ['(', ')'])

theorem Lexer.Lexed.isCall (h : Lexed (.function call)) : IsCall call := by
  obtain ⟨word, hn, hc⟩ := h
  have ⟨hw, hk⟩ := isName_iff.mp hn
  exact ⟨word, hw, hk, hc⟩

namespace Parser

variable {context other : Option Context} {kind : Token.Kind}

-- Only calls have a meaning that hangs on the context.
theorem value?_congr (h : ∀ call, kind = .function call → Value.resolve context call = Value.resolve other call) :
    value? context kind = value? other kind := by
  simp only [value?]
  split <;> first | rfl | rw [h _ rfl]

namespace State

theorem introduces_congr (h : value? context kind = value? other kind) (s : State) :
    s.introduces context kind = s.introduces other kind := by
  simp only [introduces]
  split <;> simp only [h]

theorem readValue_congr (h : value? context kind = value? other kind) (s : State) (next : Value → State) :
    readValue context s kind next = readValue other s kind next := by
  simp only [readValue, h]

theorem advance_congr (h : value? context t.kind = value? other t.kind) (s : State) :
    s.advance context t = s.advance other t := by
  simp only [advance]
  cases s.mode <;> simp only
  case value => exact s.readValue_congr h _
  case firstItem =>
    split
    · rfl
    · exact s.readValue_congr h _
  case item => exact s.readValue_congr h _

theorem step_congr (config : Option Config) (h : value? context t.kind = value? other t.kind) (s : State) :
    s.step { context, config } t = s.step { context := other, config } t := by
  simp only [step, s.introduces_congr h, s.advance_congr h, Environment.permits]

theorem consult_congr (config : Option Config) (h : value? context t.kind = value? other t.kind) (s : State) :
    s.consult { context, config } t = s.consult { context := other, config } t := by
  simp only [consult, s.introduces_congr h]
  rfl

end State

variable {p q : Parser} {config : Option Config}

theorem finish_congr (s : State) (t : Token) (ts : List Token) : (p.finish s t ts).1 = (q.finish s t ts).1 := by
  simp only [finish]
  split <;> rfl

theorem run_congr (hp : p.toEnvironment = { context, config }) (hq : q.toEnvironment = { context := other, config })
    (he : p.eol = q.eol) (h : ∀ t ∈ ts, value? context t.kind = value? other t.kind) (s : State) :
    (p.run s ts).1 = (q.run s ts).1 := by
  induction ts generalizing s
  case nil =>
    simp only [run, he]
    exact finish_congr ..
  case cons t ts ih =>
    obtain ⟨ht, hts⟩ := List.forall_mem_cons.mp h
    simp only [run, hp, hq, State.consult_congr config ht, State.step_congr config ht]
    split
    case isTrue => exact finish_congr ..
    case isFalse =>
      cases (s.consult { context := other, config } t).step { context := other, config } t
      case error => rfl
      case ok s  => exact ih hts s

theorem ofTokens_parse_congr (config : Option Config) (h : ∀ t ∈ ts, value? context t.kind = value? other t.kind) :
    (ofTokens { context, config } ts).parse.1 = (ofTokens { context := other, config } ts).parse.1 := by
  by_cases ht : (ts.headD (ofTokens {} ts).eol).kind = .eol
  case pos =>
    have hn (env : Environment) : (ofTokens env ts).parse.1 = .ok none := congrArg Prod.fst (if_pos ht)
    rw [hn, hn]
  case neg =>
    have hr (env : Environment) : (ofTokens env ts).parse = (ofTokens env ts).run {} ts := if_neg ht
    have he (context : Option Context) :
        (ofTokens { context, config } ts).toEnvironment = { context, config } := rfl
    rw [hr, hr]
    exact run_congr (he context) (he other) rfl h {}

end Parser

theorem parse_congr (config : Option Config)
    (h : ∀ call, IsCall call → Value.resolve context call = Value.resolve other call) (text : String) :
    parse text context config = parse text other config := by
  cases ht : tokenize text
  case error => simp only [parse, ht]; rfl
  case ok ts =>
    rw [parse_of_tokenize ht, parse_of_tokenize ht]
    refine Parser.ofTokens_parse_congr config fun t hm => Parser.value?_congr fun call hk => h call ?_
    obtain ⟨kinds, hc, hs⟩ := Lexer.cuts_of_tokenize ht
    have hm : t.kind ∈ kinds ++ [.eol] := hs ▸ List.mem_map_of_mem hm
    rw [hk] at hm
    have hm : Token.Kind.function call ∈ kinds := by simpa using hm
    exact (hc.lexed _ hm).isCall

end FilterQuery
