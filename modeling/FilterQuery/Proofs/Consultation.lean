import FilterQuery.Proofs.FirstViolation
import FilterQuery.Proofs.Parser.Calls

namespace FilterQuery

-- The names that are put to the identifier predicate while a text is parsed, in order.
def consultations (text : String) (context : Option Context) (config : Option Config) : List String :=
  match tokenize text with
  | .error _ => []
  | .ok tokens => (Parser.ofTokens { context, config } tokens).parse.2.consulted

def Construct.identifier? : Construct → Option String
  | identifier name => some name
  | _ => none

-- The name that the error is about if it is one that is not permitted.
def ParseError.Cause.identifier? : Cause → Option String
  | forbidden construct => construct.identifier?
  | _ => none

def Token.Kind.opensOperand : Token.Kind → Bool
  | not | openParen | connective _ => true
  | _ => false

-- The identifiers that stand right behind AND, OR, NOT or an opening parenthesis; `opened` if the first token does.
def fieldNames (opened : Bool) : List Token → List String
  | [] => []
  | t :: ts =>
    match t.kind with
    | .identifier name => (if opened then [name] else []) ++ fieldNames false ts
    | kind => fieldNames kind.opensOperand ts

theorem identifiers_accessor (a : Accessor) : a.constructs.filterMap Construct.identifier? = [a.field] := by
  simp only [Accessor.constructs]
  split <;> rfl

theorem identifiers_constructs (e : Expr) :
    e.constructs.filterMap Construct.identifier? = e.accessors.map Accessor.field := by
  have hv (values : List Value) :
      (values.map (Construct.valueKind ·.kind)).filterMap Construct.identifier? = [] := by
    simp [Construct.identifier?]
  induction e
  case condition left op right =>
    simp [Expr.constructs, Expr.accessors, identifiers_accessor, Construct.identifier?]
  case membership left values =>
    simp only [Expr.constructs, Expr.accessors, List.filterMap_append, identifiers_accessor, List.filterMap_cons,
      Construct.identifier?, hv]
    rfl
  case binary ihl ihr =>
    simp only [Expr.constructs, Expr.accessors, List.filterMap_append, List.map_append, ihl]
    exact congrArg _ ihr
  case not ih   => exact ih
  case paren ih => exact ih
  case boolean  => rfl

namespace Parser

theorem after_eq_operand_iff : Place.after (kind :: before) = .operand ↔ kind.opensOperand := by
  cases kind
  case openBracket => simp only [Place.after]; split <;> simp_all [Token.Kind.opensOperand]
  all_goals simp [Place.after, Token.Kind.opensOperand]

-- A field name introduces itself, and nothing else introduces a name.
theorem identifier?_introduced? (context : Option Context) (before : List Token.Kind) (kind : Token.Kind) :
    (introduced? context before kind).bind Construct.identifier? =
      match kind with
      | .identifier name => if Place.after before = .operand then some name else none
      | _ => none := by
  simp only [introduced?]
  cases hp : Place.after before
  case operand  => cases kind <;> rfl
  case value    => cases kind <;> simp [Option.bind_map, Construct.identifier?, Function.comp_def]
  case operator => cases kind <;> simp [Construct.identifier?]

theorem identifiers_toList (o : Option Construct) (span : Span) :
    ((o.toList.map (·, span)).map Prod.fst).filterMap Construct.identifier? =
      (o.bind Construct.identifier?).toList := by
  cases o
  case none   => rfl
  case some c => cases hc : c.identifier? <;> simp [hc]

theorem identifiers_introductionsAfter (context : Option Context) (before : List Token.Kind) (ts : List Token) :
    ((introductionsAfter context before ts).map Prod.fst).filterMap Construct.identifier? =
      fieldNames (Place.after before = .operand) ts := by
  induction ts generalizing before
  case nil => rfl
  case cons t ts ih =>
    have ht := identifier?_introduced? context before t.kind
    have hk : decide (Place.after (t.kind :: before) = .operand) = t.kind.opensOperand := by
      simp [after_eq_operand_iff]
    rw [introductionsAfter, List.map_append, List.filterMap_append, identifiers_toList, ht, ih, hk, fieldNames]
    cases t.kind
    case identifier => by_cases hp : Place.after before = .operand <;> simp [hp, Token.Kind.opensOperand]
    all_goals rfl

namespace State

variable {env : Environment} {s s' : State}

theorem consulted_consult (hp : env.hasPredicate) (s : State) (t : Token) :
    (s.consult env t).consulted =
      s.consulted ++ ((s.introduces env.context t.kind).bind Construct.identifier?).toList := by
  simp only [consult]
  cases s.introduces env.context t.kind
  case none => simp
  case some c =>
    cases c
    case identifier => simp [hp, Construct.identifier?]
    all_goals simp [Construct.identifier?]

theorem mode_of_introduces (h : s.introduces context kind = some (.identifier name)) :
    s.mode = .operand ∧ kind = .identifier name := by
  simp only [introduces] at h
  split at h <;> simp_all

theorem identifier?_fault (s : State) (found : Token.Kind) : (s.fault found).identifier? = none := by
  simp only [fault]
  split <;> rfl

-- Where a name may stand, every name can be read.
theorem identifier?_introduces (ha : ∀ s', ¬s.Advance context t s') :
    (s.introduces context t.kind).bind Construct.identifier? = none := by
  refine Option.bind_eq_none_iff.mpr fun c hc => ?_
  cases c
  case identifier name =>
    obtain ⟨hm, hk⟩ := mode_of_introduces hc
    obtain ⟨kind, span⟩ := t
    cases hk
    exact absurd (.identifier hm) (ha _)
  all_goals rfl

-- At a fault, a name is asked for just if it is the one that is not permitted.
theorem Stuck.consulted_consult (hp : env.hasPredicate) (h : s.Stuck env t cause) :
    (s.consult env t).consulted = s.consulted ++ cause.identifier?.toList := by
  rw [State.consulted_consult hp]
  cases h
  case forbidden hi _ => rw [hi]; rfl
  case fault ha _     => rw [identifier?_introduces ha, identifier?_fault]

theorem Stuck.kind_eq (h : s.Stuck env t cause) (hn : name ∈ cause.identifier?) : t.kind = .identifier name := by
  cases h
  case forbidden c hi _ =>
    cases c <;> cases hn
    exact (mode_of_introduces hi).2
  case fault => exact nomatch (identifier?_fault ..).symm.trans hn

end State

open State

variable {env : Environment}

theorem identifiers_introductions (context : Option Context) (ts : List Token) :
    ((introductions context ts).map Prod.fst).filterMap Construct.identifier? = fieldNames true ts :=
  identifiers_introductionsAfter context [] ts

-- At every state of a call, exactly the fields among the tokens before have been asked for.
theorem Passes.consulted (hp : env.hasPredicate) (h : (ofTokens env ts).Passes s vs) :
    ∃ us, ts = us ++ vs ∧ Reads env.context {} us { s with consulted := [] } ∧
      s.consulted = fieldNames true us := by
  induction h
  case start => exact ⟨[], rfl, .refl, rfl⟩
  case step s t _ s' _ _ hs ih =>
    obtain ⟨us, hts, hr, hc⟩ := ih
    obtain ⟨names, hn⟩ := s.consult_eq env t
    have hcons := consulted_consult hp s t
    have hs : (s.consult env t).step env t = .ok s' := hs
    rw [hn] at hs hcons
    have ha := (step_eq_ok_iff.mp hs).2
    have hb : { s with consulted := names }.mode.After (us.map Token.kind).reverse := hr.after_init
    have hi : introduced? env.context (us.map Token.kind).reverse t.kind = s.introduces env.context t.kind :=
      (ha.introduced?_eq hb :)
    refine ⟨us ++ [t], by simpa using hts, hr.trans <| .step (ha.consulted []) .refl, ?_⟩
    rw [ha.consulted_eq, ← identifiers_introductions env.context, introductions_split, List.map_append,
      List.filterMap_append, identifiers_introductions, List.map_append, List.filterMap_append, identifiers_toList, hi]
    simpa [introductionsAfter, hc] using hcons

theorem consulted_of_parse (hp : env.hasPredicate) (h : (ofTokens env ts).parse.1 = .ok query) :
    (ofTokens env ts).parse.2.consulted = (query.elim [] Expr.accessors).map Accessor.field := by
  by_cases ht : ((ofTokens env ts).rest.headD (ofTokens env ts).eol).kind = .eol
  case pos =>
    rw [parse_of_eol ht] at h ⊢
    cases h
    rfl
  case neg =>
    obtain ⟨s, vs, hs, hend⟩ := parse_ends (ready_ofTokens env ts) ht
    obtain ⟨us, hts, hr, hc⟩ := hs.consulted hp
    generalize (ofTokens env ts).parse = result at h hend
    cases hend
    case error => cases h
    case query e hy _ =>
      cases h
      have he : e.constructs = (introductions env.context us).map Prod.fst :=
        (Yields.constructs_eq (hr.settled settled_init) hy).trans hr.constructs_eq_init
      rw [Option.elim_some, ← identifiers_constructs, he, identifiers_introductions]
      exact hc

theorem consulted_of_parse_error (hp : env.hasPredicate) (hl : ∃ t ∈ ts, t.kind = .eol)
    (h : (ofTokens env ts).parse.1 = .error error) :
    ∃ before t after, ts = before ++ t :: after ∧ error.span = t.span ∧
      (ofTokens env ts).parse.2.consulted = fieldNames true before ++ error.cause.identifier?.toList ∧
      ∀ name ∈ error.cause.identifier?, t.kind = .identifier name := by
  by_cases ht : ((ofTokens env ts).rest.headD (ofTokens env ts).eol).kind = .eol
  case pos =>
    rw [parse_of_eol ht] at h
    cases h
  case neg =>
    obtain ⟨s, vs, hs, hend⟩ := parse_ends (ready_ofTokens env ts) ht
    obtain ⟨us, hts, hr, hc⟩ := hs.consulted hp
    generalize (ofTokens env ts).parse = result at h hend
    cases hend
    case query => cases h
    case error cause hs =>
      cases h
      -- the end of the text has not been read
      obtain ⟨t, hm, hk⟩ := hl
      rw [hts] at hm
      have hv : vs ≠ [] := by
        rintro rfl
        exact hr.kind_ne_eol t (by simpa using hm) hk
      obtain ⟨t, after, rfl⟩ := List.exists_cons_of_ne_nil hv
      exact ⟨us, t, after, hts, rfl, hc ▸ hs.consulted_consult hp, fun _ => hs.kind_eq⟩

end Parser

-- While a text is parsed, the predicate is asked once for each field, from left to right, and for nothing else. Where
-- the parser stops, it has been asked for the fields before, and for the one at fault if its name is the fault.
theorem parse_consults (text : String) (context : Option Context) (config : Config) (hp : config.hasPredicate) :
    let calls := consultations text context (some config)
    (∀ error, tokenize text = .error error → calls = []) ∧
    (∀ query, parse text context (some config) = .ok query →
      calls = (query.elim [] Expr.accessors).map Accessor.field) ∧
    (∀ ts error, tokenize text = .ok ts → parse text context (some config) = .error error →
      ∃ before t after, ts = before ++ t :: after ∧ error.span = t.span ∧
        calls = fieldNames true before ++ error.cause.identifier?.toList ∧
        ∀ name ∈ error.cause.identifier?, t.kind = .identifier name) := by
  intro calls
  refine ⟨fun error ht => ?lexical, fun query h => ?parsed, fun ts error ht h => ?failed⟩
  case lexical => simp only [calls, consultations, ht]
  case parsed =>
    obtain ⟨ts, ht, h⟩ := parse_eq_ok_iff.mp h
    simp only [calls, consultations, ht]
    exact Parser.consulted_of_parse hp h
  case failed =>
    rw [parse_of_tokenize ht] at h
    simp only [calls, consultations, ht]
    exact Parser.consulted_of_parse_error hp (exists_eol_of_tokenize ht) h

-- Neither the call nor `empty` is a field.
theorem parse_consults_violation :
    let config : Config := { identifiers := some (.predicate (· != "secret")) }
    let accepted := "a = empty OR NOT (b[\"k\"] IN [now(), empty])"
    let refused := "a = empty OR NOT (secret IN [now(), empty])"
    let e : Expr := .binary (.condition ⟨"a", none⟩ .eq .null) .or <|
      .not <| .paren <| .membership ⟨"b", some (.key "k")⟩ [.function "now()", .null]
    let error : ParseError := ⟨.forbidden (.identifier "secret"), ⟨18, 24⟩⟩
    parse accepted none (some config) = .ok (some e) ∧ consultations accepted none (some config) = ["a", "b"] ∧
    parse refused none (some config) = .error error ∧
    ∀ ts, tokenize refused = .ok ts →
      ∃ before t after, ts = before ++ t :: after ∧ error.span = t.span ∧
        consultations refused none (some config) = fieldNames true before ++ ["secret"] ∧
        t.kind = .identifier "secret" := by
  intro config accepted refused e error
  have h : parse accepted none (some config) = .ok (some e) := by decide +kernel
  have h' : parse refused none (some config) = .error error := by decide +kernel
  obtain ⟨_, hok, _⟩ := parse_consults accepted none config rfl
  obtain ⟨_, _, herror⟩ := parse_consults refused none config rfl
  refine ⟨h, hok _ h, h', fun ts ht => ?_⟩
  obtain ⟨before, t, after, hts, hs, hc, hk⟩ := herror ts error ht h'
  exact ⟨before, t, after, hts, hs, hc, hk "secret" rfl⟩

end FilterQuery
