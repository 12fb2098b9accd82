import FilterQuery.Proofs.Parser.Failure

namespace FilterQuery.Parser

-- What a token is taken for.
inductive Place
  | operand
  | value
  -- behind a field, its index, or an operand
  | operator
  deriving DecidableEq

-- The last of the tokens before comes first.
def Place.after : List Token.Kind → Place
  | [] | .not :: _ | .openParen :: _ | .connective _ :: _ => operand
  | .comparison _ :: _ | .comma :: _ | .openBracket :: .membership :: _ => value
  | _ => operator

def introduced? (context : Option Context) (before : List Token.Kind) (found : Token.Kind) :
    Option Construct :=
  match Place.after before, found with
  | .operand, .not => some (.logicalOperator .not)
  | .operand, .openParen => some .parentheses
  | .operand, .identifier name => some (.identifier name)
  | .value, found => (value? context found).map (.valueKind ·.kind)
  | .operator, .connective op => some (.logicalOperator (.connective op))
  | .operator, .comparison op => some (.operation (.comparison op))
  | .operator, .membership => some (.operation .membership)
  -- the one behind IN opens a list
  | .operator, .openBracket => if before.head? = some .membership then none else some .indexAccess
  | _, _ => none

-- The constructs that the tokens introduce, with their places.
def introductionsAfter (context : Option Context) :
    List Token.Kind → List Token → List (Construct × Span)
  | _, [] => []
  | before, t :: ts =>
    (introduced? context before t.kind).toList.map (·, t.span) ++
      introductionsAfter context (t.kind :: before) ts

def introductions (context : Option Context) (ts : List Token) : List (Construct × Span) :=
  introductionsAfter context [] ts

theorem introductionsAfter_append (context : Option Context) (before : List Token.Kind)
    (ts us : List Token) :
    introductionsAfter context before (ts ++ us) =
      introductionsAfter context before ts ++
        introductionsAfter context ((ts.map Token.kind).reverse ++ before) us := by
  induction ts generalizing before
  case nil         => rfl
  case cons t _ ih => simp [introductionsAfter, ih, List.append_assoc]

theorem introductions_split (context : Option Context) (ts : List Token) (t : Token)
    (us : List Token) :
    introductions context (ts ++ t :: us) =
      introductions context ts ++
        ((introduced? context (ts.map Token.kind).reverse t.kind).toList.map (·, t.span) ++
          introductionsAfter context (t.kind :: (ts.map Token.kind).reverse) us) := by
  simp [introductions, introductionsAfter_append, introductionsAfter]

theorem introduced?_eol (context : Option Context) (before : List Token.Kind) :
    introduced? context before .eol = none := by
  simp only [introduced?]
  split <;> first | rfl | contradiction

theorem mem_of_introductionsAfter (h : m ∈ introductionsAfter context before ts) :
    ∃ t ∈ ts, m.2 = t.span := by
  induction ts generalizing before
  case nil => exact nomatch h
  case cons t ts ih =>
    cases List.mem_append.mp h
    case inl h =>
      have ⟨_, _, hm⟩ := List.mem_map.mp h
      exact ⟨t, List.mem_cons_self .., hm ▸ rfl⟩
    case inr h =>
      have ⟨u, hu, hm⟩ := ih h
      exact ⟨u, List.mem_cons_of_mem _ hu, hm⟩

-- What a mode tells about the tokens before.
inductive Mode.After : Mode → List Token.Kind → Prop
  | operand (h : Place.after before = .operand) : After .operand before
  | fieldEnd : After (.fieldEnd name) (.identifier name :: before)
  | index : After (.index name bracket) (.openBracket :: .identifier name :: before)
  | indexEnd (h : readIndex kind = .ok i) : After (.indexEnd left bracket) (kind :: before)
  | operator : After (.operator left) (.closeBracket :: before)
  | value : After (.value left op) (.comparison op :: before)
  | listStart : After (.listStart left) (.membership :: before)
  | firstItem : After (.firstItem left bracket) (.openBracket :: .membership :: before)
  | item : After (.item left bracket values) (.comma :: before)
  | itemEnd (h : value? context kind = some v) : After (.itemEnd left bracket values) (kind :: before)
  | operandEnd (h : Place.after before = .operator) : After (.operandEnd e) before

theorem after_of_readIndex (h : readIndex kind = .ok i) : Place.after (kind :: before) = .operator := by
  cases kind <;> simp_all [readIndex, Place.after]

theorem after_of_value? (h : value? context kind = some v) :
    Place.after (kind :: before) = .operator := by
  cases kind <;> simp_all [value?, Place.after]

namespace State

variable {s s' : State}

theorem Advance.after (hb : s.mode.After before) (h : s.Advance context t s') :
    s'.mode.After (t.kind :: before) := by
  cases h
  case not hm _         => exact hm ▸ .operand rfl
  case openParen hm _   => exact hm ▸ .operand rfl
  case boolean          => exact .operandEnd rfl
  case identifier       => exact .fieldEnd
  case openIndex hm     => cases hm ▸ hb; exact .index
  case index hi         => exact .indexEnd hi
  case closeIndex       => exact .operator
  case comparison       => exact .value
  case membership       => exact .listStart
  case value hv         => exact .operandEnd (after_of_value? hv)
  case openList hm      => cases hm ▸ hb; exact .firstItem
  case firstItem hv     => exact .itemEnd hv
  case item hv          => exact .itemEnd hv
  case comma            => exact .item
  case closeEmpty       => exact .operandEnd rfl
  case closeList        => exact .operandEnd rfl
  case connective       => exact .operand rfl
  case closeParen       => exact .operandEnd rfl

theorem introduced?_of_introduces (hb : s.mode.After before)
    (hi : s.introduces context kind = some c) : introduced? context before kind = some c := by
  generalize hm : s.mode = m at hb
  cases hb <;> simp only [introduces, hm] at hi
  case operand h    => cases kind <;> simp_all [introduced?]
  case fieldEnd     => cases kind <;> simp_all [introduced?, Place.after]
  case operator     => cases kind <;> simp_all [introduced?, Place.after]
  case value        => exact hi
  case firstItem    => exact hi
  case item         => exact hi
  case operandEnd h => cases kind <;> simp_all [introduced?]
  all_goals cases hi

theorem Advance.introduced?_eq (hb : s.mode.After before) (h : s.Advance context t s') :
    introduced? context before t.kind = s.introduces context t.kind := by
  cases hi : s.introduces context t.kind
  case some => exact introduced?_of_introduces hb hi
  case none =>
    cases h
    case boolean hm => cases hm ▸ hb with | operand hp => simp [introduced?, hp]
    case index kind _ _ hm h =>
      cases hm ▸ hb
      cases kind <;> simp_all [readIndex, introduced?, Place.after]
    case closeIndex hm =>
      cases hm ▸ hb with | indexEnd h => simp [introduced?, after_of_readIndex h]
    case openList hm     => cases hm ▸ hb; simp [introduced?, Place.after]
    case comma hm        => cases hm ▸ hb with | itemEnd h => simp [introduced?, after_of_value? h]
    case closeEmpty hm   => cases hm ▸ hb; simp [introduced?, Place.after, value?]
    case closeList hm    => cases hm ▸ hb with | itemEnd h => simp [introduced?, after_of_value? h]
    case closeParen hm _ => cases hm ▸ hb with | operandEnd h => simp [introduced?, h]
    case comparison hm   => simp [introduces_of_fieldRead hm context] at hi
    case membership hm   => simp [introduces_of_fieldRead hm context] at hi
    all_goals simp_all [introduces]

theorem operand_of_tooDeep (h : s.fault kind = .tooDeep) :
    s.mode = .operand ∧ (kind = .not ∨ kind = .openParen) := by
  simp only [fault] at h
  split at h <;> simp_all

-- A token that would nest too deeply introduces its construct all the same.
theorem introduced?_eq_of_tooDeep (hb : s.mode.After before) (h : s.fault kind = .tooDeep) :
    introduced? context before kind = s.introduces context kind := by
  have ⟨hm, hk⟩ := operand_of_tooDeep h
  cases hm ▸ hb with | operand hp => rcases hk with rfl | rfl <;> simp [introduced?, introduces, hp, hm]

namespace Reads

theorem after (hb : s.mode.After before) (h : s.Reads context ts s') :
    s'.mode.After ((ts.map Token.kind).reverse ++ before) := by
  induction h generalizing before
  case refl         => exact hb
  case step ha _ ih => simpa using ih (ha.after hb)

theorem constructs_eq (hs : s.Settled) (hb : s.mode.After before) (h : s.Reads context ts s') :
    s'.constructs = s.constructs ++ (introductionsAfter context before ts).map Prod.fst := by
  induction h generalizing before
  case refl => simp [introductionsAfter]
  case step ha _ ih =>
    rw [ih ha.settled (ha.after hb), ha.constructs_eq hs, ← ha.introduced?_eq hb]
    simp [introductionsAfter, Function.comp_def]

theorem after_init (h : Reads context {} ts s) : s.mode.After (ts.map Token.kind).reverse := by
  simpa using h.after (.operand rfl : Mode.After .operand [])

theorem constructs_eq_init (h : Reads context {} ts s) :
    s.constructs = (introductions context ts).map Prod.fst := by
  simpa [constructs_init, introductions] using
    h.constructs_eq settled_init (.operand rfl : Mode.After .operand [])

end Reads
end State
end FilterQuery.Parser
