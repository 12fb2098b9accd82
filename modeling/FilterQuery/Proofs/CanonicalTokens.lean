import FilterQuery.Proofs.Parser.Introductions
import FilterQuery.Proofs.RoundTrip

namespace FilterQuery

namespace Token.Kind

-- The tokens before, the last of them first, open the index of a field.
def InIndex (before : List Kind) : Prop :=
  ∃ name more, before = .openBracket :: .identifier name :: more

-- The tokens that the canonical text may spell in another way.
def Respelled (before : List Kind) : Kind → Prop
  | string _ => True
  | number _ => InIndex before
  | identifier name => name = "empty" ∧ Parser.Place.after before = .value
  | _ => False

-- What the canonical text has for a token.
inductive Becomes (before : List Kind) : Kind → Kind → Prop
  | string (h : Text.unquote raw.toList = Text.unquote raw'.toList) :
    Becomes before (.string raw) (.string raw')
  | index (hi : InIndex before) (h : Double.read? text = some x) (h' : Double.read? text' = some x) :
    Becomes before (.number text) (.number text')
  | empty (hp : Parser.Place.after before = .value) : Becomes before (.identifier "empty") .null
  | same (h : ¬Respelled before t) : Becomes before t t

-- The canonical text has `us` for `ts`, which stand behind the tokens before.
inductive Kept : List Kind → List Kind → List Kind → Prop
  | nil : Kept before [] []
  | cons : Becomes before t u → Kept (t :: before) ts us → Kept before (t :: ts) (u :: us)

namespace Kept

theorem append (h : Kept before ts us) (h' : Kept (ts.reverse ++ before) ts' us') :
    Kept before (ts ++ ts') (us ++ us') := by
  induction h
  case nil          => exact h'
  case cons hb _ ih => exact .cons hb (ih (by simpa using h'))

theorem single (h : Becomes before t u) : Kept before [t] [u] := .cons h .nil

theorem same (h : ¬Respelled before t) (hk : Kept (t :: before) ts us) :
    Kept before (t :: ts) (t :: us) := .cons (.same h) hk

theorem length_eq (h : Kept before ts us) : ts.length = us.length := by
  induction h
  case nil     => rfl
  case cons ih => exact congrArg (· + 1) ih

theorem becomes (h : Kept before ts us) (ht : ts[i]? = some t) (hu : us[i]? = some u) :
    Becomes ((ts.take i).reverse ++ before) t u := by
  induction h generalizing i
  case nil => cases ht
  case cons hb _ ih =>
    cases i
    case zero   => cases ht; cases hu; exact hb
    case succ i => simpa using ih ht hu

end Kept
end Token.Kind

open Token.Kind

theorem not_inIndex_of_value (h : Parser.Place.after before = .value) : ¬InIndex before :=
  fun ⟨_, _, he⟩ => nomatch (congrArg Parser.Place.after he).symm.trans h

theorem quoted_becomes (before : List Token.Kind) (raw : String) :
    Becomes before (.string raw) (.string (quoted (.ofList (Text.unquote raw.toList)))) := by
  refine .string ?_
  have hq := congrArg String.toList (unquote_quoted (.ofList (Text.unquote raw.toList)))
  simpa only [String.toList_ofList] using hq.symm

namespace Grammar

theorem Literal.becomes (h : Literal none kind v) (hp : Parser.Place.after before = .value) :
    Becomes before kind v.token := by
  cases h
  case string raw => exact quoted_becomes before raw
  case number     => exact .same (not_inIndex_of_value hp)
  case boolean b  => cases b <;> exact .same id
  case null       => exact .same id
  case empty      => exact .empty hp
  case function   => exact .same id

theorem Field.kept (h : Field ts a) (hf : a.Finite) (hp : Parser.Place.after before = .operand) :
    Kept before ts a.tokens := by
  have hn : ∀ name, ¬Respelled before (.identifier name) := fun _ ⟨_, hv⟩ => nomatch hp.symm.trans hv
  cases h
  case name => exact .same (hn _) .nil
  case key raw =>
    exact .same (hn _) <| .same id <| .cons (quoted_becomes _ raw) <| .same id .nil
  case number hx =>
    have hi := Double.read?_toText (hf _ rfl)
    exact .same (hn _) <| .same id <| .cons (.index ⟨_, _, rfl⟩ hx hi) <| .same id .nil

theorem literals_kept (h : List.Forall₂ (Literal none) items values)
    (hp : Parser.Place.after before = .value) :
    Kept before (items.intersperse .comma) ((values.map Value.token).intersperse .comma) := by
  induction h generalizing before
  case nil => exact .nil
  case cons hv hvs ih =>
    cases hvs
    case nil  => exact .single (hv.becomes hp)
    case cons => exact .cons (hv.becomes hp) <| .same id <| ih rfl

-- The tokens of a chain's tail are kept behind those of what it follows.
def Symbol.Keeps : Symbol → List Token.Kind → Expr → Prop
  | tail _ left, ts, e => ∃ us, e.tokens = left.tokens ++ us ∧ ∀ before, Kept before ts us
  | _, ts, e => ∀ before, Parser.Place.after before = .operand → Kept before ts e.tokens

theorem Symbol.Keeps.operand (h : (operand op).Keeps ts e)
    (hp : Parser.Place.after before = .operand) : Kept before ts e.tokens := by
  cases op <;> exact h before hp

theorem Derives.keeps (h : Derives none x ts e) (hf : e.Finite) : x.Keeps ts e := by
  induction h
  case chain ht ih₁ ih₂ =>
    have ⟨us, he, hk⟩ := ih₂ hf
    intro before hp
    exact he ▸ ((ih₁ fun a h => hf a <| ht.tail_left.1 h).operand hp).append (hk _)
  case done => exact ⟨[], (List.append_nil _).symm, fun _ => .nil⟩
  case more ht ih₁ ih₂ =>
    have ⟨us, he, hk⟩ := ih₂ hf
    have hr := ih₁ fun a h => hf a <| ht.tail_left.1 <| List.mem_append_right _ h
    refine ⟨_, he.trans (List.append_assoc ..), fun before => ?_⟩
    exact .same id <| (hr.operand rfl).append (hk _)
  case not ih     => exact fun before _ => .same id <| ih hf _ rfl
  case primary ih => exact ih hf
  case paren ih =>
    exact fun before _ => .same id <| (ih hf _ rfl).append <| .same id .nil
  case boolean => exact fun before _ => .same id .nil
  case condition hl hv =>
    intro before hp
    have ha := hl.kept (hf _ <| List.mem_singleton_self _) hp
    exact ha.append <| .same id <| .single (hv.becomes rfl)
  case membership hl hv =>
    intro before hp
    have ha := hl.kept (hf _ <| List.mem_singleton_self _) hp
    exact ha.append <| .same id <| .same id <| (literals_kept hv rfl).append <| .same id .nil

end Grammar

-- The text and the canonical text have as many tokens, and each becomes the one at its place.
theorem parse_keeps_tokens (text : String) (config : Option Config) (e : Expr)
    (h : parse text none config = .ok (some e)) :
    ∃ ts us, tokenize text = .ok ts ∧ tokenize e.canonical = .ok us ∧ ts.length = us.length ∧
      ∀ i (t u : Token), ts[i]? = some t → us[i]? = some u →
        t.kind.Becomes ((ts.take i).map Token.kind).reverse u.kind := by
  have ⟨kinds, hc, hs⟩ := parse_eq_some_iff_cuts.mp (parse_unrestricted h)
  have ⟨ts, ht, hk⟩ := hc.tokenize
  have ⟨us, hu, hk'⟩ := (wellFormed_of_parse h).cuts.tokenize
  have hkept : Kept [] (ts.map Token.kind) (us.map Token.kind) :=
    hk ▸ hk' ▸ (hs.derives.keeps hs.finite [] rfl).append (.same id .nil)
  refine ⟨ts, us, ht, hu, by simpa using hkept.length_eq, fun i t u hi hj => ?_⟩
  have ht : (ts.map Token.kind)[i]? = some t.kind := by simp [hi]
  have hu : (us.map Token.kind)[i]? = some u.kind := by simp [hj]
  simpa [← List.map_take] using hkept.becomes ht hu

-- Each of the three kinds that are spelled anew: the index, `empty`, and the string with an escape.
theorem parse_keeps_tokens_respelled :
    let text := "NOT(x[007]IN[empty,\"a\\tb\"])"
    let seven : Double := .signed false 4619567317775286272 (by decide)
    let e : Expr := .not (.paren (.membership ⟨"x", some (.number seven)⟩ [.null, .string "a\tb"]))
    ∃ ts us, tokenize text = .ok ts ∧ tokenize e.canonical = .ok us ∧ ts.length = us.length ∧
      ∀ i (t u : Token), ts[i]? = some t → us[i]? = some u →
        t.kind.Becomes ((ts.take i).map Token.kind).reverse u.kind := by
  intro text seven e
  have hp : (parse text).toOption = some (some e) := by decide +kernel
  refine parse_keeps_tokens text none e ?_
  cases hr : parse text <;> simp_all [Except.toOption]

end FilterQuery
