import FilterQuery.Expr.Printer
import FilterQuery.Proofs.Expr.WellFormed
import FilterQuery.Proofs.Grammar.Spelled
import FilterQuery.Proofs.Lexer.Spelling
import FilterQuery.Proofs.Numeral.RoundTrip

namespace FilterQuery

open Lexer (Cuts Closes)

def Value.token (v : Value) : Token.Kind :=
  match v.kind with
  | .null => .null
  | .boolean => .boolean (v.text == "true")
  | .number => .number v.text
  | .string => .string (quoted v.text)
  | .function => .function v.text

def Index.token : Index → Token.Kind
  | key text => .string (quoted text)
  | number x => .number x.toText

def Accessor.tokens (a : Accessor) : List Token.Kind :=
  match a.index with
  | none => [.identifier a.field]
  | some index => [.identifier a.field, .openBracket, index.token, .closeBracket]

def Expr.tokens : Expr → List Token.Kind
  | condition left op right => left.tokens ++ [.comparison op, right.token]
  | membership left values =>
    left.tokens ++ .membership :: .openBracket ::
      ((values.map Value.token).intersperse .comma ++ [.closeBracket])
  | binary left op right => left.tokens ++ .connective op :: right.tokens
  | not e => .not :: e.tokens
  | paren e => .openParen :: (e.tokens ++ [.closeParen])
  | boolean b => [.boolean b]

theorem cuts_quoted (s : String) (left : List Char) :
    Cuts ((quoted s).toList ++ left) [.string (quoted s)] left := by
  simpa [quoted] using Cuts.quoted s.toList left

theorem Value.cuts {v : Value} (h : v.WellFormed) (hl : Closes left) :
    Cuts (v.canonical.toList ++ left) [v.token] left := by
  obtain ⟨text, kind⟩ := v
  cases kind
  case null =>
    obtain rfl : text = "null" := h
    exact .keyword "null" (by decide) hl
  case boolean =>
    rcases h with rfl | rfl
    case inl => exact .keyword "true" (by decide) hl
    case inr => exact .keyword "false" (by decide) hl
  case number => simpa [canonical, token] using Cuts.number h hl
  case string => exact cuts_quoted ..
  case function =>
    obtain ⟨word, hn, rfl⟩ := h
    simpa [canonical, token] using Cuts.function hn

theorem Index.cuts {index : Index} (h : ∀ x, index = .number x → x.isFinite) (hl : Closes left) :
    Cuts (index.canonical.toList ++ left) [index.token] left := by
  cases index
  case key      => exact cuts_quoted ..
  case number x => simpa [canonical, token] using Cuts.number (Double.signed_toText (h x rfl)) hl

theorem Accessor.cuts {a : Accessor} (h : a.WellFormed) (hl : Closes left) :
    Cuts (a.canonical.toList ++ left) a.tokens left := by
  cases hi : a.index
  case none => simpa [canonical, tokens, hi] using Cuts.name h.name hl
  case some index =>
    have hx : Cuts (index.canonical.toList ++ ']' :: left) _ (']' :: left) :=
      Index.cuts (fun x hx => h.finite x (hx ▸ hi)) .closeBracket
    have hc : Cuts (a.field.toList ++ '[' :: (index.canonical.toList ++ ']' :: left)) _ left :=
      (Cuts.name h.name .openBracket).trans <| .lexeme rfl <| hx.trans <| .lexeme rfl .done
    simpa [canonical, tokens, hi] using hc

theorem cuts_values {values : List Value} (h : ∀ v ∈ values, v.WellFormed) (hl : Closes left) :
    Cuts ((String.intercalate ", " (values.map Value.canonical)).toList ++ left)
      ((values.map Value.token).intersperse .comma) left := by
  induction values
  case nil => simpa using Cuts.done
  case cons v vs ih =>
    have hv := h v (List.mem_cons_self ..)
    have ih := ih fun w hw => h w (List.mem_cons_of_mem _ hw)
    cases vs
    case nil       => simpa using Value.cuts hv hl
    case cons w vs =>
      have hc : Cuts (v.canonical.toList ++ ',' :: ' ' :: (_ ++ left)) _ left :=
        (Value.cuts hv .comma).trans <| .lexeme rfl <| .gap rfl ih
      simpa [String.intercalate_cons_cons] using hc

-- The induction is on the expression, with anything that closes it behind its text.
theorem Expr.cuts {e : Expr} (h : e.Leaves Accessor.WellFormed Value.WellFormed) (hl : Closes left) :
    Cuts (e.canonical.toList ++ left) e.tokens left := by
  induction e generalizing left
  case condition l op r =>
    have ha := h.accessors l (List.mem_singleton_self _)
    have hv := h.values r (List.mem_singleton_self _)
    simp only [canonical, String.toList_append, List.append_assoc]
    exact (Accessor.cuts ha .space).trans <| .gap rfl <|
      (Cuts.comparison op .space).trans <| .gap rfl <| Value.cuts hv hl
  case membership l vs =>
    have ha := h.accessors l (List.mem_singleton_self _)
    simp only [canonical, String.toList_append, List.append_assoc]
    exact (Accessor.cuts ha .space).trans <| .gap rfl <|
      (Cuts.keyword "IN" (by decide) .space).trans <| .gap rfl <| .lexeme rfl <|
      (cuts_values h.values .closeBracket).trans <| .lexeme rfl .done
  case binary l op r ih₁ ih₂ =>
    have ⟨h₁, h₂⟩ := leaves_binary_iff.mp h
    simp only [canonical, String.toList_append, List.append_assoc]
    exact (ih₁ h₁ .space).trans <| .gap rfl <|
      (Cuts.connective op .space).trans <| .gap rfl <| ih₂ h₂ hl
  case not e ih =>
    replace h := leaves_not_iff.mp h
    simp only [canonical, String.toList_append, List.append_assoc]
    exact (Cuts.keyword "NOT" (by decide) .space).trans <| .gap rfl <| ih h hl
  case paren e ih =>
    replace h := leaves_paren_iff.mp h
    simp only [canonical, String.toList_append, List.append_assoc]
    exact .lexeme rfl <| (ih h .closeParen).trans <| .lexeme rfl .done
  case boolean b =>
    cases b
    case false => exact .keyword "false" (by decide) hl
    case true  => exact .keyword "true" (by decide) hl

theorem Expr.WellFormed.cuts {e : Expr} (h : e.WellFormed) : Cuts e.canonical.toList e.tokens [] := by
  simpa using Expr.cuts ⟨h.accessors, h.values⟩ .nil

open Grammar

theorem unquote_quoted (s : String) : String.ofList (Text.unquote (quoted s).toList) = s := by
  simp [quoted, Text.unquote_quote]

theorem Value.literal {v : Value} (h : v.WellFormed) (hu : v.Unresolved context) :
    Literal context v.token v := by
  have ⟨text, kind⟩ := v
  cases kind
  case null =>
    cases h
    exact .null
  case boolean =>
    cases h
    case inl h =>
      have ht : token ⟨text, .boolean⟩ = .boolean true := by simp_all [token]
      exact ht ▸ congrArg (Value.mk · .boolean) h ▸ .boolean
    case inr h =>
      have ht : token ⟨text, .boolean⟩ = .boolean false := by simp_all [token]
      exact ht ▸ congrArg (Value.mk · .boolean) h ▸ .boolean
  case number => exact .number
  case string =>
    have hl : Literal context (.string (quoted text)) _ := .string
    rwa [unquote_quoted] at hl
  case function =>
    have hr : resolve context text = function text := by rw [resolve, hu rfl]
    have hl : Literal context (.function text) (resolve context text) := .function
    rwa [hr] at hl

theorem Index.field (name : String) {index : Index} (h : ∀ x, index = .number x → x.isFinite) :
    Field [.identifier name, .openBracket, index.token, .closeBracket] ⟨name, some index⟩ := by
  cases index
  case key text =>
    have hf : Field [.identifier name, .openBracket, .string (quoted text), .closeBracket] _ := .key
    rwa [unquote_quoted] at hf
  case number x => exact .number (Double.read?_toText (h x rfl))

theorem Accessor.field_tokens {a : Accessor} (h : a.Finite) : Field a.tokens a := by
  have ⟨name, index⟩ := a
  cases index
  case none       => exact .name
  case some index => exact Index.field name fun x hx => h x (hx ▸ rfl)

theorem literals_tokens {values : List Value} (h : ∀ v ∈ values, v.WellFormed)
    (hu : ∀ v ∈ values, v.Unresolved context) :
    List.Forall₂ (Literal context) (values.map Value.token) values := by
  induction values
  case nil => exact .nil
  case cons v vs ih =>
    have ⟨h₁, h₂⟩ := List.forall_mem_cons.mp h
    have ⟨hu₁, hu₂⟩ := List.forall_mem_cons.mp hu
    exact .cons (Value.literal h₁ hu₁) (ih h₂ hu₂)

-- What an expression is derived as depends on its operator at the top.
structure Grammar.DerivesTokens (context : Option Context) (e : Expr) : Prop where
  disjunction : Derives context (.chain .or) e.tokens e
  conjunction : ¬e.isOr → Derives context (.chain .and) e.tokens e
  negation    : ¬e.isBinary → Derives context .negation e.tokens e

theorem Grammar.DerivesTokens.of_negation (h : Derives context .negation e.tokens e) :
    DerivesTokens context e :=
  have hc : Derives context (.operand .or) e.tokens e := .operand_chain h
  ⟨hc.operand_chain, fun _ => hc, fun _ => h⟩

theorem Expr.derivesTokens {e : Expr} (hl : e.Layered)
    (h : e.Leaves Accessor.WellFormed fun v => v.WellFormed ∧ v.Unresolved context) :
    DerivesTokens context e := by
  induction e
  case condition l op r =>
    have ha := h.accessors l (List.mem_singleton_self _)
    have ⟨hv, hu⟩ := h.values r (List.mem_singleton_self _)
    exact .of_negation <| .primary <| .condition (Accessor.field_tokens ha.finite) (Value.literal hv hu)
  case membership l vs =>
    have ha := h.accessors l (List.mem_singleton_self _)
    have hf := literals_tokens (fun v hv => (h.values v hv).1) (fun v hv => (h.values v hv).2)
    exact .of_negation <| .primary <| .membership (Accessor.field_tokens ha.finite) hf
  case binary l op r ih₁ ih₂ =>
    have ⟨h₁, h₂⟩ := leaves_binary_iff.mp h
    cases op
    case or =>
      have ⟨hl₁, hl₂, ho⟩ := hl
      have hd := (ih₁ hl₁ h₁).disjunction.chain_snoc ((ih₂ hl₂ h₂).conjunction ho)
      exact ⟨hd, fun h => absurd rfl h, fun h => absurd rfl h⟩
    case and =>
      have ⟨hl₁, hl₂, ho, hb⟩ := hl
      have hd := ((ih₁ hl₁ h₁).conjunction ho).chain_snoc ((ih₂ hl₂ h₂).negation hb)
      exact ⟨.operand_chain hd, fun _ => hd, fun h => absurd rfl h⟩
  case not e ih =>
    exact .of_negation <| .not ((ih hl.1 (leaves_not_iff.mp h)).negation hl.2)
  case paren e ih =>
    exact .of_negation <| .primary <| .paren (ih hl (leaves_paren_iff.mp h)).disjunction
  case boolean => exact .of_negation <| .primary .boolean

end FilterQuery
