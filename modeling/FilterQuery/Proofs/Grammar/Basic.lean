import FilterQuery.Parser.Step
import FilterQuery.Proofs.Expr.Parts
import Mathlib.Data.List.Forall2

namespace FilterQuery.Grammar

inductive Literal (context : Option Context) : Token.Kind → Value → Prop
  | string : Literal context (.string raw) (.string (.ofList (Text.unquote raw.toList)))
  | number : Literal context (.number text) (.number text)
  | boolean : Literal context (.boolean b) (.boolean b)
  | null : Literal context .null .null
  | empty : Literal context (.identifier "empty") .null
  | function : Literal context (.function call) (.resolve context call)

inductive Field : List Token.Kind → Accessor → Prop
  | name : Field [.identifier name] { field := name }
  | key :
    Field [.identifier name, .openBracket, .string raw, .closeBracket]
      ⟨name, some (.key (.ofList (Text.unquote raw.toList)))⟩
  | number (h : Double.read? text = some x) :
    Field [.identifier name, .openBracket, .number text, .closeBracket] ⟨name, some (.number x)⟩

-- The symbols of the grammar, from loose to tight.
inductive Symbol
  -- operands with this connective between them
  | chain (op : Connective)
  -- what may follow `left` in such a chain
  | tail (op : Connective) (left : Expr)
  | negation
  | primary

-- AND binds more tightly than OR, and NOT more tightly than AND.
def Symbol.operand : Connective → Symbol
  | .or => chain .and
  | .and => negation

-- The tokens spell the expression, with no regard to how they are read or to the limit on nesting.
inductive Derives (context : Option Context) : Symbol → List Token.Kind → Expr → Prop
  | chain :
    Derives context (.operand op) ts left → Derives context (.tail op left) us e →
    Derives context (.chain op) (ts ++ us) e
  | done : Derives context (.tail op e) [] e
  | more :
    Derives context (.operand op) ts right →
    Derives context (.tail op (.binary left op right)) us e →
    Derives context (.tail op left) (.connective op :: (ts ++ us)) e
  | not : Derives context .negation ts e → Derives context .negation (.not :: ts) (.not e)
  | primary : Derives context .primary ts e → Derives context .negation ts e
  | paren :
    Derives context (.chain .or) ts e →
    Derives context .primary (.openParen :: (ts ++ [.closeParen])) (.paren e)
  | boolean : Derives context .primary [.boolean b] (.boolean b)
  | condition :
    Field ts left → Literal context kind v →
    Derives context .primary (ts ++ [.comparison op, kind]) (.condition left op v)
  | membership :
    Field ts left → List.Forall₂ (Literal context) items values →
    Derives context .primary
      (ts ++ .membership :: .openBracket :: (items.intersperse .comma ++ [.closeBracket]))
      (.membership left values)

theorem value?_eq_some_iff : Parser.value? context kind = some v ↔ Literal context kind v := by
  constructor
  case mp =>
    intro h
    simp only [Parser.value?] at h
    split at h <;> cases h <;> constructor
  case mpr => intro h; cases h <;> rfl

theorem Derives.operand_chain (h : Derives context (.operand op) ts e) :
    Derives context (.chain op) ts e :=
  List.append_nil ts ▸ .chain h .done

-- A chain grows to the right, although its rules take it apart from the left.
theorem Derives.tail_snoc (h : Derives context (.tail op left) ts e)
    (hr : Derives context (.operand op) us right) :
    Derives context (.tail op left) (ts ++ .connective op :: us) (.binary e op right) := by
  generalize hs : Symbol.tail op left = s at h
  induction h generalizing left <;> cases hs
  case done => exact List.append_nil us ▸ .more hr .done
  case more h _ _ ih => simpa using .more h (ih rfl)

theorem Derives.chain_snoc (h : Derives context (.chain op) ts e)
    (hr : Derives context (.operand op) us right) :
    Derives context (.chain op) (ts ++ .connective op :: us) (.binary e op right) := by
  cases h
  case chain h ht => simpa using .chain h (ht.tail_snoc hr)

theorem Derives.tail_binary (h : Derives context (.tail op left) ts e) :
    ts = [] ∧ e = left ∨ ∃ l r, e = .binary l op r := by
  generalize hx : Symbol.tail op left = x at h
  induction h generalizing left <;> cases hx
  case done => exact .inl ⟨rfl, rfl⟩
  case more ih =>
    rcases ih rfl with ⟨_, he⟩ | he
    case inl => exact .inr ⟨_, _, he⟩
    case inr => exact .inr he

theorem Derives.chain_operand (h : Derives context (.chain op) ts e) (he : ∀ l r, e ≠ .binary l op r) :
    Derives context (.operand op) ts e := by
  cases h
  case chain h ht =>
    rcases ht.tail_binary with ⟨rfl, rfl⟩ | ⟨l, r, hb⟩
    case inl => rwa [List.append_nil]
    case inr => exact absurd hb (he l r)

theorem Derives.negations (h : Derives context .negation ts e) (n : Nat) :
    Derives context .negation (List.replicate n .not ++ ts) (Parser.negate e n) := by
  induction n
  case zero      => exact h
  case succ n ih => exact .not ih

end FilterQuery.Grammar
