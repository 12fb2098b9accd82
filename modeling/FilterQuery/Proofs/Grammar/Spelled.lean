import FilterQuery.Proofs.Grammar.Basic

namespace FilterQuery

theorem Expr.nesting_negate (e : Expr) (n : Nat) :
    (Parser.negate e n).nesting = e.nesting + n := by
  induction n
  case zero      => rfl
  case succ n ih => simp only [Parser.negate, Expr.nesting, ih, Nat.add_assoc]

theorem Expr.accessors_negate (e : Expr) (n : Nat) :
    (Parser.negate e n).accessors = e.accessors := by
  induction n
  case zero      => rfl
  case succ n ih => simp only [Parser.negate, Expr.accessors, ih]

namespace Grammar

-- `ts` spell `e`, which stands below `depth` NOTs and parentheses and keeps to the limits.
structure Spelled (context : Option Context) (depth : Nat) (x : Symbol) (ts : List Token.Kind)
    (e : Expr) : Prop where
  derives : Derives context x ts e
  finite  : e.Finite
  shallow : depth + e.nesting ≤ maxDepth

theorem spelled_iff :
    Spelled context 0 x ts e ↔ Derives context x ts e ∧ e.Finite ∧ e.nesting ≤ maxDepth := by
  constructor
  case mp  => exact fun h => ⟨h.derives, h.finite, e.nesting.zero_add ▸ h.shallow⟩
  case mpr => exact fun ⟨hd, hf, hn⟩ => ⟨hd, hf, e.nesting.zero_add.symm ▸ hn⟩

-- An operand on the left, with the operator behind it.
inductive LeftSpelled (context : Option Context) (depth : Nat) (op : Connective) :
    Option Expr → List Token.Kind → Prop
  | none : LeftSpelled context depth op none []
  | some : Spelled context depth (.chain op) ts e →
    LeftSpelled context depth op (some e) (ts ++ [.connective op])

namespace Spelled

theorem negations (h : Spelled context (depth + n) .primary ts e) :
    Spelled context depth .negation (List.replicate n .not ++ ts) (Parser.negate e n) where
  derives := h.derives.primary.negations n
  finite  := by simpa only [Expr.Finite, e.accessors_negate n] using h.finite
  shallow := by
    have := h.shallow
    rw [e.nesting_negate]
    omega

theorem join (hl : LeftSpelled context depth op left ts)
    (h : Spelled context depth (.operand op) us e) :
    Spelled context depth (.chain op) (ts ++ us) (Parser.join op left e) := by
  cases hl
  case none    => exact ⟨h.derives.operand_chain, h.finite, h.shallow⟩
  case some hl =>
    refine ⟨?derives, ?finite, ?shallow⟩
    case derives => simpa [Parser.join] using hl.derives.chain_snoc h.derives
    case finite =>
      intro a ha
      exact (List.mem_append.mp ha).elim (hl.finite a) (h.finite a)
    case shallow =>
      have := hl.shallow
      have := h.shallow
      simp only [Parser.join, Expr.nesting]
      omega

theorem paren (h : Spelled context (depth + 1) (.chain .or) ts e) :
    Spelled context depth .primary (.openParen :: (ts ++ [.closeParen])) (.paren e) where
  derives := .paren h.derives
  finite  := h.finite
  shallow := by
    have := h.shallow
    simp only [Expr.nesting]
    omega

theorem boolean (hd : depth ≤ maxDepth) :
    Spelled context depth .primary [.boolean b] (.boolean b) :=
  ⟨.boolean, fun _ => nofun, hd⟩

theorem condition (op : Comparison) (hd : depth ≤ maxDepth) (h : Field ts left) (hf : left.Finite)
    (hv : Literal context kind v) :
    Spelled context depth .primary (ts ++ [.comparison op, kind]) (.condition left op v) :=
  ⟨.condition h hv, fun _ ha => List.mem_singleton.mp ha ▸ hf, hd⟩

theorem membership (hd : depth ≤ maxDepth) (h : Field ts left) (hf : left.Finite)
    (hv : List.Forall₂ (Literal context) items values) :
    Spelled context depth .primary
      (ts ++ .membership :: .openBracket :: (items.intersperse .comma ++ [.closeBracket]))
      (.membership left values) :=
  ⟨.membership h hv, fun _ ha => List.mem_singleton.mp ha ▸ hf, hd⟩

end Spelled
end Grammar
end FilterQuery
