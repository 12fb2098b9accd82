import FilterQuery.Proofs.Expr.WellFormed
import FilterQuery.Proofs.Grammar.Spelled
import FilterQuery.Proofs.Numeral.RoundTrip

namespace FilterQuery

open Lexer (Lexed)

namespace Grammar

namespace Symbol

-- What a chain of operands with `op` between them may be.
def ChainShape (op : Connective) (e : Expr) : Prop :=
  e.Layered ∧ (op = .and → ¬e.isOr)

def Shape : Symbol → Expr → Prop
  | chain op, e => ChainShape op e
  | tail op left, e => ChainShape op left → ChainShape op e
  | negation, e | primary, e => e.Layered ∧ ¬e.isBinary

theorem Shape.operand_chain (h : (operand op).Shape e) : ChainShape op e := by
  cases op
  case and => exact ⟨h.1, fun _ ho => h.2 (Expr.isBinary_of_isOr ho)⟩
  case or  => exact ⟨h.1, nofun⟩

theorem ChainShape.binary (hl : ChainShape op left) (hr : (operand op).Shape right) :
    ChainShape op (.binary left op right) := by
  cases op
  case and => exact ⟨⟨hl.1, hr.1, hl.2 rfl, hr.2⟩, fun _ => nofun⟩
  case or  => exact ⟨⟨hl.1, hr.1, hr.2 rfl⟩, nofun⟩

end Symbol

theorem Derives.shape (h : Derives context x ts e) : x.Shape e := by
  induction h
  case chain ih₁ ih₂ => exact ih₂ ih₁.operand_chain
  case done          => exact id
  case more ih₁ ih₂  => exact fun hl => ih₂ (hl.binary ih₁)
  case not ih        => exact ⟨ih, nofun⟩
  case primary ih    => exact ih
  case paren ih      => exact ⟨ih.1, nofun⟩
  case boolean       => exact ⟨trivial, nofun⟩
  case condition     => exact ⟨trivial, nofun⟩
  case membership    => exact ⟨trivial, nofun⟩

def Symbol.Leaves (P : Accessor → Prop) (Q : Value → Prop) : Symbol → Expr → Prop
  | tail _ left, e => left.Leaves P Q → e.Leaves P Q
  | _, e => e.Leaves P Q

theorem Symbol.Leaves.operand (h : (operand op).Leaves P Q e) : e.Leaves P Q := by
  cases op <;> exact h

section

variable {K : Token.Kind → Prop} {P : Accessor → Prop} {Q : Value → Prop}

theorem mem_intersperse {items : List α} (h : k ∈ items) (sep : α) : k ∈ items.intersperse sep := by
  induction items
  case nil => exact h
  case cons item items ih =>
    cases items
    case nil => exact h
    case cons =>
      cases h
      case head   => exact List.mem_cons_self ..
      case tail h => exact List.mem_cons_of_mem _ <| List.mem_cons_of_mem _ <| ih h

theorem literals_hold (hq : ∀ {kind v}, Literal context kind v → K kind → Q v)
    (h : List.Forall₂ (Literal context) items values) (hk : ∀ kind ∈ items, K kind) :
    ∀ v ∈ values, Q v := by
  induction h
  case nil => exact fun _ => nofun
  case cons hv _ ih =>
    have ⟨h₁, h₂⟩ := List.forall_mem_cons.mp hk
    exact List.forall_mem_cons.mpr ⟨hq hv h₁, ih h₂⟩

-- `K` of the tokens is all that the leaves depend on.
theorem Derives.leaves (hp : ∀ {us a}, Field us a → (∀ kind ∈ us, K kind) → P a)
    (hq : ∀ {kind v}, Literal context kind v → K kind → Q v)
    (h : Derives context x ts e) (hk : ∀ kind ∈ ts, K kind) : x.Leaves P Q e := by
  induction h
  case chain ih₁ ih₂ =>
    have ⟨h₁, h₂⟩ := List.forall_mem_append.mp hk
    exact ih₂ h₂ (ih₁ h₁).operand
  case done => exact id
  case more ih₁ ih₂ =>
    have ⟨h₁, h₂⟩ := List.forall_mem_append.mp (List.forall_mem_cons.mp hk).2
    exact fun hl => ih₂ h₂ (Expr.leaves_binary_iff.mpr ⟨hl, (ih₁ h₁).operand⟩)
  case not ih => exact Expr.leaves_not_iff.mpr (ih (List.forall_mem_cons.mp hk).2)
  case primary ih => exact ih hk
  case paren ih =>
    have ⟨h, _⟩ := List.forall_mem_append.mp (List.forall_mem_cons.mp hk).2
    exact Expr.leaves_paren_iff.mpr (ih h)
  case boolean => exact ⟨fun _ => nofun, fun _ => nofun⟩
  case condition hf hl =>
    have ⟨h₁, h₂⟩ := List.forall_mem_append.mp hk
    refine ⟨fun a ha => ?accessor, fun v hv => ?value⟩
    case accessor => exact List.mem_singleton.mp ha ▸ hp hf h₁
    case value    => exact List.mem_singleton.mp hv ▸ hq hl (h₂ _ (by simp))
  case membership hf hl =>
    have ⟨h₁, h₂⟩ := List.forall_mem_append.mp hk
    refine ⟨fun a ha => List.mem_singleton.mp ha ▸ hp hf h₁, literals_hold hq hl fun kind hm => ?_⟩
    exact h₂ kind (by simp [mem_intersperse hm])

end

theorem Field.name_lexed (h : Field ts a) (hk : ∀ kind ∈ ts, Lexed kind) :
    Lexer.IsName a.field.toList := by
  cases h <;> exact hk (.identifier _) (List.mem_cons_self ..)

end Grammar

theorem Value.ofJson_wellFormed (json : Json) : (Value.ofJson json).WellFormed := by
  cases json
  case null      => rfl
  case boolean b => cases b <;> simp [Value.ofJson, Value.boolean, Value.WellFormed]
  case number n  =>
    cases n
    case integer n => exact Numeral.signed_toString n
    case real x hx => exact Double.signed_toText hx
  case string    => trivial
  case array     => trivial
  case object    => trivial

theorem Value.ofJson_kind_ne (json : Json) : (Value.ofJson json).kind ≠ .function := by
  simp only [Value.ofJson]
  split <;> exact nofun

namespace Grammar

theorem Literal.wellFormed (h : Literal context kind v) (hk : Lexed kind) : v.WellFormed := by
  cases h
  case string    => trivial
  case number    => exact hk
  case boolean b => cases b <;> simp [Value.boolean, Value.WellFormed]
  case null      => rfl
  case empty     => rfl
  case function call =>
    simp only [Value.resolve]
    cases context.bind (·.get? call)
    case some json => exact Value.ofJson_wellFormed json
    case none      => exact hk

-- A call that has a value in the context becomes that value.
theorem Literal.unresolved (h : Literal context kind v) : v.Unresolved context := by
  cases h
  case function call =>
    simp only [Value.resolve]
    cases hn : context.bind (·.get? call)
    case some json => exact fun hf => absurd hf (Value.ofJson_kind_ne json)
    case none      => exact fun _ => hn
  all_goals exact nofun

theorem Spelled.wellFormed (h : Spelled context 0 (.chain .or) ts e) (hk : ∀ kind ∈ ts, Lexed kind) :
    e.WellFormed := by
  have hl := h.derives.leaves Field.name_lexed Literal.wellFormed hk
  have ⟨_, _, hn⟩ := spelled_iff.mp h
  exact ⟨h.derives.shape.1, hn, fun a ha => ⟨hl.accessors a ha, h.finite a ha⟩, hl.values⟩

theorem Spelled.unresolved (h : Spelled context depth (.chain .or) ts e) :
    ∀ v ∈ e.values, v.Unresolved context :=
  have hl : e.Leaves (fun _ => True) (·.Unresolved context) :=
    h.derives.leaves (fun _ _ => trivial) (fun hl _ => hl.unresolved) fun _ _ => trivial
  hl.values

end Grammar
end FilterQuery
