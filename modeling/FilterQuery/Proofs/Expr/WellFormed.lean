import FilterQuery.Context
import FilterQuery.Proofs.Expr.Parts
import FilterQuery.Proofs.Lexer.Lexemes

namespace FilterQuery

def Value.WellFormed (v : Value) : Prop :=
  match v.kind with
  | .null => v.text = "null"
  | .boolean => v.text = "true" ∨ v.text = "false"
  | .number => Numeral.Signed v.text.toList
  | .string => True
  | .function => ∃ word, Lexer.IsName word ∧ v.text = .ofList (word ++ ['(', ')'])

-- `v` is no call that the context gives a value.
def Value.Unresolved (context : Option Context) (v : Value) : Prop :=
  v.kind = .function → context.bind (·.get? v.text) = none

structure Accessor.WellFormed (a : Accessor) : Prop where
  name   : Lexer.IsName a.field.toList
  finite : a.Finite

namespace Expr

def isBinary : Expr → Bool
  | binary .. => true
  | _ => false

def isOr : Expr → Bool
  | binary _ .or _ => true
  | _ => false

theorem isBinary_of_isOr {e : Expr} (h : e.isOr) : e.isBinary := by
  cases e <;> first | rfl | cases h

-- OR and AND associate to the left, AND binds more tightly than OR, and NOT more tightly than AND.
def Layered : Expr → Prop
  | binary left .or right => left.Layered ∧ right.Layered ∧ ¬right.isOr
  | binary left .and right => left.Layered ∧ right.Layered ∧ ¬left.isOr ∧ ¬right.isBinary
  | not e => e.Layered ∧ ¬e.isBinary
  | paren e => e.Layered
  | condition .. | membership .. | boolean _ => True

structure WellFormed (e : Expr) : Prop where
  layered   : e.Layered
  shallow   : e.nesting ≤ maxDepth
  accessors : ∀ a ∈ e.accessors, a.WellFormed
  values    : ∀ v ∈ e.values, v.WellFormed

theorem WellFormed.finite {e : Expr} (h : e.WellFormed) : e.Finite :=
  fun a ha => (h.accessors a ha).finite

end Expr

-- Numbers that are equal are finite together, although zero is equal to minus zero.
theorem Double.isFinite_of_equals (h : Double.equals x y) (hx : x.isFinite) : y.isFinite := by
  cases x <;> cases y <;> simp_all [equals, isFinite]

theorem Accessor.equals_self (h : Accessor.Finite a) : a.equals a := by
  cases hi : a.index <;> simp only [equals, hi, BEq.rfl, Bool.and_true]
  case some i =>
    cases i
    case key      => simp [Index.equals]
    case number x => simpa [Index.equals] using Double.equals_self (h x hi)

theorem Accessor.WellFormed.of_equals (h : Accessor.equals a b) (ha : a.WellFormed) :
    b.WellFormed := by
  simp only [Accessor.equals, Bool.and_eq_true, beq_iff_eq] at h
  refine ⟨h.1 ▸ ha.name, fun y hy => ?_⟩
  cases hx : a.index <;> simp only [hx, hy] at h
  case none   => exact nomatch h.2
  case some i =>
    cases i
    case key      => exact nomatch h.2
    case number x => exact Double.isFinite_of_equals h.2 (ha.finite x hx)

namespace Expr

variable {e e' : Expr}

-- What expressions that are equal have in common.
structure Alike (e e' : Expr) : Prop where
  isBinary  : e.isBinary = e'.isBinary
  isOr      : e.isOr = e'.isOr
  nesting   : e.nesting = e'.nesting
  layered   : e.Layered → e'.Layered
  accessors : (∀ a ∈ e.accessors, a.WellFormed) → ∀ a ∈ e'.accessors, a.WellFormed
  values    : e.values = e'.values

theorem alike_of_equals (h : e.equals e') : Alike e e' := by
  induction e generalizing e' <;> cases e'
  case condition.condition l o r l' o' r' =>
    simp only [equals, Bool.and_eq_true, beq_iff_eq] at h
    have ⟨⟨hl, _⟩, hr⟩ := h
    exact ⟨rfl, rfl, rfl, id, by simpa [accessors] using .of_equals hl, by simp [Expr.values, hr]⟩
  case membership.membership l vs l' vs' =>
    simp only [equals, Bool.and_eq_true, beq_iff_eq] at h
    exact ⟨rfl, rfl, rfl, id, by simpa [accessors] using .of_equals h.1, h.2⟩
  case binary.binary l o r ih₁ ih₂ l' o' r' =>
    simp only [equals, Bool.and_eq_true, beq_iff_eq] at h
    have ⟨⟨hl, ho⟩, hr⟩ := h
    have h₁ := ih₁ hl
    have h₂ := ih₂ hr
    subst ho
    refine ⟨rfl, by cases o <;> rfl, by simp [Expr.nesting, h₁.nesting, h₂.nesting], ?layered, ?accessors,
      by simp [Expr.values, h₁.values, h₂.values]⟩
    case layered =>
      cases o
      case or  => exact fun ⟨hl, hr, ho⟩ => ⟨h₁.layered hl, h₂.layered hr, h₂.isOr ▸ ho⟩
      case and =>
        exact fun ⟨hl, hr, ho, hb⟩ =>
          ⟨h₁.layered hl, h₂.layered hr, h₁.isOr ▸ ho, h₂.isBinary ▸ hb⟩
    case accessors =>
      intro ha a hm
      cases List.mem_append.mp hm
      case inl hm => exact h₁.accessors (fun b hb => ha b (List.mem_append_left _ hb)) a hm
      case inr hm => exact h₂.accessors (fun b hb => ha b (List.mem_append_right _ hb)) a hm
  case not.not ih _ =>
    have hi := ih h
    exact ⟨rfl, rfl, congrArg (· + 1) hi.nesting, fun ⟨hl, hb⟩ => ⟨hi.layered hl, hi.isBinary ▸ hb⟩,
      hi.accessors, hi.values⟩
  case paren.paren ih _ =>
    have hi := ih h
    exact ⟨rfl, rfl, congrArg (· + 1) hi.nesting, hi.layered, hi.accessors, hi.values⟩
  case boolean.boolean => exact ⟨rfl, rfl, rfl, id, id, rfl⟩
  all_goals exact nomatch h

theorem WellFormed.of_equals (h : e.equals e') (he : e.WellFormed) : e'.WellFormed :=
  have ha := alike_of_equals h
  ⟨ha.layered he.layered, ha.nesting ▸ he.shallow, ha.accessors he.accessors, ha.values ▸ he.values⟩

theorem equals_self (h : e.Finite) : e.equals e := by
  induction e
  case condition  => simp [equals, Accessor.equals_self (h _ (List.mem_singleton_self _))]
  case membership => simp [equals, Accessor.equals_self (h _ (List.mem_singleton_self _))]
  case binary ih₁ ih₂ =>
    have h₁ := ih₁ fun a ha => h a (List.mem_append_left _ ha)
    have h₂ := ih₂ fun a ha => h a (List.mem_append_right _ ha)
    simp [equals, h₁, h₂]
  case not ih   => exact ih h
  case paren ih => exact ih h
  case boolean  => exact BEq.rfl

end Expr
end FilterQuery
