import FilterQuery.ParseError

namespace FilterQuery

def Accessor.constructs (a : Accessor) : List Construct :=
  .identifier a.field :: if a.index.isSome then [.indexAccess] else []

-- An index that is a number is a finite one.
def Accessor.Finite (a : Accessor) : Prop :=
  ∀ x, a.index = some (.number x) → x.isFinite

namespace Expr

def accessors : Expr → List Accessor
  | condition left _ _ | membership left _ => [left]
  | binary left _ right => left.accessors ++ right.accessors
  | not e | paren e => e.accessors
  | boolean _ => []

def values : Expr → List Value
  | condition _ _ right => [right]
  | membership _ values => values
  | binary left _ right => left.values ++ right.values
  | not e | paren e => e.values
  | boolean _ => []

-- All that a configuration may forbid in an expression. A boolean that stands alone is no value.
def constructs : Expr → List Construct
  | condition left op right =>
    left.constructs ++ [.operation (.comparison op), .valueKind right.kind]
  | membership left values =>
    left.constructs ++ .operation .membership :: values.map (.valueKind ·.kind)
  | binary left op right =>
    left.constructs ++ .logicalOperator (.connective op) :: right.constructs
  | not e => .logicalOperator .not :: e.constructs
  | paren e => .parentheses :: e.constructs
  | boolean _ => []

-- The greatest number of NOTs and parentheses that one path leads through.
def nesting : Expr → Nat
  | condition .. | membership .. | boolean _ => 0
  | binary left _ right => max left.nesting right.nesting
  | not e | paren e => e.nesting + 1

-- Every index that is a number is a finite one.
def Finite (e : Expr) : Prop :=
  ∀ a ∈ e.accessors, a.Finite

-- All fields have `P` and all values have `Q`.
structure Leaves (P : Accessor → Prop) (Q : Value → Prop) (e : Expr) : Prop where
  accessors : ∀ a ∈ e.accessors, P a
  values    : ∀ v ∈ e.values, Q v

theorem leaves_not_iff : Leaves P Q (not e) ↔ e.Leaves P Q :=
  ⟨fun ⟨ha, hv⟩ => ⟨ha, hv⟩, fun ⟨ha, hv⟩ => ⟨ha, hv⟩⟩

theorem leaves_paren_iff : Leaves P Q (paren e) ↔ e.Leaves P Q :=
  ⟨fun ⟨ha, hv⟩ => ⟨ha, hv⟩, fun ⟨ha, hv⟩ => ⟨ha, hv⟩⟩

theorem leaves_binary_iff : Leaves P Q (binary left op right) ↔ left.Leaves P Q ∧ right.Leaves P Q := by
  constructor
  case mp =>
    intro ⟨ha, hv⟩
    have ⟨ha₁, ha₂⟩ := List.forall_mem_append.mp ha
    have ⟨hv₁, hv₂⟩ := List.forall_mem_append.mp hv
    exact ⟨⟨ha₁, hv₁⟩, ha₂, hv₂⟩
  case mpr =>
    intro ⟨⟨ha₁, hv₁⟩, ha₂, hv₂⟩
    exact ⟨List.forall_mem_append.mpr ⟨ha₁, ha₂⟩, List.forall_mem_append.mpr ⟨hv₁, hv₂⟩⟩

end Expr
end FilterQuery
