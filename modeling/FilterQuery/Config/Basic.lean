import FilterQuery.ParseError

namespace FilterQuery

inductive IdentifierRule
  | list (names : List String)
  | predicate (test : String → Bool)

def IdentifierRule.allows : IdentifierRule → String → Bool
  | list names, name => names.contains name
  | predicate test, name => test name

-- A part that is `none` restricts nothing.
structure Config where
  logicalOperators : Option (List LogicalOperator) := none
  operations : Option (List Operation) := none
  identifiers : Option IdentifierRule := none
  valueKinds : Option (List ValueKind) := none
  parentheses : Bool := true
  indexAccess : Bool := true
  deriving Inhabited

namespace Config

def lists [BEq α] (allowed : Option (List α)) (a : α) : Bool :=
  allowed.all (·.contains a)

-- Whether queries may hold the construct.
def permits (config : Config) : Construct → Bool
  | .logicalOperator op => lists config.logicalOperators op
  | .operation op => lists config.operations op
  | .identifier name => config.identifiers.all (·.allows name)
  | .valueKind kind => lists config.valueKinds kind
  | .parentheses => config.parentheses
  | .indexAccess => config.indexAccess

-- Whether identifiers are decided by a predicate.
def hasPredicate (config : Config) : Bool :=
  match config.identifiers with
  | some (.predicate _) => true
  | _ => false

theorem permits_default (c : Construct) : permits {} c := by
  cases c <;> rfl

end Config
end FilterQuery
