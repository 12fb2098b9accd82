namespace FilterQuery

-- Compares a field with one value.
inductive Comparison
  | gt
  | ge
  | lt
  | le
  | eq
  | neq
  | contains
  deriving DecidableEq, Repr

-- Joins two expressions.
inductive Connective
  | and
  | or
  deriving DecidableEq, Repr

-- All that can be done with a field: a comparison, or the test against a list.
inductive Operation
  | comparison (op : Comparison)
  | membership
  deriving DecidableEq, Repr

-- All that can be done with expressions: the connectives and negation.
inductive LogicalOperator
  | connective (op : Connective)
  | not
  deriving DecidableEq, Repr

namespace Comparison

def all : List Comparison := [gt, ge, lt, le, eq, neq, contains]

theorem mem_all (op : Comparison) : op ∈ all := by
  cases op <;> decide

def symbol : Comparison → String
  | gt => ">"
  | ge => ">="
  | lt => "<"
  | le => "<="
  | eq => "="
  | neq => "!="
  | contains => "~="

def name : Comparison → String
  | gt => "GT"
  | ge => "GE"
  | lt => "LT"
  | le => "LE"
  | eq => "EQ"
  | neq => "NEQ"
  | contains => "CONTAINS"

end Comparison

namespace Connective

def all : List Connective := [and, or]

theorem mem_all (op : Connective) : op ∈ all := by
  cases op <;> decide

def symbol : Connective → String
  | and => "AND"
  | or => "OR"

end Connective

namespace Operation

def all : List Operation := Comparison.all.map comparison ++ [membership]

theorem mem_all (op : Operation) : op ∈ all := by
  cases op <;> simp [all, Comparison.mem_all]

def symbol : Operation → String
  | comparison op => op.symbol
  | membership => "IN"

def name : Operation → String
  | comparison op => op.name
  | membership => "IN"

end Operation

namespace LogicalOperator

def all : List LogicalOperator := Connective.all.map connective ++ [not]

theorem mem_all (op : LogicalOperator) : op ∈ all := by
  cases op <;> simp [all, Connective.mem_all]

def name : LogicalOperator → String
  | connective op => op.symbol
  | not => "NOT"

end LogicalOperator
end FilterQuery
