import FilterQuery.Expr.Basic

namespace FilterQuery.Sql

inductive Literal
  | boolean (b : Bool)
  | integer (n : Int)
  | real (x : Double)
  | string (s : String)
  deriving DecidableEq

-- Compares a column with a literal.
inductive Relation
  | eq
  | ne
  | gt
  | ge
  | lt
  | le
  deriving DecidableEq, Repr

inductive Predicate
  | compare (column : String) (relation : Relation) (value : Literal)
  | like (column : String) (pattern : String)
  | isNull (column : String)
  | isNotNull (column : String)
  | among (column : String) (values : List Literal)
  | constant (b : Bool)
  | binary (left : Predicate) (op : Connective) (right : Predicate)
  | not (p : Predicate)
  deriving DecidableEq

end FilterQuery.Sql
