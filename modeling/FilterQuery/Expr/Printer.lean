import FilterQuery.Expr.Basic
import FilterQuery.Numeral.Shortest
import FilterQuery.Text.Quoted

namespace FilterQuery

def quoted (s : String) : String :=
  .ofList (Text.quote s.toList)

def Value.canonical (v : Value) : String :=
  match v.kind with
  | .string => quoted v.text
  | .null => "null"
  | .boolean | .number | .function => v.text

def Index.canonical : Index → String
  | key text => quoted text
  | number x => x.toText

def Accessor.canonical (a : Accessor) : String :=
  match a.index with
  | none => a.field
  | some index => a.field ++ "[" ++ index.canonical ++ "]"

namespace Expr

-- One blank around operators, none inside brackets; no parentheses but those of the expression.
def canonical : Expr → String
  | condition left op right => left.canonical ++ " " ++ op.symbol ++ " " ++ right.canonical
  | membership left values =>
    left.canonical ++ " IN [" ++ String.intercalate ", " (values.map Value.canonical) ++ "]"
  | binary left op right => left.canonical ++ " " ++ op.symbol ++ " " ++ right.canonical
  | not e => "NOT " ++ e.canonical
  | paren e => "(" ++ e.canonical ++ ")"
  | boolean b => if b then "true" else "false"

end Expr
end FilterQuery
