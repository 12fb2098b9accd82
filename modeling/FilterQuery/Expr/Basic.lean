import FilterQuery.Operator
import FilterQuery.Numeral.Double

namespace FilterQuery

-- How the text of a value is to be read.
inductive ValueKind
  | null
  | boolean
  | number
  | string
  | function
  deriving DecidableEq, Repr

namespace ValueKind

def all : List ValueKind := [null, boolean, number, string, function]

theorem mem_all (kind : ValueKind) : kind ∈ all := by
  cases kind <;> decide

def name : ValueKind → String
  | null => "NULL"
  | boolean => "BOOLEAN"
  | number => "NUMBER"
  | string => "STRING"
  | function => "FUNCTION"

end ValueKind

-- A literal. The text of a string is the string itself, without quotes or escapes.
structure Value where
  text : String
  kind : ValueKind
  deriving DecidableEq, Repr

namespace Value

def null : Value := ⟨"null", .null⟩

def boolean (b : Bool) : Value := ⟨if b then "true" else "false", .boolean⟩

def number (text : String) : Value := ⟨text, .number⟩

def string (text : String) : Value := ⟨text, .string⟩

-- a function call that has not been given a value
def function (call : String) : Value := ⟨call, .function⟩

end Value

-- What stands in the brackets after a field.
inductive Index
  | key (text : String)
  | number (value : Double)
  deriving DecidableEq

structure Accessor where
  field : String
  index : Option Index := none
  deriving DecidableEq

inductive Expr
  | condition (left : Accessor) (op : Comparison) (right : Value)
  | membership (left : Accessor) (values : List Value)
  | binary (left : Expr) (op : Connective) (right : Expr)
  | not (e : Expr)
  | paren (e : Expr)
  | boolean (b : Bool)
  deriving DecidableEq

-- Equality that takes numeric indices as numbers, where `=` takes them as they are stored.
def Index.equals : Index → Index → Bool
  | .key s, .key t => s == t
  | .number x, .number y => x.equals y
  | _, _ => false

def Accessor.equals (a b : Accessor) : Bool :=
  a.field == b.field &&
    match a.index, b.index with
    | none, none => true
    | some i, some j => i.equals j
    | _, _ => false

namespace Expr

def equals : Expr → Expr → Bool
  | condition l o r, condition l' o' r' => l.equals l' && o == o' && r == r'
  | membership l vs, membership l' vs' => l.equals l' && vs == vs'
  | binary l o r, binary l' o' r' => l.equals l' && o == o' && r.equals r'
  | not e, not e' => e.equals e'
  | paren e, paren e' => e.equals e'
  | boolean b, boolean b' => b == b'
  | _, _ => false

end Expr
end FilterQuery
