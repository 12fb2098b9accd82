import FilterQuery.Config.Basic
import FilterQuery.Numeral.Shortest
import FilterQuery.Text.Visible

namespace FilterQuery

-- A value field by field, to be shown on one line or with a line for each field.
inductive Dump
  | atom (text : String)
  | record (name : String) (fields : List (String × Dump))
  | tuple (name : String) (items : List Dump)
  | list (items : List Dump)

namespace Dump

-- Characters that cannot be shown by themselves are written as numbers.
def escapeChar (c : Char) : List Char :=
  match c with
  | '"' => ['\\', '"']
  | '\\' => ['\\', '\\']
  | '\n' => ['\\', 'n']
  | '\r' => ['\\', 'r']
  | '\t' => ['\\', 't']
  | '\x00' => ['\\', '0']
  | c =>
    if Text.isVisible c then [c]
    else '\\' :: 'u' :: '\x7b' :: Nat.toDigits 16 c.toNat ++ ['\x7d']

def string (s : String) : Dump :=
  atom (.ofList ('"' :: s.toList.flatMap escapeChar ++ ['"']))

def boolean (b : Bool) : Dump :=
  atom (if b then "true" else "false")

def option (dump : α → Dump) : Option α → Dump
  | none => atom "None"
  | some a => tuple "Some" [dump a]

mutual

def oneLine : Dump → String
  | atom text => text
  | record name fields =>
    name ++ " \x7b " ++ String.intercalate ", " (oneLineFields fields) ++ " \x7d"
  | tuple name items => name ++ "(" ++ String.intercalate ", " (oneLineItems items) ++ ")"
  | list items => "[" ++ String.intercalate ", " (oneLineItems items) ++ "]"

def oneLineFields : List (String × Dump) → List String
  | [] => []
  | (name, dump) :: fields => (name ++ ": " ++ dump.oneLine) :: oneLineFields fields

def oneLineItems : List Dump → List String
  | [] => []
  | dump :: items => dump.oneLine :: oneLineItems items

end

def indentation (level : Nat) : String :=
  .ofList (List.replicate (4 * level) ' ')

mutual

-- The text when its first line stands at this level; every part has its own lines one level deeper.
def indented (level : Nat) : Dump → String
  | atom text => text
  | record name fields =>
    name ++ " \x7b\n" ++ indentedFields (level + 1) fields ++ indentation level ++ "\x7d"
  | tuple name items =>
    name ++ "(\n" ++ indentedItems (level + 1) items ++ indentation level ++ ")"
  | list [] => "[]"
  | list items => "[\n" ++ indentedItems (level + 1) items ++ indentation level ++ "]"

def indentedFields (level : Nat) : List (String × Dump) → String
  | [] => ""
  | (name, dump) :: fields =>
    indentation level ++ name ++ ": " ++ dump.indented level ++ ",\n" ++ indentedFields level fields

def indentedItems (level : Nat) : List Dump → String
  | [] => ""
  | dump :: items =>
    indentation level ++ dump.indented level ++ ",\n" ++ indentedItems level items

end
end Dump

open Dump

def Comparison.dumpName : Comparison → String
  | gt => "Gt"
  | ge => "Ge"
  | lt => "Lt"
  | le => "Le"
  | eq => "Eq"
  | neq => "Neq"
  | contains => "Contains"

def Connective.dumpName : Connective → String
  | and => "And"
  | or => "Or"

def Operation.dumpName : Operation → String
  | comparison op => op.dumpName
  | membership => "In"

def LogicalOperator.dumpName : LogicalOperator → String
  | connective op => op.dumpName
  | not => "Not"

def ValueKind.dumpName : ValueKind → String
  | null => "Null"
  | boolean => "Boolean"
  | number => "Number"
  | string => "String"
  | function => "Function"

def Token.Kind.dump : Token.Kind → Dump
  | comparison op => atom op.dumpName
  | membership => atom "In"
  | connective op => atom op.dumpName
  | not => atom "Not"
  | null => atom "Null"
  | boolean b => tuple "Boolean" [Dump.boolean b]
  | number s => tuple "Number" [Dump.string s]
  | string s => tuple "String" [Dump.string s]
  | function s => tuple "Function" [Dump.string s]
  | identifier s => tuple "Identifier" [Dump.string s]
  | openParen => atom "LParen"
  | closeParen => atom "RParen"
  | openBracket => atom "LBracket"
  | closeBracket => atom "RBracket"
  | comma => atom "Comma"
  | eol => atom "Eol"

def Value.dump (v : Value) : Dump :=
  record "AqlValue" [("value", Dump.string v.text), ("kind", atom v.kind.dumpName)]

def Index.dump : Index → Dump
  | key s => tuple "Key" [Dump.string s]
  | number x => tuple "Index" [atom (Double.Layout.debug.text x)]

def Accessor.dump (a : Accessor) : Dump :=
  record "AqlAccessor" [("identifier", Dump.string a.field), ("param", option Index.dump a.index)]

def Expr.dump : Expr → Dump
  | condition left op right =>
    record "Condition" [("left", left.dump), ("operator", atom op.dumpName), ("right", right.dump)]
  | membership left values =>
    record "ArrayCondition" [("left", left.dump), ("right", list (values.map Value.dump))]
  | binary left op right =>
    record "Binary" [("left", left.dump), ("operator", atom op.dumpName), ("right", right.dump)]
  | not e => record "Not" [("expression", e.dump)]
  | paren e => record "Paren" [("expression", e.dump)]
  | boolean b => record "Boolean" [("value", Dump.boolean b)]

def IdentifierRule.dump : IdentifierRule → Dump
  | list names => tuple "List" [Dump.list (names.map Dump.string)]
  | predicate _ => atom "Predicate(..)"

def Config.dump (c : Config) : Dump :=
  let names {α : Type} (name : α → String) (all : List α) := list (all.map (atom ∘ name))
  record "AqlParserConfig"
    [("logical_operators", option (names LogicalOperator.dumpName) c.logicalOperators),
     ("operations", option (names Operation.dumpName) c.operations),
     ("identifiers", option IdentifierRule.dump c.identifiers),
     ("value_types", option (names ValueKind.dumpName) c.valueKinds),
     ("parentheses", Dump.boolean c.parentheses),
     ("index_access", Dump.boolean c.indexAccess)]

end FilterQuery
