import FilterQuery.Operator

namespace FilterQuery

-- A stretch of the text, in bytes; `stop` is the first byte after it.
structure Span where
  start : Nat
  stop : Nat
  deriving DecidableEq, Repr

namespace Token

inductive Kind
  | comparison (op : Comparison)
  | membership
  | connective (op : Connective)
  | not
  | null
  | boolean (b : Bool)
  | number (text : String)
  -- with the quotes, escapes untouched
  | string (raw : String)
  -- with the brackets
  | function (call : String)
  | identifier (name : String)
  | openParen
  | closeParen
  | openBracket
  | closeBracket
  | comma
  | eol
  deriving DecidableEq, Repr

namespace Kind

-- The text that the token stands for, where its kind alone does not say it.
def value? : Kind → Option String
  | number s | string s | function s | identifier s => some s
  | boolean b => some (if b then "true" else "false")
  | null => some "null"
  | _ => none

-- How messages speak of the token.
def describe : Kind → String
  | comparison op => "'" ++ op.symbol ++ "'"
  | membership => "IN"
  | connective op => op.symbol
  | not => "NOT"
  | null => "null"
  | boolean b => if b then "true" else "false"
  | number s => "number " ++ s
  | string s => "string " ++ s
  | function s => "function " ++ s
  | identifier s => "identifier '" ++ s ++ "'"
  | openParen => "'('"
  | closeParen => "')'"
  | openBracket => "'['"
  | closeBracket => "']'"
  | comma => "','"
  | eol => "end of input"

end Kind
end Token

structure Token where
  kind : Token.Kind
  span : Span
  deriving DecidableEq, Repr

-- The end of a text of `position` bytes.
def Token.endAt (position : Nat) : Token := ⟨.eol, ⟨position, position⟩⟩

end FilterQuery
