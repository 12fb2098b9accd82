import FilterQuery.Expr.Basic
import FilterQuery.Token

namespace FilterQuery

-- A part of a query that a configuration may forbid.
inductive Construct
  | logicalOperator (op : LogicalOperator)
  | operation (op : Operation)
  | identifier (name : String)
  | valueKind (kind : ValueKind)
  | parentheses
  | indexAccess
  deriving DecidableEq, Repr

namespace ParseError

-- What could have stood where another token was found. Brackets are named by their position.
inductive Expectation
  | expression
  | comparisonOperator
  | index
  | indexEnd (bracket : Nat)
  | listStart
  | value
  | listEnd (bracket : Nat)
  | groupEnd (paren : Nat)
  | continuation
  deriving DecidableEq, Repr

inductive Cause
  | unexpectedChar (c : Char)
  -- the first character of an operator whose second is missing
  | incompleteOperator (c : Char)
  | missingDigit
  | unterminatedString
  | invalidEscape (c : Char)
  | unexpected (expected : Expectation) (found : Token.Kind)
  | tooDeep
  | invalidIndex (text : String)
  | forbidden (construct : Construct)
  deriving DecidableEq, Repr

inductive Category
  | lexical
  | grammatical
  | restricted
  deriving DecidableEq, Repr

def Category.name : Category → String
  | lexical => "Lexical"
  | grammatical => "Syntax"
  | restricted => "Config"

end ParseError

-- How many NOTs and parentheses may be open at once.
def maxDepth : Nat := 256

def Construct.description : Construct → String
  | logicalOperator op => "Logical operator " ++ op.name ++ " is"
  | operation op => "Operator " ++ op.name ++ " is"
  | identifier name => "Identifier '" ++ name ++ "' is"
  | valueKind kind => "Value type " ++ kind.name ++ " is"
  | parentheses => "Parentheses are"
  | indexAccess => "Index access is"

namespace ParseError

def Expectation.text : Expectation → String
  | expression => "expression"
  | comparisonOperator => "comparison operator"
  | index => "string or number index"
  | indexEnd bracket => "']' to close '[' at position " ++ toString bracket
  | listStart => "'[' after IN"
  | value => "value"
  | listEnd bracket => "',' or ']' to close '[' at position " ++ toString bracket
  | groupEnd paren => "')' to close '(' at position " ++ toString paren
  | continuation => "AND, OR or end of input"

namespace Cause

def category : Cause → Category
  | unexpectedChar _ | incompleteOperator _ | missingDigit | unterminatedString | invalidEscape _ =>
    .lexical
  | unexpected .. | tooDeep | invalidIndex _ => .grammatical
  | forbidden _ => .restricted

def message : Cause → String
  | unexpectedChar c => "Unexpected character '" ++ c.toString ++ "'"
  | incompleteOperator c =>
    "Unexpected character '" ++ c.toString ++ "', expected '" ++ c.toString ++ "='"
  | missingDigit => "Expected digit after '-'"
  | unterminatedString => "Unterminated string"
  | invalidEscape c => "Invalid escape sequence '\\" ++ c.toString ++ "'"
  | unexpected expected .eol => "Unexpected end of input, expected " ++ expected.text
  | unexpected expected found => "Expected " ++ expected.text ++ ", found " ++ found.describe
  | tooDeep => "Expression nested too deeply (limit " ++ toString maxDepth ++ ")"
  | invalidIndex text => "Invalid numeric index '" ++ text ++ "'"
  | forbidden construct => construct.description ++ " not permitted by parser configuration"

end Cause
end ParseError

structure ParseError where
  cause : ParseError.Cause
  span : Span
  deriving DecidableEq, Repr

namespace ParseError

def category (e : ParseError) : Category := e.cause.category

def message (e : ParseError) : String := e.cause.message

-- The message with the place.
def display (e : ParseError) : String :=
  e.message ++ " at position " ++ toString e.span.start

end ParseError
end FilterQuery
