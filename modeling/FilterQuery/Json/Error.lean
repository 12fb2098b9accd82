import FilterQuery.Json.Basic

namespace FilterQuery.Json

-- How a message speaks of a value.
inductive Found
  | null
  | boolean (b : Bool)
  | number (n : Number)
  | string (s : String)
  | array
  | object
  deriving DecidableEq

-- What was asked for.
inductive Wanted
  | boolean
  | string
  | list
  | null
  | name
  | config
  deriving DecidableEq

inductive Cause
  | endOfList
  | endOfObject
  | endOfString
  | endOfValue
  | expectedColon
  | expectedListEnd
  | expectedObjectEnd
  | expectedLiteral
  | expectedValue
  | invalidEscape
  | invalidNumber
  | numberOutOfRange
  | controlCharacter
  | keyNotString
  | loneSurrogate
  | missingSurrogate
  | trailingComma
  | trailingText
  | tooDeep
  -- JSON, but of another shape
  | mismatch (found : Found) (wanted : Wanted)
  | unknownName (name : String) (allowed : List String)
  | duplicateField (name : String)
  deriving DecidableEq

inductive Category
  | syntactic
  | eof
  | data
  deriving DecidableEq, Repr

namespace Cause

def category : Cause → Category
  | endOfList | endOfObject | endOfString | endOfValue => .eof
  | mismatch .. | unknownName .. | duplicateField _ => .data
  | _ => .syntactic

end Cause

def Found.text : Found → String
  | null => "null"
  | boolean b => "boolean `" ++ (if b then "true" else "false") ++ "`"
  | number (.integer n) => "integer `" ++ toString n ++ "`"
  | number (.real x _) => "floating point `" ++ Double.Layout.json.text x ++ "`"
  | string s => "string " ++ quote s
  | array => "sequence"
  | object => "map"

def Wanted.text : Wanted → String
  | boolean => "a boolean"
  | string => "a string"
  | list => "a sequence"
  | null => "unit"
  | name => "variant identifier"
  | config => "struct AqlParserConfig"

def namesText (names : List String) : String :=
  "one of " ++ String.intercalate ", " (names.map fun name => "`" ++ name ++ "`")

def Cause.message : Cause → String
  | endOfList => "EOF while parsing a list"
  | endOfObject => "EOF while parsing an object"
  | endOfString => "EOF while parsing a string"
  | endOfValue => "EOF while parsing a value"
  | expectedColon => "expected `:`"
  | expectedListEnd => "expected `,` or `]`"
  | expectedObjectEnd => "expected `,` or `\x7d`"
  | expectedLiteral => "expected ident"
  | expectedValue => "expected value"
  | invalidEscape => "invalid escape"
  | invalidNumber => "invalid number"
  | numberOutOfRange => "number out of range"
  | controlCharacter => "control character (\\u0000-\\u001F) found while parsing a string"
  | keyNotString => "key must be a string"
  | loneSurrogate => "lone leading surrogate in hex escape"
  | missingSurrogate => "unexpected end of hex escape"
  | trailingComma => "trailing comma"
  | trailingText => "trailing characters"
  | tooDeep => "recursion limit exceeded"
  | mismatch found wanted => "invalid type: " ++ found.text ++ ", expected " ++ wanted.text
  | unknownName name allowed =>
    "unknown variant `" ++ name ++ "`, expected " ++ namesText allowed
  | duplicateField name => "duplicate field `" ++ name ++ "`"

-- Lines are counted from one; the column is the number of bytes of the line before the place.
structure Error where
  cause : Cause
  line : Nat
  column : Nat
  deriving DecidableEq

def Error.category (e : Error) : Category := e.cause.category

def Error.message (e : Error) : String :=
  e.cause.message ++ " at line " ++ toString e.line ++ " column " ++ toString e.column

-- Line and column behind the first `bytes` bytes of a text.
def locate (line column bytes : Nat) : List Char → Nat × Nat
  | [] => (line, column)
  | c :: cs =>
    if bytes < c.utf8Size then (line, column + bytes)
    else if c = '\n' then locate (line + 1) 0 (bytes - 1) cs
    else locate line (column + c.utf8Size) (bytes - c.utf8Size) cs

end FilterQuery.Json
