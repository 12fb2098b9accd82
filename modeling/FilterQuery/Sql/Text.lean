import FilterQuery.Sql.Lowering

namespace FilterQuery.Sql

-- A name in double quotes; quotes inside are doubled.
def nameText (name : String) : String :=
  .ofList ('"' :: (name.toList.flatMap fun c => if c = '"' then ['"', '"'] else [c]) ++ ['"'])

-- How a character is written in a string.
def escapeChar (c : Char) : List Char :=
  match c with
  | '\\' => ['\\', '\\']
  | '"' => ['\\', '"']
  | '\'' => ['\\', '\'']
  | '\x00' => ['\\', '0']
  | '\x08' => ['\\', 'b']
  | '\t' => ['\\', 't']
  | '\x1a' => ['\\', 'z']
  | '\n' => ['\\', 'n']
  | '\r' => ['\\', 'r']
  | c => [c]

-- A string in single quotes, with an `E` before them if a backslash is inside.
def stringText (s : String) : String :=
  let inside := s.toList.flatMap escapeChar
  let quoted := '\'' :: inside ++ ['\'']
  .ofList (if inside.contains '\\' then 'E' :: quoted else quoted)

def Literal.text : Literal → String
  | boolean b => if b then "TRUE" else "FALSE"
  | integer n => toString n
  | real x => x.toText
  | string s => stringText s

def Relation.symbol : Relation → String
  | eq => "="
  | ne => "<>"
  | gt => ">"
  | ge => ">="
  | lt => "<"
  | le => "<="

namespace Predicate

-- Whether a condition binds more tightly than the operators that join conditions.
def isSimple : Predicate → Bool
  | binary .. | not _ => false
  | _ => true

-- Whether a condition is joined by this operator.
def isJoinedBy (op : Connective) : Predicate → Bool
  | binary _ o _ => o == op
  | _ => false

def wrap (bare : Bool) (text : String) : String :=
  if bare then text else "(" ++ text ++ ")"

def text : Predicate → String
  | compare column relation value =>
    nameText column ++ " " ++ relation.symbol ++ " " ++ value.text
  | like column pattern => nameText column ++ " LIKE " ++ stringText pattern ++ " ESCAPE " ++ stringText "\\"
  | isNull column => nameText column ++ " IS NULL"
  | isNotNull column => nameText column ++ " IS NOT NULL"
  | among column values =>
    nameText column ++ " IN (" ++ String.intercalate ", " (values.map Literal.text) ++ ")"
  | constant b => if b then "TRUE" else "FALSE"
  | binary left op right =>
    wrap (left.isSimple || left.isJoinedBy op) left.text ++ " " ++ op.symbol ++ " " ++
      wrap right.isSimple right.text
  | not p => "NOT " ++ wrap p.isSimple p.text

end Predicate

-- The query for the rows that meet a condition; all rows without one.
def selectText (table : Table) (condition : Option Predicate) : String :=
  let rows := "SELECT * FROM " ++ nameText table.name
  match condition with
  | none => rows
  | some p => rows ++ " WHERE " ++ p.text

-- The query for the rows that a filter selects.
def compile (table : Table) (query : Option Expr) : Except CompileError String :=
  match query with
  | none => .ok (selectText table none)
  | some e => (toPredicate table e).map fun p => selectText table (some p)

end FilterQuery.Sql
