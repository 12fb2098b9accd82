import FilterQuery.Expr.Printer
import FilterQuery.Numeral.Reading
import FilterQuery.Sql.Predicate

namespace FilterQuery.Sql

-- A table, and the columns of those fields that have another name there.
structure Table where
  name : String
  columns : List (String × String) := []
  deriving DecidableEq

def Table.column (table : Table) (field : String) : String :=
  (table.columns.lookup field).getD field

-- Why an expression is no condition.
inductive CompileError
  | indexAccess (accessor : Accessor)
  | nullOperand (op : Comparison)
  | unresolvedFunction (call : String)
  | invalidNumber (text : String)
  | nullLiteral
  deriving DecidableEq

def CompileError.message : CompileError → String
  | indexAccess accessor => "Index access on '" ++ accessor.canonical ++ "' cannot be compiled to SQL"
  | nullOperand op => "Operator '" ++ op.symbol ++ "' cannot be applied to null"
  | unresolvedFunction call =>
    "Function '" ++ call ++ "' must be resolved through the parse context before compiling to SQL"
  | invalidNumber text => "Invalid number '" ++ text ++ "'"
  | nullLiteral => "Null has no SQL value"

-- The column of a field without index.
def column (table : Table) (accessor : Accessor) : Except CompileError String :=
  match accessor.index with
  | none => .ok (table.column accessor.field)
  | some _ => .error (.indexAccess accessor)

-- Integers of 64 bits stay exact, all other numbers are rounded.
def literal (v : Value) : Except CompileError Literal :=
  match v.kind with
  | .string => .ok (.string v.text)
  | .boolean => .ok (.boolean (v.text = "true"))
  | .number =>
    match Numeral.int64? v.text, Double.read? v.text with
    | some n, _ => .ok (.integer n)
    | none, some x => .ok (.real x)
    | none, none => .error (.invalidNumber v.text)
  | .null => .error .nullLiteral
  | .function => .error (.unresolvedFunction v.text)

-- Puts a backslash before a character wherever it stands.
def escapeEach (special : Char) (cs : List Char) : List Char :=
  cs.flatMap fun c => if c = special then ['\\', c] else [c]

-- The characters that mean more than themselves in a pattern get a backslash. The backslashes come first, so that
-- those that are put before the others stay as they are.
def escapePattern (cs : List Char) : List Char :=
  escapeEach '_' (escapeEach '%' (escapeEach '\\' cs))

-- Matches the texts that hold `s`.
def containsPattern (s : String) : String :=
  .ofList ('%' :: escapePattern s.toList ++ ['%'])

-- The relation that a comparison asks for; none for the search in a text.
def relation? : Comparison → Option Relation
  | .eq => some .eq
  | .neq => some .ne
  | .gt => some .gt
  | .ge => some .ge
  | .lt => some .lt
  | .le => some .le
  | .contains => none

def comparison (table : Table) (left : Accessor) (op : Comparison) (right : Value) :
    Except CompileError Predicate := do
  let name ← column table left
  if right.kind = .null then
    match op with
    | .eq => return .isNull name
    | .neq => return .isNotNull name
    | _ => throw (.nullOperand op)
  else
    match relation? op with
    | some relation => return .compare name relation (← literal right)
    | none =>
      if right.kind = .function then throw (.unresolvedFunction right.text)
      return .like name (containsPattern right.text)

-- Null is no member of any list, so it is asked for apart. Nothing is among no values.
def membership (table : Table) (left : Accessor) (values : List Value) :
    Except CompileError Predicate := do
  let name ← column table left
  let literals ← (values.filter (·.kind ≠ .null)).mapM literal
  let hasNull := values.any (·.kind = .null)
  return match literals, hasNull with
    | [], false => .constant false
    | [], true => .isNull name
    | literals, false => .among name literals
    | literals, true => .binary (.among name literals) .or (.isNull name)

def toPredicate (table : Table) : Expr → Except CompileError Predicate
  | .condition left op right => comparison table left op right
  | .membership left values => membership table left values
  | .binary left op right => do
    let left ← toPredicate table left
    let right ← toPredicate table right
    return .binary left op right
  | .not e => do return .not (← toPredicate table e)
  | .paren e => toPredicate table e
  | .boolean b => .ok (.constant b)

end FilterQuery.Sql
