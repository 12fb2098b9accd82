import FilterQuery.Sql.Text

namespace FilterQuery.Sql

-- The pieces a text falls into. Words are in upper case; a name is without its quotes, and a string is as it is
-- written between them.
inductive Lexeme
  | word (text : String)
  | name (name : String)
  | string (escapes : Bool) (body : List Char)
  | numeral (text : String)
  | symbol (text : String)
  deriving DecidableEq

-- Values as they are written.
inductive Constant
  | boolean (b : Bool)
  | number (negative : Bool) (text : String)
  | string (escapes : Bool) (body : List Char)
  deriving DecidableEq

def Constant.lexemes : Constant → List Lexeme
  | boolean b => [.word (if b then "TRUE" else "FALSE")]
  | number negative text => if negative then [.symbol "-", .numeral text] else [.numeral text]
  | string escapes body => [.string escapes body]

inductive Condition
  | column (name : String)
  | constant (value : Constant)
  | compare (left : Condition) (relation : Relation) (right : Condition)
  | like (left pattern escape : Condition)
  | isNull (left : Condition)
  | isNotNull (left : Condition)
  | among (left : Condition) (values : List Constant)
  | binary (left : Condition) (op : Connective) (right : Condition)
  | not (c : Condition)
  deriving DecidableEq

def commaSeparated (values : List Constant) : List Lexeme :=
  [.symbol ","].intercalate (values.map Constant.lexemes)

def parenthesized (xs : List Lexeme) : List Lexeme :=
  .symbol "(" :: xs ++ [.symbol ")"]

-- The symbols of the grammar, from loose to tight.
inductive Symbol
  -- parts with this connective between them
  | chain (op : Connective)
  | negation
  | predicate
  -- what a predicate asks of the operand `left`
  | test (left : Condition)
  | operand

-- AND binds more tightly than OR, and NOT more tightly than AND.
def Symbol.part : Connective → Symbol
  | .or => chain .and
  | .and => negation

-- All other operators bind more tightly than NOT. Chains associate to the left.
inductive Reads : Symbol → List Lexeme → Condition → Prop
  | chain :
    Reads (.chain op) xs a → Reads (.part op) ys b →
    Reads (.chain op) (xs ++ .word op.symbol :: ys) (.binary a op b)
  | part : Reads (.part op) xs a → Reads (.chain op) xs a
  | not : Reads .negation xs a → Reads .negation (.word "NOT" :: xs) (.not a)
  | positive : Reads .predicate xs a → Reads .negation xs a
  | predicate : Reads .operand xs a → Reads (.test a) ys b → Reads .predicate (xs ++ ys) b
  | operand : Reads .operand xs a → Reads .predicate xs a
  | compare :
    Reads .operand xs b → Reads (.test a) (.symbol relation.symbol :: xs) (.compare a relation b)
  | like :
    Reads .operand xs b → Reads .operand ys c →
    Reads (.test a) (.word "LIKE" :: (xs ++ .word "ESCAPE" :: ys)) (.like a b c)
  | isNull : Reads (.test a) [.word "IS", .word "NULL"] (.isNull a)
  | isNotNull : Reads (.test a) [.word "IS", .word "NOT", .word "NULL"] (.isNotNull a)
  | among (hv : values ≠ []) :
    Reads (.test a) (.word "IN" :: parenthesized (commaSeparated values)) (.among a values)
  | column : Reads .operand [.name name] (.column name)
  | constant : Reads .operand value.lexemes (.constant value)
  | paren : Reads (.chain .or) xs a → Reads .operand (parenthesized xs) a

end FilterQuery.Sql
