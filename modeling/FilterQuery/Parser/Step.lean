import FilterQuery.Numeral.Reading
import FilterQuery.Parser.State
import FilterQuery.Text.Quoted

namespace FilterQuery.Parser

-- The value that a token stands for.
def value? (context : Option Context) : Token.Kind → Option Value
  | .string raw => some (.string (.ofList (Text.unquote raw.toList)))
  | .number text => some (.number text)
  | .boolean b => some (.boolean b)
  | .null => some .null
  | .identifier "empty" => some .null
  | .function call => some (.resolve context call)
  | _ => none

-- The index that a token stands for. It has to be a finite number, or a string.
def readIndex : Token.Kind → Except ParseError.Cause Index
  | .string raw => .ok (.key (.ofList (Text.unquote raw.toList)))
  | .number text =>
    match (Double.read? text).filter Double.isFinite with
    | some x => .ok (.number x)
    | none => .error (.invalidIndex text)
  | found => .error (.unexpected .index found)

namespace State

-- The construct that a token brings into the query. None if it cannot stand here, or only goes on with
-- what earlier tokens have brought.
def introduces (context : Option Context) (s : State) (found : Token.Kind) : Option Construct :=
  match s.mode, found with
  | .operand, .not => some (.logicalOperator .not)
  | .operand, .openParen => some .parentheses
  | .operand, .identifier name => some (.identifier name)
  | .fieldEnd _, .openBracket => some .indexAccess
  | .fieldEnd _, .comparison op => some (.operation (.comparison op))
  | .fieldEnd _, .membership => some (.operation .membership)
  | .operator _, .comparison op => some (.operation (.comparison op))
  | .operator _, .membership => some (.operation .membership)
  | .value .., found => (value? context found).map (.valueKind ·.kind)
  | .firstItem .., found => (value? context found).map (.valueKind ·.kind)
  | .item .., found => (value? context found).map (.valueKind ·.kind)
  | .operandEnd _, .connective op => some (.logicalOperator (.connective op))
  | _, _ => none

def unexpected (s : State) (found : Token.Kind) : Except ParseError.Cause State :=
  .error (.unexpected s.expects found)

def readOperand (s : State) (t : Token) : Except ParseError.Cause State :=
  match t.kind with
  | .not =>
    s.deepen.map fun s => { s with group := { s.group with negations := s.group.negations + 1 } }
  | .openParen =>
    s.deepen.map fun s => { s with group := {}, outer := (t.span.start, s.group) :: s.outer }
  | .boolean b => .ok (s.complete (.boolean b))
  | .identifier name => .ok { s with mode := .fieldEnd name }
  | found => s.unexpected found

def readOperator (s : State) (left : Accessor) (found : Token.Kind) :
    Except ParseError.Cause State :=
  match found with
  | .comparison op => .ok { s with mode := .value left op }
  | .membership => .ok { s with mode := .listStart left }
  | found => s.unexpected found

-- Reads a value and goes on with it.
def readValue (context : Option Context) (s : State) (found : Token.Kind) (next : Value → State) :
    Except ParseError.Cause State :=
  match value? context found with
  | some value => .ok (next value)
  | none => s.unexpected found

-- After an operand of OR: AND and OR go on with the group, a parenthesis ends it.
def readOperandEnd (s : State) (e : Expr) (found : Token.Kind) : Except ParseError.Cause State :=
  match found, s.outer with
  | .connective op, _ => .ok { s with mode := .operand, group := s.group.extend e op }
  | .closeParen, (_, group) :: outer =>
    .ok <| complete { s with group := group, outer := outer, depth := s.depth - 1 }
      (.paren (s.group.disjunction e))
  | found, _ => s.unexpected found

-- The state after a token that is not the end of the text.
def advance (context : Option Context) (s : State) (t : Token) : Except ParseError.Cause State :=
  match s.mode with
  | .operand => s.readOperand t
  | .fieldEnd name =>
    match t.kind with
    | .openBracket => .ok { s with mode := .index name t.span.start }
    | found => s.readOperator { field := name } found
  | .index name bracket =>
    (readIndex t.kind).map fun index => { s with mode := .indexEnd ⟨name, some index⟩ bracket }
  | .indexEnd left _ =>
    match t.kind with
    | .closeBracket => .ok { s with mode := .operator left }
    | found => s.unexpected found
  | .operator left => s.readOperator left t.kind
  | .value left op => s.readValue context t.kind fun value => s.complete (.condition left op value)
  | .listStart left =>
    match t.kind with
    | .openBracket => .ok { s with mode := .firstItem left t.span.start }
    | found => s.unexpected found
  | .firstItem left bracket =>
    match t.kind with
    | .closeBracket => .ok (s.complete (.membership left []))
    | found =>
      s.readValue context found fun value => { s with mode := .itemEnd left bracket [value] }
  | .item left bracket values =>
    s.readValue context t.kind fun value =>
      { s with mode := .itemEnd left bracket (values ++ [value]) }
  | .itemEnd left bracket values =>
    match t.kind with
    | .comma => .ok { s with mode := .item left bracket values }
    | .closeBracket => .ok (s.complete (.membership left values))
    | found => s.unexpected found
  | .operandEnd e => s.readOperandEnd e t.kind

-- A token whose construct is not permitted is an error whatever else is wrong with it.
def step (env : Environment) (s : State) (t : Token) : Except ParseError.Cause State :=
  match (s.introduces env.context t.kind).filter (!env.permits ·) with
  | some construct => .error (.forbidden construct)
  | none => s.advance env.context t

-- Notes the name that the next step is going to put to the identifier predicate.
def consult (env : Environment) (s : State) (t : Token) : State :=
  match s.introduces env.context t.kind with
  | some (.identifier name) =>
    if env.hasPredicate then { s with consulted := s.consulted ++ [name] } else s
  | _ => s

end State
end FilterQuery.Parser
