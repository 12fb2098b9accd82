import FilterQuery.Config.Basic
import FilterQuery.Context

namespace FilterQuery.Parser

-- What the meaning of a text hangs on besides the text.
structure Environment where
  context : Option Context := none
  config : Option Config := none
  deriving Inhabited

namespace Environment

def permits (env : Environment) (construct : Construct) : Bool :=
  env.config.all (·.permits construct)

def hasPredicate (env : Environment) : Bool :=
  env.config.any (·.hasPredicate)

end Environment

def join (op : Connective) : Option Expr → Expr → Expr
  | none, e => e
  | some left, e => .binary left op e

def negate (e : Expr) : Nat → Expr
  | 0 => e
  | n + 1 => .not (negate e n)

-- An open group: the operand on the left of an OR, the one on the left of an AND, and the NOTs after
-- it.
structure Group where
  disjunct : Option Expr := none
  conjunct : Option Expr := none
  negations : Nat := 0
  deriving DecidableEq

namespace Group

-- The operand of OR that `e`, an operand of NOT, completes unless AND follows.
def conjunction (g : Group) (e : Expr) : Expr :=
  join .and g.conjunct (negate e g.negations)

-- The whole group when `e`, an operand of OR, is its last.
def disjunction (g : Group) (e : Expr) : Expr :=
  join .or g.disjunct e

-- The group when an operator follows `e`, an operand of OR.
def extend (g : Group) (e : Expr) : Connective → Group
  | .and => { g with conjunct := some e }
  | .or => { disjunct := some (g.disjunction e) }

end Group

-- What the next token is read as.
inductive Mode
  | operand
  -- behind the name of a field
  | fieldEnd (name : String)
  | index (name : String) (bracket : Nat)
  | indexEnd (left : Accessor) (bracket : Nat)
  | operator (left : Accessor)
  | value (left : Accessor) (op : Comparison)
  | listStart (left : Accessor)
  | firstItem (left : Accessor) (bracket : Nat)
  | item (left : Accessor) (bracket : Nat) (values : List Value)
  | itemEnd (left : Accessor) (bracket : Nat) (values : List Value)
  -- behind an operand of OR that is complete unless AND follows
  | operandEnd (e : Expr)
  deriving DecidableEq

structure State where
  mode : Mode := .operand
  group : Group := {}
  -- the groups around it, each with the position of the parenthesis that opened the next
  outer : List (Nat × Group) := []
  -- how many NOTs and parentheses are open
  depth : Nat := 0
  -- the names that were put to the identifier predicate, in order
  consulted : List String := []
  deriving DecidableEq

namespace State

-- What the next token has to be.
def expects (s : State) : ParseError.Expectation :=
  match s.mode with
  | .operand => .expression
  | .fieldEnd _ | .operator _ => .comparisonOperator
  | .index .. => .index
  | .indexEnd _ bracket => .indexEnd bracket
  | .value .. | .firstItem .. | .item .. => .value
  | .listStart _ => .listStart
  | .itemEnd _ bracket _ => .listEnd bracket
  | .operandEnd _ =>
    match s.outer with
    | [] => .continuation
    | (paren, _) :: _ => .groupEnd paren

-- Whether the next token is used up even if it is not what it has to be.
def takesAny (s : State) : Bool :=
  match s.mode with
  | .operand | .indexEnd .. | .listStart _ | .operandEnd _ => false
  | _ => true

-- Opens a NOT or a parenthesis.
def deepen (s : State) : Except ParseError.Cause State :=
  if s.depth < maxDepth then .ok { s with depth := s.depth + 1 } else .error .tooDeep

-- After an operand of NOT, which closes the NOTs before it.
def complete (s : State) (e : Expr) : State :=
  { s with
    mode := .operandEnd (s.group.conjunction e)
    group := { disjunct := s.group.disjunct }
    depth := s.depth - s.group.negations }

-- Whether the token that caused the error is used up.
def takes (s : State) : ParseError.Cause → Bool
  | .unexpected .. => s.takesAny
  | _ => true

-- The depth that the error leaves behind. A group that goes on with neither AND nor OR is taken to be
-- complete, so its parenthesis no longer counts although the closing one is missing.
def abandonedDepth (s : State) (cause : ParseError.Cause) : Nat :=
  match cause, s.mode, s.outer with
  | .unexpected .., .operandEnd _, _ :: _ => s.depth - 1
  | _, _, _ => s.depth

theorem deepen_eq_ok {s t : State} (h : s.deepen = .ok t) :
    s.depth < maxDepth ∧ t = { s with depth := s.depth + 1 } := by
  unfold deepen at h
  split at h
  case isTrue hd => cases h; exact ⟨hd, rfl⟩
  case isFalse => cases h

theorem deepen_eq_error {s : State} (h : s.deepen = .error cause) :
    maxDepth ≤ s.depth ∧ cause = .tooDeep := by
  unfold deepen at h
  split at h
  case isTrue => cases h
  case isFalse hd => cases h; exact ⟨Nat.le_of_not_lt hd, rfl⟩

theorem abandonedDepth_le (s : State) (cause : ParseError.Cause) :
    s.abandonedDepth cause ≤ s.depth := by
  unfold abandonedDepth
  split <;> omega

end State
end FilterQuery.Parser
