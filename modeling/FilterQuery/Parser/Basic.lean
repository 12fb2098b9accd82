import FilterQuery.Parser.Step

namespace FilterQuery

-- The tokens that are left, and what earlier calls have left behind.
structure Parser extends Parser.Environment where
  rest : List Token
  -- stands for the end if the tokens have none
  eol : Token
  depth : Nat := 0
  consulted : List String := []

namespace Parser

def ofTokens (env : Environment) (tokens : List Token) : Parser :=
  { env with rest := tokens, eol := .endAt (tokens.getLast?.elim 0 (·.span.stop)) }

-- The parser when a query ends in state `s`.
def leave (p : Parser) (s : State) (depth : Nat) (rest : List Token) : Parser :=
  { p with rest := rest, depth := depth, consulted := s.consulted }

-- The first token of `rest` is at fault; `t` is that token, or stands for it.
def fail (p : Parser) (s : State) (cause : ParseError.Cause) (t : Token) (rest : List Token) :
    Except ParseError (Option Expr) × Parser :=
  (.error ⟨cause, t.span⟩,
    p.leave s (s.abandonedDepth cause) (if s.takes cause then rest.drop 1 else rest))

-- The end of the text is reached: it is `t`, or `t` stands for it.
def finish (p : Parser) (s : State) (t : Token) (rest : List Token) :
    Except ParseError (Option Expr) × Parser :=
  match s.mode, s.outer with
  | .operandEnd e, [] => (.ok (some (s.group.disjunction e)), p.leave s s.depth rest)
  | _, _ => p.fail s (.unexpected s.expects t.kind) t rest

-- Reads the tokens up to the end of the text or the first error.
def run (p : Parser) (s : State) : List Token → Except ParseError (Option Expr) × Parser
  | [] => p.finish s p.eol []
  | t :: ts =>
    if t.kind = .eol then p.finish s t (t :: ts)
    else
      let s := s.consult p.toEnvironment t
      match s.step p.toEnvironment t with
      | .ok s => p.run s ts
      | .error cause => p.fail s cause t (t :: ts)

-- Reads one query; at the end of the text it is the empty one.
def parse (p : Parser) : Except ParseError (Option Expr) × Parser :=
  if (p.rest.headD p.eol).kind = .eol then (.ok none, p)
  else p.run { depth := p.depth, consulted := p.consulted } p.rest

end Parser
end FilterQuery
