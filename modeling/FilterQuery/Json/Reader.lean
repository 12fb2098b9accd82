import FilterQuery.Json.Error
import FilterQuery.Text.Size

namespace FilterQuery.Json

-- What is left of a text, and the bytes before it.
structure Cursor where
  rest : List Char
  offset : Nat := 0

-- A cause and the byte it is noticed at.
structure Fault where
  cause : Cause
  offset : Nat

-- Takes what it needs off the front of a text, and stops at the first error.
abbrev Reader := StateT Cursor (Except Fault)

namespace Reader

def isBlank (c : Char) : Bool :=
  c == ' ' || c == '\t' || c == '\n' || c == '\r'

def takeWhile (p : Char → Bool) : Reader (List Char) := do
  let c ← get
  let taken := c.rest.takeWhile p
  set ({ rest := c.rest.dropWhile p, offset := c.offset + Text.size taken } : Cursor)
  return taken

def peek? : Reader (Option Char) :=
  return (← get).rest.head?

-- The next character that is no blank.
def peekToken? : Reader (Option Char) := do
  discard <| takeWhile isBlank
  peek?

def skipChar : Reader Unit :=
  modify fun c =>
    match c.rest with
    | [] => c
    | a :: rest => { rest := rest, offset := c.offset + a.utf8Size }

def fail (cause : Cause) : Reader α := do
  throw ⟨cause, (← get).offset⟩

-- Fails because of the next byte.
def failAtNext (cause : Cause) : Reader α := do
  let c ← get
  throw ⟨cause, if c.rest.isEmpty then c.offset else c.offset + 1⟩

def takeIf (p : Char → Bool) : Reader Bool := do
  match ← peek? with
  | some c => if p c then skipChar; return true else return false
  | none => return false

-- The rest of a word whose first character tells which word it must be.
def literal : List Char → Reader Unit
  | [] => pure ()
  | c :: cs => do
    match ← peek? with
    | none => fail .endOfValue
    | some d => if c = d then skipChar; literal cs else failAtNext .expectedLiteral

-- Runs a reader on a whole text.
def run (reader : Reader α) (text : String) : Except Error α :=
  match reader { rest := text.toList } with
  | .ok (a, _) => .ok a
  | .error fault =>
    let place := locate 1 0 fault.offset text.toList
    .error ⟨fault.cause, place.1, place.2⟩

-- Nothing but blanks may follow.
def atEnd : Reader Unit := do
  if (← peekToken?).isSome then failAtNext .trailingText

-- Strict reading checks all that a value needs, lax reading only what tells where it ends.
inductive Rigour
  | strict
  | lax
  deriving DecidableEq

-- Whether a list goes on.
def hasItem (rigour : Rigour) (first : Bool) : Reader Bool := do
  match ← peekToken? with
  | none => failAtNext .endOfList
  | some ']' => return false
  | some c =>
    if first then return true
    else if c = ',' then
      skipChar
      match ← peekToken? with
      | none => failAtNext .endOfValue
      | some c => if c = ']' ∧ rigour = .strict then failAtNext .trailingComma else return true
    else failAtNext .expectedListEnd

-- The end of a list that has all the items it may have.
def listEnd : Reader Unit := do
  match ← peekToken? with
  | none => failAtNext .endOfList
  | some ']' => skipChar
  | some ',' =>
    skipChar
    if (← peekToken?) = some ']' then failAtNext .trailingComma else failAtNext .trailingText
  | some _ => failAtNext .trailingText

-- Whether an object goes on; then its next name comes next.
def hasMember (rigour : Rigour) (first : Bool) : Reader Bool := do
  match ← peekToken? with
  | none => failAtNext .endOfObject
  | some '\x7d' => return false
  | some c =>
    if first then
      if c = '"' then return true else failAtNext .keyNotString
    else if c = ',' then
      skipChar
      match ← peekToken? with
      | none => failAtNext (if rigour = .strict then .endOfValue else .endOfObject)
      | some '"' => return true
      | some c =>
        if c = '\x7d' ∧ rigour = .strict then failAtNext .trailingComma
        else failAtNext .keyNotString
    else failAtNext .expectedObjectEnd

def objectEnd : Reader Unit := do
  match ← peekToken? with
  | none => failAtNext .endOfObject
  | some '\x7d' => skipChar
  | some ',' => failAtNext .trailingComma
  | some _ => failAtNext .trailingText

def colon : Reader Unit := do
  match ← peekToken? with
  | none => failAtNext .endOfObject
  | some ':' => skipChar
  | some _ => failAtNext .expectedColon

-- The items of a list up to its end; every item takes a character, so `fuel` bounds their number.
def itemsLoop (rigour : Rigour) (item : Reader α) (first : Bool) : (fuel : Nat) → Reader (List α)
  | 0 => fail .endOfList
  | fuel + 1 => do
    if ← hasItem rigour first then
      let a ← item
      return a :: (← itemsLoop rigour item false fuel)
    else return []

-- A list, from its bracket on.
def items (rigour : Rigour) (item : Reader α) : Reader (List α) := do
  skipChar
  let all ← itemsLoop rigour item true ((← get).rest.length + 1)
  listEnd
  return all

def membersLoop (rigour : Rigour) (name : Reader String) (member : String → σ → Reader σ)
    (first : Bool) (state : σ) : (fuel : Nat) → Reader σ
  | 0 => fail .endOfObject
  | fuel + 1 => do
    if ← hasMember rigour first then
      let key ← name
      membersLoop rigour name member false (← member key state) fuel
    else return state

-- An object, from its brace on. `member` reads what follows a name, the colon included.
def members (rigour : Rigour) (name : Reader String) (member : String → σ → Reader σ) (start : σ) :
    Reader σ := do
  skipChar
  let state ← membersLoop rigour name member true start ((← get).rest.length + 1)
  objectEnd
  return state

end Reader
end FilterQuery.Json
