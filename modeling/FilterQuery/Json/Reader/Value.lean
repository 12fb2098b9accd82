import FilterQuery.Json.Reader.Number
import FilterQuery.Json.Reader.String

namespace FilterQuery.Json

namespace Reader

-- How many lists and objects may be open at once.
def maxOpen : Nat := 127

-- A value in which at most `room` lists and objects are open at once.
def value (room : Nat) : Reader Json := do
  match ← peekToken? with
  | none => failAtNext .endOfValue
  | some 'n' => literal "null".toList; return .null
  | some 't' => literal "true".toList; return .boolean true
  | some 'f' => literal "false".toList; return .boolean false
  | some '"' => return .string (← string .strict)
  | some '[' =>
    match room with
    | 0 => failAtNext .tooDeep
    | room + 1 => return .array (← items .strict (value room))
  | some '\x7b' =>
    match room with
    | 0 => failAtNext .tooDeep
    | room + 1 =>
      let member name members := do
        colon
        return insertMember name (← value room) members
      return .object (← members .strict (string .strict) member [])
  | some c =>
    if c = '-' ∨ c.isDigit then return .number (← number) else failAtNext .expectedValue

-- Passes over a value that nobody wants.
def skip (room : Nat) : Reader Unit := do
  match ← peekToken? with
  | none => failAtNext .endOfValue
  | some 'n' => literal "null".toList
  | some 't' => literal "true".toList
  | some 'f' => literal "false".toList
  | some '"' => discard <| string .lax
  | some '[' =>
    match room with
    | 0 => failAtNext .tooDeep
    | room + 1 => discard <| items .lax (skip room)
  | some '\x7b' =>
    match room with
    | 0 => failAtNext .tooDeep
    | room + 1 => members .lax (string .lax) (fun _ _ => do colon; skip room) ()
  | some c =>
    if c = '-' ∨ c.isDigit then laxNumber else failAtNext .expectedValue

-- Passes over a value however deep it is: no more can be open than there are characters.
def skipValue : Reader Unit := do
  skip (← get).rest.length

-- Fails for want of something else, once the value that is there has been read.
def failMismatch (wanted : Wanted) : Reader α := do
  match ← peekToken? with
  | none => failAtNext .endOfValue
  | some 'n' => literal "null".toList; fail (.mismatch .null wanted)
  | some 't' => literal "true".toList; fail (.mismatch (.boolean true) wanted)
  | some 'f' => literal "false".toList; fail (.mismatch (.boolean false) wanted)
  | some '"' =>
    let s ← string .strict
    fail (.mismatch (.string s) wanted)
  | some '[' => fail (.mismatch .array wanted)
  | some '\x7b' => fail (.mismatch .object wanted)
  | some c =>
    if c = '-' ∨ c.isDigit then
      let n ← number
      fail (.mismatch (.number n) wanted)
    else failAtNext .expectedValue

end Reader

-- Reads a text that is one JSON value.
def read (text : String) : Except Error Json :=
  Reader.run (do let json ← Reader.value Reader.maxOpen; Reader.atEnd; return json) text

end FilterQuery.Json
