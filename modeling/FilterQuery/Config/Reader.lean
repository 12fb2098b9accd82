import FilterQuery.Config.Basic
import FilterQuery.Json.Reader.Value

namespace FilterQuery.Config

open Json Json.Reader

-- A part, by the name it has in an object.
inductive Part
  | logicalOperators
  | operations
  | identifiers
  | valueKinds
  | parentheses
  | indexAccess
  deriving DecidableEq

namespace Part

def all : List Part :=
  [logicalOperators, operations, identifiers, valueKinds, parentheses, indexAccess]

def name : Part → String
  | logicalOperators => "logicalOperators"
  | operations => "operations"
  | identifiers => "identifiers"
  | valueKinds => "valueTypes"
  | parentheses => "parentheses"
  | indexAccess => "indexAccess"

def ofName? (name : String) : Option Part :=
  all.find? (·.name = name)

end Part

namespace Reader

def boolean : Json.Reader Bool := do
  match ← peekToken? with
  | some 't' => literal "true".toList; return true
  | some 'f' => literal "false".toList; return false
  | _ => failMismatch .boolean

-- A string, when one is `wanted`, or asked for as something that is written as one.
def text (wanted : Wanted) : Json.Reader String := do
  match ← peekToken? with
  | some '"' => string .strict
  | _ => failMismatch wanted

def null : Json.Reader Unit := do
  match ← peekToken? with
  | some 'n' => literal "null".toList
  | _ => failMismatch .null

-- One of `all`, by its name.
def choice (all : List α) (name : α → String) : Json.Reader α := do
  let s ← text .name
  match all.find? (name · = s) with
  | some a => return a
  | none => fail (.unknownName s (all.map name))

-- A name, which may also stand as the only member of an object, with the value `null`.
def named (all : List α) (name : α → String) : Json.Reader α := do
  match ← peekToken? with
  | none => failAtNext .endOfValue
  | some '"' => choice all name
  | some '\x7b' =>
    skipChar
    let a ← choice all name
    colon
    null
    match ← peekToken? with
    | some '\x7d' => skipChar; return a
    | some _ => fail .expectedValue
    | none => fail .endOfObject
  | some _ => failAtNext .expectedValue

def list (item : Json.Reader α) : Json.Reader (List α) := do
  match ← peekToken? with
  | some '[' => items .strict item
  | _ => failMismatch .list

def optional (reader : Json.Reader α) : Json.Reader (Option α) := do
  match ← peekToken? with
  | some 'n' => literal "null".toList; return none
  | _ => return some (← reader)

-- Reads a part into a configuration.
def part (config : Config) : Part → Json.Reader Config
  | .logicalOperators => do
    let all ← optional (list (named LogicalOperator.all LogicalOperator.name))
    return { config with logicalOperators := all }
  | .operations => do
    let all ← optional (list (named Operation.all Operation.name))
    return { config with operations := all }
  | .identifiers => do
    let all ← optional (list (text .string))
    return { config with identifiers := all.map .list }
  | .valueKinds => do
    let all ← optional (list (named ValueKind.all ValueKind.name))
    return { config with valueKinds := all }
  | .parentheses => return { config with parentheses := ← boolean }
  | .indexAccess => return { config with indexAccess := ← boolean }

-- Reads the parts of a list as far as it goes.
def parts (config : Config) (first : Bool) : List Part → Json.Reader Config
  | [] => return config
  | p :: ps => do
    if ← hasItem .strict first then parts (← part config p) false ps
    else return config

-- What follows the name of a member. Other names than those of parts are passed over.
def member (key : String) (state : Config × List Part) : Json.Reader (Config × List Part) := do
  let (config, seen) := state
  match Part.ofName? key with
  | none =>
    colon
    skipValue
    return state
  | some p =>
    if p ∈ seen then
      discard peekToken?
      fail (.duplicateField key)
    colon
    return (← part config p, p :: seen)

-- An object with a member for each part, or a list of the parts in their order. Parts that are left out restrict
-- nothing.
def config : Json.Reader Config := do
  match ← peekToken? with
  | some '[' =>
    skipChar
    let config ← parts {} true Part.all
    listEnd
    return config
  | some '\x7b' => return (← members .strict (string .strict) member ({}, [])).1
  | _ => failMismatch .config

end Reader

-- Reads a text that is a configuration.
def read (text : String) : Except Json.Error Config :=
  Json.Reader.run (do let config ← Reader.config; atEnd; return config) text

end FilterQuery.Config
