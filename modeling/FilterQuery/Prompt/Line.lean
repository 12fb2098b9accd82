import FilterQuery.Text.Blank
import FilterQuery.Text.Cluster
import FilterQuery.Text.Size

namespace FilterQuery.Prompt

inductive Line
  | blank
  | command (text : String)
  | query (text : String)
  deriving DecidableEq

-- What has been typed so far, the last first: the characters, and for each cluster how many bytes a
-- backspace takes back.
structure Typed where
  chars : List Char := []
  sizes : List Nat := []
  deriving DecidableEq

def backspace : Char := '\x08'

namespace Typed

-- The size of a cluster is kept in one byte, so that of a cluster of 256 bytes or more only a part can
-- be taken back.
def add (typed : Typed) (cluster : List Char) : Typed :=
  ⟨cluster.reverse ++ typed.chars, Text.size cluster % 256 :: typed.sizes⟩

-- Takes back the last cluster. None if only a part of a character would be left.
def drop? (typed : Typed) : Option Typed :=
  match typed.sizes with
  | [] => some typed
  | size :: sizes => (Text.dropBytes size typed.chars).map (⟨·, sizes⟩)

def type? (typed : Typed) (cluster : List Char) : Option Typed :=
  if cluster = [backspace] then typed.drop? else some (typed.add cluster)

end Typed

-- The characters that are left of a line after its backspaces.
def takeBack (cs : List Char) : Option (List Char) :=
  ((Text.clusters cs).foldlM Typed.type? {}).map (·.chars.reverse)

-- A line without the blanks around it; a colon makes it a command. None if it cannot be read.
def Line.read? (text : String) : Option Line :=
  (takeBack text.toList).map fun cs =>
    match Text.trimChars cs with
    | [] => .blank
    | ':' :: cs => .command (.ofList (':' :: cs))
    | cs => .query (.ofList cs)

end FilterQuery.Prompt
