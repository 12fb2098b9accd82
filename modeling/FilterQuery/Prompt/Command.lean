import FilterQuery.Config.File
import FilterQuery.Context
import FilterQuery.Text.Blank

namespace FilterQuery.Prompt

inductive Command
  | quit
  | help
  | clearConfig
  | loadConfig (path : String)
  | bind (name : String) (value : Json)
  -- without a table: off, or on with the usual table
  | sql (table : Option String)
  | tokens
  deriving Inhabited

-- Why a command was not carried out.
inductive CommandError
  | usage
  | badName (name : String)
  | badJson (text : String) (error : Json.Error)
  | notLoaded (error : Config.LoadError)
  | unknown (word : String)
  deriving DecidableEq

namespace CommandError

-- The error and all that lies under it.
def chain : CommandError → List String
  | usage => ["用法: :let name()=<json>"]
  | badName name => ["函数名必须以 () 结尾: " ++ name]
  | badJson text error => ["无效的JSON值: " ++ text, error.message]
  | notLoaded error => ["无法加载配置 " ++ error.path, error.message] ++ error.reason?.toList
  | unknown word => ["未知命令 " ++ word ++ "，输入 :help 查看帮助"]

def message (e : CommandError) : String :=
  String.intercalate ": " e.chain

end CommandError

namespace Command

def endsInBrackets (cs : List Char) : Bool :=
  [')', '('].isPrefixOf cs.reverse

-- Reads `name()=json`.
def readBinding (text : String) : Except CommandError Command :=
  match text.toList.dropWhile (· != '=') with
  | [] => .error .usage
  | _ :: after =>
    let name := Text.trimChars (text.toList.takeWhile (· != '='))
    let json := String.ofList (Text.trimChars after)
    if !endsInBrackets name then .error (.badName (.ofList name))
    else
      match Json.read json with
      | .error e => .error (.badJson json e)
      | .ok value => .ok (.bind (.ofList name) value)

-- Reads a word with a colon and what it is about.
def ofText (text : String) : Except CommandError Command :=
  let (word, after) := Text.splitAtBlank text
  let arg := Text.trim after
  match word with
  | ":quit" | ":q" => .ok .quit
  | ":help" => .ok .help
  | ":config" => .ok (if arg = "" then .clearConfig else .loadConfig arg)
  | ":let" => readBinding arg
  | ":sql" => .ok (.sql (if arg = "" then none else some arg))
  | ":tokens" => .ok .tokens
  | word => .error (.unknown word)

end Command
end FilterQuery.Prompt
