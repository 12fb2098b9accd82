import FilterQuery.Dump
import FilterQuery.Prompt.Command
import FilterQuery.Prompt.Line
import FilterQuery.Query
import FilterQuery.Sql.Text

namespace FilterQuery.Prompt

structure Session where
  config : Option Config := none
  context : Context := {}
  -- SQL is shown if there is a table
  table : Option String := none
  showTokens : Bool := false
  deriving Inhabited

-- What comes after a line.
inductive Outcome
  | next (s : Session)
  | quit
  -- The line could not be read, and the program gave up.
  | failure
  deriving Inhabited

-- What is shown up to the end of a session, and the exit status of the program.
structure Transcript where
  lines : List String
  status : UInt32
  deriving DecidableEq

def successStatus : UInt32 := 0

def failureStatus : UInt32 := 101

def greeting : String := "--- AQL 交互式解析器 (输入 :help 查看帮助) ---"

def usualTable : String := "test_results"

def help : List String := [
  "命令:",
  "  :config <file>      从JSON文件加载解析器配置（不带参数时清除）",
  "  :let name()=<json>  设置函数字面量的值，例如 :let now()=1700000000",
  "  :sql [table]        切换SQL输出（默认表名 test_results）",
  "  :tokens             切换token输出",
  "  :help               显示帮助",
  "  :quit               退出",
  "其他输入按AQL解析"]

-- The column under which a byte of a line stands: the number of characters before it. A byte inside a character,
-- or past the end, is taken for a column itself.
def column (position : Nat) (line : String) : Nat :=
  match Text.takeBytes position line.toList with
  | some before => before.length
  | none => position

def errorLines (line : String) (e : ParseError) : List String :=
  ["✗ 解析失败 (" ++ e.category.name ++ "): " ++ e.display,
   "  " ++ line,
   "  " ++ .ofList (List.replicate (column e.span.start line) ' ') ++ "^"]

def padLeft (width : Nat) (s : String) : String :=
  .ofList (List.replicate (width - s.length) ' ') ++ s

def tokenLine (t : Token) : String :=
  "  " ++ padLeft 4 (toString t.span.start) ++ "  " ++ t.kind.dump.oneLine

namespace Session

-- Carries out a command that was understood; `source` is what is found under the path it names.
def perform (s : Session) (source : String → Config.Source) :
    Command → Except CommandError (List String × Outcome)
  | .quit => .ok ([], .quit)
  | .help => .ok (help, .next s)
  | .clearConfig => .ok (["✓ 已清除解析器配置"], .next { s with config := none })
  | .loadConfig path =>
    match Config.load path (source path) with
    | .error e => .error (.notLoaded e)
    | .ok config =>
      .ok (["✓ 已加载配置: " ++ config.dump.oneLine], .next { s with config := some config })
  | .bind name value =>
    .ok (["✓ " ++ name ++ " = " ++ value.text],
      .next { s with context := s.context.insert name value })
  | .sql arg =>
    match s.table, arg with
    | some _, none => .ok (["SQL输出: 关闭"], .next { s with table := none })
    | _, arg =>
      let table := arg.getD usualTable
      .ok (["SQL输出: 开启 (表 " ++ table ++ ")"], .next { s with table := some table })
  | .tokens =>
    let showTokens := !s.showTokens
    .ok (["token输出: " ++ if showTokens then "开启" else "关闭"], .next { s with showTokens })

def tokenLines (text : String) : List String :=
  match tokenize text with
  | .ok tokens => tokens.map tokenLine
  | .error e => errorLines text e

def sqlLine (table : String) (query : Option Expr) : String :=
  match Sql.compile { name := table } query with
  | .ok sql => "SQL: " ++ sql
  | .error e => "✗ SQL 编译失败: " ++ e.message

def queryLines : Option Expr → List String
  | none => ["空查询"]
  | some e => ["规范化: " ++ e.canonical, "AST: " ++ e.dump.indented 0]

-- What is shown for a query. A context without bindings counts as none.
def evaluate (s : Session) (text : String) : List String :=
  let context := if s.context.isEmpty then none else some s.context
  (if includesAll (some text) then ["(不过滤：匹配全部结果)"] else []) ++
  (if s.showTokens then tokenLines text else []) ++
  match parse text context s.config with
  | .error e => errorLines text e
  | .ok query => queryLines query ++ (s.table.map (sqlLine · query)).toList

-- The lines shown for one line, and what comes after it.
def respond (s : Session) (source : String → Config.Source) (line : String) :
    List String × Outcome :=
  match Line.read? line with
  | none => ([], .failure)
  | some .blank => ([], .next s)
  | some (.query text) => (s.evaluate text, .next s)
  | some (.command text) =>
    match Command.ofText text >>= s.perform source with
    | .ok result => result
    | .error e => (["✗ " ++ e.message], .next s)

-- The answers to a list of lines.
def run (s : Session) (source : String → Config.Source) : List String → Transcript
  | [] => ⟨[], successStatus⟩
  | line :: lines =>
    let (shown, outcome) := s.respond source line
    match outcome with
    | .next s =>
      let rest := s.run source lines
      { rest with lines := shown ++ rest.lines }
    | .quit => ⟨shown, successStatus⟩
    | .failure => ⟨shown, failureStatus⟩

end Session

-- A session from its start.
def transcript (source : String → Config.Source) (lines : List String) : Transcript :=
  let rest := ({} : Session).run source lines
  { rest with lines := greeting :: rest.lines }

-- The path whose contents a line asks for.
def path? (line : String) : Option String :=
  match Line.read? line with
  | some (.command text) =>
    match Command.ofText text with
    | .ok (.loadConfig path) => some path
    | _ => none
  | _ => none

end FilterQuery.Prompt
