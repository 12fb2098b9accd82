import FilterQuery.Config.Reader

namespace FilterQuery.Config

-- What is found under a path.
inductive Source
  | missing
  | directory
  -- bytes that are not UTF-8
  | binary
  | text (content : String)
  deriving DecidableEq

inductive LoadFailure
  | missing
  | directory
  | binary
  | malformed (error : Json.Error)
  deriving DecidableEq

structure LoadError where
  path : String
  failure : LoadFailure
  deriving DecidableEq

def load (path : String) (source : Source) : Except LoadError Config :=
  match source with
  | .missing => .error ⟨path, .missing⟩
  | .directory => .error ⟨path, .directory⟩
  | .binary => .error ⟨path, .binary⟩
  | .text content => (read content).mapError fun e => ⟨path, .malformed e⟩

namespace LoadError

-- The failure that lies under this one.
def reason? (e : LoadError) : Option String :=
  match e.failure with
  | .missing => none
  | .directory => some "Is a directory (os error 21)"
  | .binary => some "stream did not contain valid UTF-8"
  | .malformed error => some error.message

def headline (e : LoadError) : String :=
  match e.failure with
  | .missing => "配置文件不存在: " ++ e.path
  | .directory | .binary => "无法读取配置文件 " ++ e.path
  | .malformed _ => "无法解析JSON配置文件 " ++ e.path

def message (e : LoadError) : String :=
  e.headline ++ e.reason?.elim "" (": " ++ ·)

end LoadError
end FilterQuery.Config
