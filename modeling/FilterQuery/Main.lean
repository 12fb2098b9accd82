import FilterQuery.Prompt.Session

namespace FilterQuery.Prompt

def sourceOfBytes (bytes : ByteArray) : Config.Source :=
  match String.fromUTF8? bytes with
  | some content => .text content
  | none => .binary

def readSource (path : String) : IO Config.Source := do
  try
    return sourceOfBytes (← IO.FS.readBinFile path)
  catch
    -- 21: the path leads to a directory
    | .inappropriateType _ 21 _ => return .directory
    | _ => return .missing

partial def loop (stdin stdout : IO.FS.Stream) (s : Session) : IO UInt32 := do
  let line ← stdin.getLine
  if line.isEmpty then return successStatus
  let source ← (path? line).mapM readSource
  let (shown, outcome) := s.respond (fun _ => source.getD .missing) line
  for text in shown do
    stdout.putStrLn text
  stdout.flush
  match outcome with
  | .next s => loop stdin stdout s
  | .quit => return successStatus
  | .failure => return failureStatus

end FilterQuery.Prompt

open FilterQuery.Prompt in
def main : IO UInt32 := do
  let stdout ← IO.getStdout
  stdout.putStrLn greeting
  loop (← IO.getStdin) stdout {}
