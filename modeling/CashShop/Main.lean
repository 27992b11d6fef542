import CashShop.Command
import CashShop.Session
import Std.Time.DateTime.Timestamp

namespace CashShop.Command

def usage : String := "Usage: cashshop [-c PATH | --config PATH] [--replay PATH] [-h | --help]"

def readContent (path : String) : IO Content := do
  try pure (.text (← IO.FS.readFile path))
  catch
    | .noFileOrDirectory .. => pure .missing
    | e => pure (.unreadable (toString e))

def collect (args : List String) : IO Surroundings := do
  let names := configVariable :: Config.Variable.all.map (·.name)
  let found ← names.mapM fun name => do pure (name, ← IO.getEnv name)
  let env (name : String) : Option String := (found.lookup name).join
  let paths := match Arguments.parse args with
    | .ok a => configPath a env :: a.replay.toList
    | .error _ => []
  let files ← paths.mapM fun path => do pure (path, ← readContent path)
  let bytes ← IO.getRandomBytes 16
  let seed := bytes.toList.foldl (fun n b => n * 256 + b.toNat) 0
  let now := (← Std.Time.Timestamp.now).toMillisecondsSinceUnixEpoch.toInt
  pure ⟨env, fun path => (files.lookup path).getD .missing, fun _ _ => none, .ofSeed seed now⟩

def printLog (log : Log) : IO Unit := log.lines.forM fun l => IO.println (l.render log.json)

partial def untilEnd (input : IO.FS.Stream) : IO Unit := do
  unless (← input.getLine).isEmpty do untilEnd input

def program (args : List String) : IO UInt32 := do
  let outcome := run args (← collect args)
  match outcome with
  | .help => IO.println usage
  | .misuse => IO.eprintln usage
  | .failed f log =>
    printLog log
    IO.eprintln s!"Error: {f.message}"
  | .stopped running final =>
    printLog running
    untilEnd (← IO.getStdin)
    printLog final
  pure outcome.code.toUInt32

end CashShop.Command

def main (args : List String) : IO UInt32 := CashShop.Command.program args
