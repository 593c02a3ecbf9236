import Reckoner.Command.Run
import Reckoner.Log.Filter

/-! Entry point: gathers the surroundings of a run and prints its report. -/
namespace Reckoner

def readFailure : IO.Error → Command.ReadFailure
  | .noFileOrDirectory .. => .notFound
  | .inappropriateType _ 21 _ => .isFolder
  | .inappropriateType .. => .notFolder
  | .invalidArgument _ 36 _ => .nameTooLong
  | e => .other (toString e)

partial def readAll (stream : IO.FS.Stream) (bytes : ByteArray) : IO ByteArray := do
  let more ← stream.read 65536
  if more.isEmpty then return bytes else readAll stream (bytes ++ more)

/-- The settings file and the input, when the options require them. -/
def surroundings (o : Command.Options) : IO Command.Surroundings := do
  let contents ← match o.configPath with
    | some path =>
      try pure (.ok (← IO.FS.readBinFile path)) catch e => pure (.error (readFailure e))
    | none => pure (.error .notFound)
  let input ←
    if o.expression.isNone then readAll (← IO.getStdin) .empty else pure .empty
  return { logFilter := ← IO.getEnv "RUST_LOG", subscribe := Log.Filter.subscribe,
           read := fun _ => contents, input := input }

end Reckoner

def main (arguments : List String) : IO UInt32 := do
  let report ← match Reckoner.Command.Options.parse arguments with
    | .ok o => do pure (o.run (← Reckoner.surroundings o))
    | .error stop => pure stop.report
  IO.print report.stdout
  IO.eprint report.stderr
  return report.status.toUInt32
