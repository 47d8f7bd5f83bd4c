import ProxyLink.Command.Run
import Std.Time.Format

/-!
# The program

The outer layer of the command line: it looks at the files that a configuration may come from, opens
the log, and prints.
-/

namespace ProxyLink.Main

/-- What an error of the system means for the use of a path. -/
def faultOf : IO.Error → FileFault
  | .noFileOrDirectory .. => .missing
  | .alreadyExists .. => .present
  | .inappropriateType _ code _ => if code = 21 then .isDirectory else .notDirectory
  | _ => .nameTooLong

/-- What can be learned of the files at some paths. -/
def look (paths : List String) : IO Files := do
  let seen ← paths.mapM fun (path : String) => do
    match ← (IO.FS.readBinFile path).toBaseIO with
    | .ok bytes => return (path, Except.ok bytes.toList)
    | .error e => return (path, .error (faultOf e))
  let found := fun (path : String) => (seen.lookup path).getD (.error .missing)
  let leads := fun (path : String) =>
    match found path with
    | .ok _ | .error .isDirectory => true
    | .error _ => false
  return ⟨leads, found⟩

/-- The day on which the program runs, in universal time. -/
def today : IO String := do
  let now ← Std.Time.Timestamp.now
  return toString (Std.Time.PlainDate.ofEpochDay now.toSecondsSinceUnixEpoch.toDays)

/-- Makes the directory of the log, and the log. -/
def openLog (logging : Config.Logging) : IO (Except FileFault Unit) := do
  let path := Command.logPath logging (← today)
  let opened ← EIO.toBaseIO do
    unless logging.directory = "" do IO.FS.createDirAll logging.directory
    discard (IO.FS.Handle.mk path .append)
  match opened with
  | .ok () => return .ok ()
  | .error e => return .error (faultOf e)

/-- Prints what a run leaves behind. -/
def finish (exit : Exit) : IO UInt32 := do
  IO.print exit.output
  IO.eprint exit.errors
  return exit.code.toUInt32

end ProxyLink.Main

open ProxyLink in
/-- Performs what the arguments ask for. -/
def main (arguments : List String) : IO UInt32 := do
  match Command.read none arguments with
  | .error stop => Main.finish (.ofStop stop)
  | .ok (named, command) =>
    let environment ← IO.getEnv Config.variableName
    let files ← Main.look (named.toList ++ environment.toList ++ Config.defaultCandidates)
    match Config.choose files environment named with
    | .error failure => Main.finish (.ofResult "" (some (.config failure)))
    | .ok config =>
      match ← Main.openLog config.logging with
      | .error fault => Main.finish (.ofResult "" (some (.log fault)))
      | .ok () =>
        let (output, failure) := command.run config
        Main.finish (.ofResult output failure)
