import ProxyLink.Command.Arguments
import ProxyLink.Command.Loopback
import ProxyLink.Config.Lookup
import ProxyLink.FileTree

/-!
# Running commands

From the arguments to what is printed. A command needs a configuration and an open log before it
starts; what it has printed before it fails stays.
-/

namespace ProxyLink

/-- What a run leaves behind: a number for whoever started it, what it printed, and what it said of
its failure. -/
structure Exit where
  code : UInt8
  output : String
  errors : String
  deriving DecidableEq

namespace Command

def programName : String := "wfproxyctl"

def version : String := "0.1.0"

/-- The line for a type in the list of types: its id, in at least four places, and its name. -/
def typeLine (type : MessageType) : String :=
  let id := Decimal.ofInt type.id.toInt
  String.ofList (List.replicate (4 - id.length) ' ') ++ id ++ "  " ++
    type.name?.getD "<unnamed>" ++ "\n"

/-- The frame that a text writes in hexadecimal digits, with blanks anywhere, and its message in
words. -/
def showFrame (registry : Registry) (text : String) : Except Failure String :=
  match Hex.decode (String.ofList (Text.withoutBlanks text)) with
  | .error fault => .error (.notHex fault)
  | .ok bytes =>
    match Frame.decode registry bytes with
    | .error failure => .error (.notFrame failure)
    | .ok message => .ok message.display

/-- What a command prints, and why it fails if it does. -/
def run (config : Config) : Command → String × Option Failure
  | .types => (String.join (Registry.standard.types.map typeLine), none)
  | .encodeInitialize address port id =>
    let request := initializeRequest (address.getD config.proxy.address)
      (port.getD config.proxy.port) id
    (String.ofList (Hex.encode request.frame) ++ "\n", none)
  | .decode frame =>
    match showFrame .standard frame with
    | .ok shown => (shown, none)
    | .error failure => ("", some failure)
  | .loopback count failWith => Loopback.run config.proxy count failWith

/-- The path of the log of a day. -/
def logPath (logging : Config.Logging) (day : String) : String :=
  Path.join logging.directory (logging.fileStem.getD programName ++ ".log." ++ day)

def help : String :=
  s!"Usage: {programName} [--config FILE] COMMAND\n\n" ++
  "Commands:\n" ++
  "  types\n" ++
  "  encode-initialize [--address ADDR] [--port PORT] [--request-id ID]\n" ++
  "  decode HEX\n" ++
  "  loopback [--count COUNT] [--fail-with MESSAGE]\n" ++
  "  help [COMMAND]\n"

end Command

namespace Exit

/-- The end of a run that performs no command. -/
def ofStop : Command.Stop → Exit
  | .help => ⟨0, Command.help, ""⟩
  | .version => ⟨0, s!"{Command.programName} {Command.version}\n", ""⟩
  | .misuse => ⟨2, "", "error: the arguments make no sense\n\n" ++ Command.help⟩

/-- The end of a command that printed something and perhaps failed. -/
def ofResult (output : String) : Option Command.Failure → Exit
  | none => ⟨0, output, ""⟩
  | some failure => ⟨1, output, failure.report⟩

end Exit

namespace Command

/-- Performs what the arguments ask for in a tree of files, on a given day. The environment may name
a configuration. -/
def perform (tree : FileTree) (environment : Option String) (day : String)
    (arguments : List String) : Exit × FileTree :=
  match read none arguments with
  | .error stop => (.ofStop stop, tree)
  | .ok (named, command) =>
    match Config.choose tree.files environment named with
    | .error failure => (.ofResult "" (some (.config failure)), tree)
    | .ok config =>
      match tree.makeDirectories config.logging.directory with
      | .error fault => (.ofResult "" (some (.log fault)), tree)
      | .ok tree =>
        match tree.openLog (logPath config.logging day) with
        | .error fault => (.ofResult "" (some (.log fault)), tree)
        | .ok tree =>
          let (output, failure) := command.run config
          (.ofResult output failure, tree)

end Command

end ProxyLink
