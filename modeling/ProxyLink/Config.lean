import ProxyLink.Files
import ProxyLink.Frame.Stream
import ProxyLink.Text.Blank

/-!
# Configurations

Where the peer listens, how it is spoken to, and where the log goes. A configuration is good for use
only if it passes the checks here; the default one does.
-/

namespace ProxyLink

/-- How the log on the console is written. -/
inductive LogFormat where
  | structured
  | pretty
  deriving DecidableEq

def LogFormat.name : LogFormat → String
  | .structured => "structured-json"
  | .pretty => "pretty"

def LogFormat.ofName? (name : String) : Option LogFormat :=
  [LogFormat.structured, .pretty].find? fun format => format.name == name

namespace Config

/-- How the peer is spoken to. -/
structure Proxy where
  address : String
  port : UInt16
  /-- How many seconds a request waits for its reply. -/
  timeout : Nat
  /-- How many bytes the body of a frame may have. -/
  frameLimit : Nat
  deriving DecidableEq

def Proxy.default : Proxy := ⟨"127.0.0.1", 7933, 30, Frame.defaultLimit⟩

/-- Where the log goes. -/
structure Logging where
  directory : String
  format : LogFormat
  /-- What the names of log files start with, in place of the name of the service. -/
  fileStem : Option String
  deriving DecidableEq

def Logging.default : Logging := ⟨"target/logs", .structured, none⟩

end Config

structure Config where
  proxy : Config.Proxy
  logging : Config.Logging
  deriving DecidableEq

namespace Config

/-- The configuration when nothing else is said. -/
def default : Config := ⟨.default, .default⟩

/-- What makes a configuration useless. -/
inductive Flaw where
  /-- The address is blank. -/
  | address
  /-- The port is zero. -/
  | port
  /-- No time is left for a reply. -/
  | timeout
  /-- The limit on frames is zero, or no length of a frame can reach it. -/
  | frameLimit
  deriving DecidableEq

/-- The greatest limit on the bodies of frames: their length is written as a word of 32 bits. -/
def greatestFrameLimit : Nat := 4294967295

def Flaw.message : Flaw → String
  | .address => "proxy.library_address must not be empty"
  | .port => "proxy.library_port must be non-zero"
  | .timeout => "proxy.request_timeout must be at least one second"
  | .frameLimit => s!"proxy.max_frame_size must be between 1 and {greatestFrameLimit} bytes"

def flaw? (c : Config) : Option Flaw :=
  if Text.allBlank c.proxy.address then some .address
  else if c.proxy.port = 0 then some .port
  else if c.proxy.timeout = 0 then some .timeout
  else if c.proxy.frameLimit = 0 ∨ greatestFrameLimit < c.proxy.frameLimit then some .frameLimit
  else none

/-- Why there is no configuration. -/
inductive Failure where
  /-- None of the files that were looked for exists. -/
  | noFile (inspected : List String)
  /-- A file cannot be read. -/
  | unreadable (path : String) (fault : FileFault)
  /-- A text, from a file or not, describes no configuration. -/
  | unparsable (path : Option String)
  /-- A configuration has a flaw. -/
  | flawed (flaw : Flaw)
  deriving DecidableEq

def Failure.message : Failure → String
  | .noFile inspected =>
    "no configuration files found. inspected: " ++ ", ".intercalate inspected
  | .unreadable path _ => s!"unable to read config file {path}"
  | .unparsable (some path) => s!"failed to parse config file {path}"
  | .unparsable none => "failed to parse configuration"
  | .flawed flaw => flaw.message

/-- The cause of the failure in words, where one is known. -/
def Failure.cause? : Failure → Option String
  | .unreadable _ fault => some fault.message
  | _ => none

/-- The configuration, if it has no flaw. -/
def check (c : Config) : Except Failure Config :=
  match c.flaw? with
  | some flaw => .error (.flawed flaw)
  | none => .ok c

end Config

end ProxyLink
