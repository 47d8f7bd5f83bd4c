import ProxyLink.Config.Reading

/-!
# Looking for a configuration

The environment may name a file. Otherwise the first of some candidates that exists is taken, good
or bad: one that cannot be used is not passed over.
-/

namespace ProxyLink.Config

def variableName : String := "WFPROXY_CONFIG"

/-- The path that the environment names: a blank one does not count, and blanks around it do. -/
def override? (environment : Option String) : Option String :=
  environment.filter fun path => !Text.allBlank path

/-- The path of the file to take: the one that the environment names, or else the first candidate
that exists. -/
def source? (files : Files) (environment : Option String) (candidates : List String) :
    Option String :=
  match override? environment with
  | some path => some path
  | none => candidates.find? files.leads

def find (files : Files) (environment : Option String) (candidates : List String) :
    Except Failure (String × Config) :=
  match source? files environment candidates with
  | some path => (load files path).map (path, ·)
  | none => .error (.noFile candidates)

def defaultCandidates : List String := ["configs/wfproxy.toml", "/etc/wfproxy/wfproxy.toml"]

/-- The configuration for a command. A file named on the command line is the only candidate. When
none is named, and there is none to take, the default configuration serves. -/
def choose (files : Files) (environment named : Option String) : Except Failure Config :=
  match named with
  | some path => (find files environment [path]).map (·.2)
  | none =>
    match source? files environment defaultCandidates with
    | some path => load files path
    | none => .ok default

end ProxyLink.Config
