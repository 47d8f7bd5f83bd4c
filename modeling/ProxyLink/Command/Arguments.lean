import ProxyLink.Text.Decimal

/-!
# Arguments of the command line

A command is named after the option for the configuration, and its own options follow it. An option
may be given once, and its value stands in the next argument or behind an equals sign. Two hyphens
end the options.
-/

namespace ProxyLink

/-- What to do. -/
inductive Command where
  /-- List the types of messages. -/
  | types
  /-- Write an initialize request. -/
  | encodeInitialize (address : Option String) (port : Option UInt16) (id : Option Int64)
  /-- Show the message in a frame. -/
  | decode (frame : String)
  /-- Exchange requests and replies within the program. -/
  | loopback (count : Nat) (failWith : Option String)
  deriving DecidableEq

namespace Command

/-- What one argument is, while options are still expected. -/
inductive Argument where
  /-- Two hyphens alone. -/
  | endOfOptions
  /-- Two hyphens and a name, perhaps with a value attached. -/
  | long (name : String) (value : Option String)
  /-- One hyphen and letters. -/
  | short (letters : List Char)
  | plain (text : String)
  deriving DecidableEq

def Argument.ofString (text : String) : Argument :=
  match text.toList with
  | ['-'] => .plain text
  | ['-', '-'] => .endOfOptions
  | '-' :: '-' :: rest =>
    let name := String.ofList (rest.takeWhile (· != '='))
    match rest.dropWhile (· != '=') with
    | _ :: value => .long name (some (String.ofList value))
    | [] => .long name none
  | '-' :: letters => .short letters
  | _ => .plain text

/-- Why there is no command to perform. -/
inductive Stop where
  /-- Help is asked for. -/
  | help
  /-- The version is asked for. -/
  | version
  /-- The arguments make no sense. -/
  | misuse
  deriving DecidableEq

/-- The words that are left once two hyphens have ended the options. -/
def readWords {σ : Type} (word : σ → String → Option σ) (state : σ) (words : List String) :
    Except Stop σ :=
  (words.foldlM word state).elim (.error .misuse) .ok

/-- Reads the arguments of a command. `option` takes an option with its value, and `word` takes what
is no option; both may refuse. -/
def readOptions {σ : Type} (option : σ → String → String → Option σ)
    (word : σ → String → Option σ) : σ → List String → Except Stop σ
  | state, [] => .ok state
  | state, argument :: rest =>
    match Argument.ofString argument with
    | .endOfOptions => readWords word state rest
    | .long name (some value) =>
      match option state name value with
      | some state => readOptions option word state rest
      | none => .error .misuse
    | .long name none =>
      if name = "help" then .error .help
      else
        match rest with
        | [] => .error .misuse
        | next :: rest =>
          match Argument.ofString next with
          | .plain value =>
            match option state name value with
            | some state => readOptions option word state rest
            | none => .error .misuse
          | _ => .error .misuse
    | .short ('h' :: _) => .error .help
    | .short _ => .error .misuse
    | .plain text =>
      match word state text with
      | some state => readOptions option word state rest
      | none => .error .misuse

/-- A number between two bounds; its numeral may have a sign. -/
def number? (low high : Int) (text : String) : Option Int :=
  (Decimal.int64? text.toList).bind fun n =>
    if low ≤ n.toInt ∧ n.toInt ≤ high then some n.toInt else none

/-- A value for what has none so far. -/
def once? {α : Type} (present : Option α) (value : Option α) : Option (Option α) :=
  match present with
  | some _ => none
  | none => value.map some

def noOption {σ : Type} (_ : σ) (_ _ : String) : Option σ := none

def noWord {σ : Type} (_ : σ) (_ : String) : Option σ := none

/-- The options of an initialize request. -/
structure InitializeOptions where
  address : Option String
  port : Option UInt16
  id : Option Int64

def InitializeOptions.add (o : InitializeOptions) (name value : String) :
    Option InitializeOptions :=
  match name with
  | "address" => (once? o.address (some value)).map fun address => { o with address }
  | "port" =>
    (once? o.port ((number? 0 65535 value).map fun n => UInt16.ofNat n.toNat)).map
      fun port => { o with port }
  | "request-id" => (once? o.id (Decimal.int64? value.toList)).map fun id => { o with id }
  | _ => none

/-- The options of an exchange within the program. -/
structure LoopbackOptions where
  count : Option Nat
  failWith : Option String

def LoopbackOptions.add (o : LoopbackOptions) (name value : String) : Option LoopbackOptions :=
  match name with
  | "count" =>
    (once? o.count ((number? 0 4294967295 value).map Int.toNat)).map fun count =>
      { o with count }
  | "fail-with" => (once? o.failWith (some value)).map fun failWith => { o with failWith }
  | _ => none

/-- The command with a given name, from the arguments behind the name. -/
def ofArguments (name : String) (rest : List String) : Except Stop Command :=
  match name with
  | "types" => (readOptions noOption noWord () rest).map fun () => .types
  | "encode-initialize" =>
    (readOptions InitializeOptions.add noWord ⟨none, none, none⟩ rest).map fun o =>
      .encodeInitialize o.address o.port o.id
  | "decode" =>
    match readOptions noOption (fun frame text => once? frame (some text)) none rest with
    | .ok (some frame) => .ok (.decode frame)
    | .ok none => .error .misuse
    | .error stop => .error stop
  | "loopback" =>
    (readOptions LoopbackOptions.add noWord ⟨none, none⟩ rest).map fun o =>
      .loopback (o.count.getD 1) o.failWith
  | _ => .error .misuse

/-- The names that help can be asked for. -/
def helpTopics : List String := ["types", "encode-initialize", "decode", "loopback", "help"]

/-- A command and the configuration file named before it, if one has been named so far. -/
def read (config : Option String) : List String → Except Stop (Option String × Command)
  | [] => .error .misuse
  | argument :: rest =>
    match Argument.ofString argument with
    | .endOfOptions => .error .misuse
    | .long "help" none => .error .help
    | .long "version" none => .error .version
    | .long "config" (some file) => named file rest
    | .long "config" none =>
      match rest with
      | [] => .error .misuse
      | next :: rest =>
        match Argument.ofString next with
        | .plain file => named file rest
        | _ => .error .misuse
    | .long _ _ => .error .misuse
    | .short ('h' :: _) => .error .help
    | .short ('V' :: _) => .error .version
    | .short _ => .error .misuse
    | .plain "help" =>
      match rest with
      | [] => .error .help
      | [topic] => .error (if topic ∈ helpTopics then .help else .misuse)
      | _ => .error .misuse
    | .plain name => (ofArguments name rest).map (config, ·)
where
  /-- The same with a configuration file just named, which must be the only one and not empty. -/
  named (file : String) (rest : List String) : Except Stop (Option String × Command) :=
    if config.isSome ∨ file = "" then .error .misuse else read (some file) rest

end Command

end ProxyLink
