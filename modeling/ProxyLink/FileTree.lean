import ProxyLink.Files

/-!
# Trees of files

A working directory with all that is below it. A path is walked name by name, and each name but the
last has to be that of a directory. What lies outside of the working directory is not known: nothing
is found there, and what is made there leaves no trace.
-/

namespace ProxyLink

/-- What a name in a directory stands for. -/
inductive Entry where
  | directory
  | file (bytes : List UInt8)
  deriving DecidableEq

/-- The entries below a working directory, each with the names on the way to it. -/
structure FileTree where
  entries : List (List String × Entry)

namespace FileTree

/-- The names on the way to a place in the tree; nothing when the place is outside. -/
abbrev Place := Option (List String)

/-- The places on the way to a place, the first one first. -/
def ancestors : List String → List (List String)
  | [] => []
  | name :: rest =>
    if rest.isEmpty then [] else [name] :: (ancestors rest).map (name :: ·)

def empty : FileTree := ⟨[]⟩

/-- What is at a place. The place at the root of the tree is the working directory. -/
def entry? (t : FileTree) (place : List String) : Option Entry :=
  if place.isEmpty then some .directory else t.entries.lookup place

/-- The tree with an entry at a place, in which each place before it is a directory. -/
def put (t : FileTree) (place : List String) (entry : Entry) : FileTree :=
  let before := (ancestors place).filter fun p => (t.entry? p).isNone
  ⟨t.entries ++ before.map (·, .directory) ++ [(place, entry)]⟩

/-- The longest name, in bytes. -/
def nameLimit : Nat := 255

/-- The longest path, in bytes. -/
def pathLimit : Nat := 4095

/-- The place of a name seen from a directory, whether there is an entry or not. -/
def child (t : FileTree) (place : Place) (name : String) : Except FileFault Place :=
  match place with
  | none => .ok none
  | some names =>
    match t.entry? names with
    | none => .error .missing
    | some (.file _) => .error .notDirectory
    | some .directory =>
      if name = "." then .ok (some names)
      else if name = ".." then .ok (if names.isEmpty then none else some names.dropLast)
      else if nameLimit < name.utf8ByteSize then .error .nameTooLong
      else .ok (some (names ++ [name]))

/-- The place that names lead to from the root; there need be no entry for the last one. -/
def walk (t : FileTree) (names : List String) : Except FileFault Place :=
  names.foldlM t.child (some [])

end FileTree

/-- A path in writing. -/
structure Path where
  /-- Whether it starts at the top and not at the working directory. -/
  isAbsolute : Bool
  names : List String
  /-- Whether only a directory will do at its end. -/
  isClosed : Bool

namespace Path

/-- The path that a text writes. -/
def ofString? (text : String) : Except FileFault Path :=
  let chars := text.toList
  if chars.contains '\x00' then .error .zeroCharacter
  else if chars.isEmpty then .error .missing
  else if FileTree.pathLimit < text.utf8ByteSize then .error .nameTooLong
  else
    .ok ⟨chars.head? = some '/',
      ((chars.splitOn '/').filter (!·.isEmpty)).map String.ofList, chars.getLast? = some '/'⟩

/-- The path of a name seen from a directory. -/
def join (directory name : String) : String :=
  if name.toList.head? = some '/' ∨ directory = "" then name
  else if directory.toList.getLast? = some '/' then directory ++ name
  else directory ++ "/" ++ name

end Path

namespace FileTree

def find (t : FileTree) (path : String) : Except FileFault (List String × Entry) := do
  let path ← Path.ofString? path
  if path.isAbsolute then .error .missing
  else
    match ← t.walk (if path.isClosed then path.names ++ ["."] else path.names) with
    | none => .error .missing
    | some place =>
      match t.entry? place with
      | none => .error .missing
      | some entry => .ok (place, entry)

def isDirectory (t : FileTree) (path : String) : Bool :=
  match t.find path with
  | .ok (_, .directory) => true
  | _ => false

/-- What can be learned of the files in the tree. -/
def files (t : FileTree) : Files where
  leads path := (t.find path).isOk
  bytes path :=
    match t.find path with
    | .ok (_, .file bytes) => .ok bytes
    | .ok (_, .directory) => .error .isDirectory
    | .error fault => .error fault

/-- Makes the directory that names lead to; those before it have to exist. -/
def makeDirectory (t : FileTree) (names : List String) : Except FileFault FileTree := do
  match ← t.walk names with
  | none => .ok t
  | some place =>
    if (t.entry? place).isSome then .error .present else .ok (t.put place .directory)

def leadsToDirectory (t : FileTree) (names : List String) : Bool :=
  match t.walk names with
  | .ok (some place) => t.entry? place = some .directory
  | _ => false

/-- Makes a directory that may exist already; those before it have to exist. -/
def ensureDirectory (t : FileTree) (names : List String) : Except FileFault FileTree :=
  match t.makeDirectory names with
  | .ok t => .ok t
  | .error fault => if t.leadsToDirectory names then .ok t else .error fault

/-- Makes a directory and, from the first on, those before it that do not exist. -/
def ensureDirectories (t : FileTree) (names : List String) : Except FileFault FileTree :=
  match t.ensureDirectory names with
  | .error .missing => do
    let t ← (ancestors (names.filter (· ≠ "."))).foldlM ensureDirectory t
    t.ensureDirectory names
  | other => other

/-- Makes the directory that a path leads to, and those before it. -/
def makeDirectories (t : FileTree) (path : String) : Except FileFault FileTree :=
  if path = "" then .ok t
  else do
    let path ← Path.ofString? path
    if path.isAbsolute then .ok t else t.ensureDirectories path.names

/-- Opens a file to write at its end; it is made if nothing is there. -/
def openFile (t : FileTree) (names : List String) : Except FileFault FileTree := do
  match ← t.walk names with
  | none => .ok t
  | some place =>
    match t.entry? place with
    | some (.file _) => .ok t
    | some .directory => .error .isDirectory
    | none => .ok (t.put place (.file []))

/-- Opens a file to write at its end, and makes the directories before it if that is needed. -/
def openLog (t : FileTree) (path : String) : Except FileFault FileTree := do
  let path ← Path.ofString? path
  if path.isAbsolute then .ok t
  else
    match t.openFile path.names with
    | .ok t => .ok t
    | .error _ => do (← t.ensureDirectories path.names.dropLast).openFile path.names

/-- The tree with a file or a directory that a path of plain names leads to. -/
def add (t : FileTree) (path : String) (entry : Entry) : FileTree :=
  match Path.ofString? path with
  | .ok path => t.put path.names entry
  | .error _ => t

/-- The paths of all files, in ascending order. -/
def paths (t : FileTree) : List String :=
  (t.entries.filterMap fun (place, entry) =>
    match entry with
    | .file _ => some ("/".intercalate place)
    | .directory => none).mergeSort fun a b => decide (a ≤ b)

end FileTree

end ProxyLink
