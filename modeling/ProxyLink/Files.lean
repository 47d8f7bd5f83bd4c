import ProxyLink.Text.Utf8

/-!
# Files

What can be learned of files through their paths, and what can stand in the way.
-/

namespace ProxyLink

/-- Why a path cannot be used as intended. -/
inductive FileFault where
  | missing
  /-- Something is there already. -/
  | present
  /-- The path leads through a file. -/
  | notDirectory
  | isDirectory
  | nameTooLong
  | zeroCharacter
  | notText
  deriving DecidableEq

def FileFault.message : FileFault → String
  | .missing => "No such file or directory (os error 2)"
  | .present => "File exists (os error 17)"
  | .notDirectory => "Not a directory (os error 20)"
  | .isDirectory => "Is a directory (os error 21)"
  | .nameTooLong => "File name too long (os error 36)"
  | .zeroCharacter => "file name contained an unexpected NUL byte"
  | .notText => "stream did not contain valid UTF-8"

/-- What can be learned of files: whether a path leads anywhere, and the bytes behind it. -/
structure Files where
  leads : String → Bool
  bytes : String → Except FileFault (List UInt8)

def Files.text (files : Files) (path : String) : Except FileFault String := do
  match Utf8.decode (← files.bytes path) with
  | .ok text => .ok text
  | .error _ => .error .notText

end ProxyLink
