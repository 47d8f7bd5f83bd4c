import ProxyLink.Config
import ProxyLink.Failure
import ProxyLink.Text.Hex

/-!
# Failures of commands

Why a command fails, and how that is reported: what failed, and the cause below it where one is
known.
-/

namespace ProxyLink.Command

/-- Why a command fails. -/
inductive Failure where
  /-- There is no configuration. -/
  | config (failure : Config.Failure)
  /-- No log can be written. -/
  | log (fault : FileFault)
  /-- A text is no sequence of bytes. -/
  | notHex (fault : Hex.Fault)
  /-- Bytes are no frame. -/
  | notFrame (failure : ProxyLink.Failure)
  /-- A request cannot be exchanged for its reply. -/
  | exchange (failure : ProxyLink.Failure)
  /-- The responder has ended without a reply. -/
  | responderGone
  deriving DecidableEq

def Failure.message : Failure → String
  | .config failure => failure.message
  | .log fault => fault.message
  | .notHex _ => "frame is not valid hex"
  | .notFrame _ => "failed to decode frame"
  | .exchange failure => failure.message
  | .responderGone => "responder closed the stream"

/-- The cause of the failure in words, where one is known. -/
def Failure.cause? : Failure → Option String
  | .config failure => failure.cause?
  | .notHex fault => some fault.message
  | .notFrame failure => some failure.message
  | _ => none

def Failure.report (failure : Failure) : String :=
  match failure.cause? with
  | some cause => s!"Error: {failure.message}\n\nCaused by:\n    {cause}\n"
  | none => s!"Error: {failure.message}\n"

end ProxyLink.Command
