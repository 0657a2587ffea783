import VirtualTerminal.Text.Utf8
import VirtualTerminal.Toml.Document

/-!
# Configuration files

What is found at the place of a configuration file, and the configuration that it gives.
-/

namespace VirtualTerminal

/-- What is found at the place of a configuration file. -/
inductive ConfigFile where
  | missing
  | unreadable
  | bytes (content : List UInt8)

/-- The configuration of a file; a missing file gives the defaults. -/
def ConfigFile.load : ConfigFile → Except Error Config
  | missing => .ok {}
  | unreadable => .error .unreadable
  | bytes content =>
    match Text.decode? content with
    | none => .error .unreadable
    | some s => Config.ofToml s

end VirtualTerminal
