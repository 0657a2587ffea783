import VirtualTerminal.Text.Basic

/-!
# Errors

What can go wrong, by cause, and the wording of each cause.
-/

namespace VirtualTerminal

/-- Why an operation on files fails. -/
inductive FileError where
  | notDirectory (path : Text)
  | noDirectory (path : Text)
  | isDirectory (path : Text)
  | noFile (path : Text)
  | noParent (path : Text)
  | noPath (path : Text)
  | fileExists (path : Text)
  | rootIsKept
  | notEmpty (path : Text)
  deriving DecidableEq, Repr

/-- The wording of a file error. -/
def FileError.message : FileError → Text
  | notDirectory path => "not a directory: ".toList ++ path
  | noDirectory path => "no such directory: ".toList ++ path
  | isDirectory path => "is a directory: ".toList ++ path
  | noFile path => "no such file: ".toList ++ path
  | noParent path => "parent directory does not exist: ".toList ++ path
  | noPath path => "no such path: ".toList ++ path
  | fileExists path => "file exists: ".toList ++ path
  | rootIsKept => "cannot remove root".toList
  | notEmpty path => "directory not empty: ".toList ++ path

/-- Why a configuration is refused. -/
inductive ConfigError where
  | relativeHome (home : Text)
  | noInput
  deriving DecidableEq, Repr

/-- The wording of a refused configuration. -/
def ConfigError.message : ConfigError → Text
  | relativeHome home => "home must be an absolute path, got '".toList ++ home ++ "'".toList
  | noInput => "limits.max_input_length must be at least 1".toList

/-- Why a command definition is refused. -/
inductive DefinitionError where
  | noName
  | noDescription (name : Text)
  | noCategory (name : Text)
  | noHandler (name : Text)
  | unknownCategory (category : Text)
  deriving DecidableEq, Repr

/-- The wording of a refused command definition. -/
def DefinitionError.message : DefinitionError → Text
  | noName => "command name is required".toList
  | noDescription name => name ++ ": description is required".toList
  | noCategory name => name ++ ": category is required".toList
  | noHandler name => name ++ ": handler is required".toList
  | unknownCategory category => "unknown category: ".toList ++ category

/-- Everything that can go wrong. -/
inductive Error where
  /-- A command reports a failure of its own. -/
  | failed (reason : Text)
  | missingArguments (expected given : Nat)
  | missingOptions (names : List Text)
  | badPattern (source reason : Text)
  | notFound (name : Text)
  | aliasTaken (name : Text)
  | definition (cause : DefinitionError)
  | files (cause : FileError)
  | config (cause : ConfigError)
  /-- A file cannot be read or is not UTF-8. -/
  | unreadable
  /-- A configuration text is not TOML or holds a value of a wrong type. -/
  | malformedToml
  /-- A JSON value does not have the expected form. -/
  | malformedJson
  deriving DecidableEq, Repr

/-- The wording of an error. -/
def Error.message : Error → Text
  | failed reason => "command error: ".toList ++ reason
  | missingArguments expected given =>
    "command error: Missing required arguments: expected at least ".toList ++ Text.ofNat expected ++
      ", got ".toList ++ Text.ofNat given
  | missingOptions names =>
    "command error: Missing required options: ".toList ++ Text.join ", ".toList names
  | badPattern source reason =>
    "command error: invalid pattern '".toList ++ source ++ "': ".toList ++ reason
  | notFound name => "Command not found: ".toList ++ name
  | aliasTaken name => "Alias '".toList ++ name ++ "' is already registered".toList
  | definition cause => "invalid command definition: ".toList ++ cause.message
  | files cause => "VFS error: ".toList ++ cause.message
  | config cause => "config error: ".toList ++ cause.message
  | unreadable => "I/O error".toList
  | malformedToml => "TOML parse error".toList
  | malformedJson => "JSON error".toList

end VirtualTerminal
