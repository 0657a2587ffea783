import VirtualTerminal.Toml.Scalar

/-!
# TOML documents

A document is a list of fields and of headers that open tables. A table is opened once, a field is
given once, and fields with dotted keys may extend only tables that dotted keys have made.
-/

namespace VirtualTerminal.Toml

/-- How a table has come to be. -/
inductive Origin where
  /-- A header opens it. -/
  | header
  /-- A longer header passes through it. -/
  | passed
  /-- A dotted key passes through it. -/
  | dotted
  deriving DecidableEq, Repr

/-- A part of a document. -/
inductive Node where
  | value (s : Setting)
  | table (origin : Origin) (fields : List (Text × Node))
  | tables (items : List (List (Text × Node)))

/-- The fields of a table. -/
abbrev Fields := List (Text × Node)

namespace Fields

/-- The fields with the first one of a name replaced, or with one more at the end. -/
def put (name : Text) (n : Node) : Fields → Fields
  | [] => [(name, n)]
  | (k, m) :: rest => if k = name then (k, n) :: rest else (k, m) :: put name n rest

/-- Changes the table that a path leads to. Tables that are missing on the way are made. -/
def within (dotted : Bool) (change : Origin → Fields → Option Fields) :
    (path : List Text) → Origin → Fields → Option Fields
  | [], origin, fields => change origin fields
  | name :: path, _, fields =>
    match fields.lookup name with
    | none => do
      let origin := if dotted then .dotted else .passed
      return put name (.table origin (← within dotted change path origin [])) fields
    | some (.value _) => none
    | some (.table origin inner) =>
      if dotted ∧ origin = .header then none
      else do return put name (.table origin (← within dotted change path origin inner)) fields
    | some (.tables items) => do
      let inner ← within dotted change path .header (← items.getLast?)
      return put name (.tables (items.dropLast ++ [inner])) fields

/-- Gives a field its value, through the tables of a dotted key. -/
def assign (path : List Text) (name : Text) (s : Setting) (origin : Origin) (fields : Fields) :
    Option Fields :=
  within true (fun origin fields =>
    if path ≠ [] ∧ origin ≠ .dotted then none
    else if (fields.lookup name).isSome then none
    else some (put name (.value s) fields)) path origin fields

/-- Opens the table of a header. -/
def openTable (path : List Text) (name : Text) (fields : Fields) : Option Fields :=
  within false (fun _ fields =>
    match fields.lookup name with
    | none => some (put name (.table .header []) fields)
    | some (.table .passed inner) => some (put name (.table .header inner) fields)
    | _ => none) path .header fields

/-- Opens one more table of the list of tables of a header. -/
def openListTable (path : List Text) (name : Text) (fields : Fields) : Option Fields :=
  within false (fun _ fields =>
    match fields.lookup name with
    | none => some (put name (.tables [[]]) fields)
    | some (.tables items) => some (put name (.tables (items ++ [[]])) fields)
    | _ => none) path .header fields

end Fields

mutual

/-- The settings of a part of a document. -/
def Node.toSetting : Node → Setting
  | value s => s
  | table _ fields => .record (fieldsToSettings fields)
  | tables items => .list (tablesToSettings items)

/-- The settings of the fields of a table. -/
def Node.fieldsToSettings : List (Text × Node) → List (Text × Setting)
  | [] => []
  | (k, n) :: rest => (k, n.toSetting) :: Node.fieldsToSettings rest

/-- The settings of a list of tables. -/
def Node.tablesToSettings : List (List (Text × Node)) → List Setting
  | [] => []
  | fields :: rest => .record (Node.fieldsToSettings fields) :: Node.tablesToSettings rest

end

namespace Reader

/-- Reads blanks, comments and line ends between the items of an array. -/
def arrayBlanks : (fuel : Nat) → Reader Unit
  | 0 => return ()
  | fuel + 1 => do
    blanks
    match ← next? with
    | some '#' =>
      comment
      newline
      arrayBlanks fuel
    | some '\n' | some '\r' =>
      newline
      arrayBlanks fuel
    | _ => return ()

/-- Reads the items of an array up to its closing bracket. -/
def arrayRest (item : Reader Setting) : (fuel : Nat) → Reader (List Setting)
  | 0 => refuse
  | fuel + 1 => do
    arrayBlanks (← get).length
    if ← accept [']'] then return []
    let s ← item
    arrayBlanks (← get).length
    if ← accept [','] then return s :: (← arrayRest item fuel)
    exactly [']']
    return [s]

/-- Reads the fields of a table in braces up to its closing brace. -/
def inlineRest (item : Reader Setting) : (fuel : Nat) → Fields → Reader Fields
  | 0, _ => refuse
  | fuel + 1, fields => do
    let (path, name) ← key
    exactly ['=']
    blanks
    let s ← item
    blanks
    match Fields.assign path name s .dotted fields with
    | none => refuse
    | some fields =>
      if ← accept [','] then inlineRest item fuel fields
      else
        exactly ['\x7d']
        return fields

/-- Reads a value that holds values at most `depth` deep. -/
def valueOf : (depth : Nat) → Reader Setting
  | 0 => refuse
  | depth + 1 => do
    let fuel := (← get).length + 1
    match ← next? with
    | none => refuse
    | some '"' | some '\'' => return .text (← string)
    | some '[' =>
      exactly ['[']
      return .list (← arrayRest (valueOf depth) fuel)
    | some '\x7b' =>
      exactly ['\x7b']
      blanks
      if ← accept ['\x7d'] then return .record []
      return .record (Node.fieldsToSettings (← inlineRest (valueOf depth) fuel []))
    | some 't' =>
      exactly "true".toList
      return .other
    | some 'f' =>
      exactly "false".toList
      return .other
    | some _ => number

/-- The fields of a document, and the table that is open. -/
structure Draft where
  fields : Fields := []
  path : List Text := []

/-- Reads a header. -/
def header (d : Draft) : Reader Draft := do
  exactly ['[']
  let isList ← accept ['[']
  let (path, name) ← key
  exactly (if isList then [']', ']'] else [']'])
  lineEnd
  let opened := if isList then Fields.openListTable else Fields.openTable
  match opened path name d.fields with
  | some fields => return { fields := fields, path := path ++ [name] }
  | none => refuse

/-- Reads a field. -/
def field (d : Draft) : Reader Draft := do
  let (path, name) ← key
  exactly ['=']
  blanks
  let s ← valueOf depthLimit
  lineEnd
  match Fields.within false (Fields.assign path name s) d.path .header d.fields with
  | some fields => return { d with fields := fields }
  | none => refuse

/-- Reads what is left of a document. -/
def documentRest : (fuel : Nat) → Draft → Reader Draft
  | 0, _ => refuse
  | fuel + 1, d => do
    blanks
    match ← next? with
    | none => return d
    | some '#' =>
      comment
      lineEnd
      documentRest fuel d
    | some '[' => documentRest fuel (← header d)
    | some '\n' | some '\r' =>
      newline
      documentRest fuel d
    | some _ => documentRest fuel (← field d)

end Reader

/-- The settings of a TOML text. -/
def parse? (s : Text) : Option Setting :=
  let s := if s.head? = some '\uFEFF' then s.tail else s
  ((Reader.documentRest (s.length + 1) {}).run s).map fun (d, _) => (Node.table .header d.fields).toSetting

end VirtualTerminal.Toml

namespace VirtualTerminal.Config

/-- Reads a configuration from a TOML text and validates it. -/
def ofToml (s : Text) : Except Error Config := do
  match (Toml.parse? s).bind (Setting.toConfig? false) with
  | none => .error .malformedToml
  | some config =>
    config.validate
    return config

end VirtualTerminal.Config
