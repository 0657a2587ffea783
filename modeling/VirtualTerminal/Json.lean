import VirtualTerminal.Text.Basic

/-!
# JSON values

Values of the JSON data format, and their compact text.
-/

namespace VirtualTerminal

/-- A JSON value. A number is `mantissa` divided by ten to the power `decimals`. -/
inductive JsonValue where
  | null
  | bool (b : Bool)
  | number (mantissa : Int) (decimals : Nat)
  | string (s : Text)
  | array (items : List JsonValue)
  | object (fields : List (Text × JsonValue))
  deriving Inhabited

namespace JsonValue

/-- The four hexadecimal digits of a number below 65536. -/
def hex4 (n : Nat) : Text :=
  [n / 0x1000, n / 0x100, n / 0x10, n].map fun d => Nat.digitChar (d % 16)

/-- A character inside a JSON string: quotes, backslashes and control characters are escaped. -/
def escapeChar (c : Char) : Text :=
  if c = '"' then ['\\', '"']
  else if c = '\\' then ['\\', '\\']
  else if c = '\n' then ['\\', 'n']
  else if c = '\r' then ['\\', 'r']
  else if c = '\t' then ['\\', 't']
  else if c = '\x08' then ['\\', 'b']
  else if c = '\x0C' then ['\\', 'f']
  else if c.toNat < 0x20 then ['\\', 'u'] ++ hex4 c.toNat
  else [c]

/-- A JSON string. -/
def renderString (s : Text) : Text :=
  ['"'] ++ s.flatMap escapeChar ++ ['"']

/-- A number in decimal digits. -/
def renderNumber (mantissa : Int) (decimals : Nat) : Text :=
  let sign := if mantissa < 0 then ['-'] else []
  let n := mantissa.natAbs
  let fraction :=
    if decimals = 0 then []
    else
      let digits := Text.ofNat (n % Nat.pow 10 decimals)
      '.' :: (List.replicate (decimals - digits.length) '0' ++ digits)
  sign ++ Text.ofNat (n / Nat.pow 10 decimals) ++ fraction

mutual

/-- The compact text of a value. -/
def render : JsonValue → Text
  | null => "null".toList
  | bool b => if b then "true".toList else "false".toList
  | number mantissa decimals => renderNumber mantissa decimals
  | string s => renderString s
  | array items => ['['] ++ Text.join [','] (renderItems items) ++ [']']
  | object fields => ['\x7b'] ++ Text.join [','] (renderFields fields) ++ ['\x7d']

/-- The compact texts of the items of an array. -/
def renderItems : List JsonValue → List Text
  | [] => []
  | v :: rest => v.render :: renderItems rest

/-- The compact texts of the fields of an object. -/
def renderFields : List (Text × JsonValue) → List Text
  | [] => []
  | (k, v) :: rest => (renderString k ++ [':'] ++ v.render) :: renderFields rest

end

/-- The values that stand under a name among the fields of an object. -/
def values (name : Text) (fields : List (Text × JsonValue)) : List JsonValue :=
  fields.filterMap fun f => if f.1 = name then some f.2 else none

/-- The value of a field of an object, if the field is there. A field that stands there more than once
cannot be read. -/
def field? (name : Text) (fields : List (Text × JsonValue)) : Option (Option JsonValue) :=
  match values name fields with
  | [] => some none
  | [v] => some (some v)
  | _ => none

/-- The text that a string value holds. -/
def string? : JsonValue → Option Text
  | string s => some s
  | _ => none

/-- The truth value that a value is. -/
def bool? : JsonValue → Option Bool
  | bool b => some b
  | _ => none

end JsonValue

end VirtualTerminal
