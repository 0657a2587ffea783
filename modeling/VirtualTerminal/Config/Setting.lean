import VirtualTerminal.Config
import VirtualTerminal.Json

/-!
# Settings

Configuration texts carry a tree of settings. A group of settings is written as a record, in which
an absent field has its default and unknown fields are ignored, or as a list of the fields in their
order, which may end early.
-/

namespace VirtualTerminal

/-- A tree of settings. -/
inductive Setting where
  | text (s : Text)
  | integer (n : Int)
  | list (items : List Setting)
  | record (fields : List (Text × Setting))
  /-- A value of a kind that no setting has. -/
  | other

namespace Setting

/-- The text that a setting is. -/
def text? : Setting → Option Text
  | text s => some s
  | _ => none

/-- The number that a setting is, if it is at most `most`. -/
def nat? (most : Nat) : Setting → Option Nat
  | integer (.ofNat n) => if n ≤ most then some n else none
  | _ => none

/-- The largest count. -/
def largestCount : Nat := 0xFFFFFFFFFFFFFFFF

/-- Looks up the fields of a group, each by its name or by its place. A list must not hold more
items than `names` if `exact` is set. Of several fields with one name the first one is taken, but the
record of a file has none. -/
def fields? (exact : Bool) (names : List String) : Setting → Option (String → Option Setting)
  | record fields => some fun name => fields.lookup name.toList
  | list items =>
    if exact ∧ names.length < items.length then none
    else some fun name => (names.zip items).lookup name
  | _ => none

/-- A field of a group, or its default. -/
def fieldOr (fields : String → Option Setting) (name : String) (read : Setting → Option α)
    (default : α) : Option α :=
  match fields name with
  | none => some default
  | some s => read s

/-- The prompt that a group describes. -/
def toPrompt? (exact : Bool) (s : Setting) : Option Prompt := do
  let f ← s.fields? exact ["user", "host", "symbol"]
  let d : Prompt := {}
  return {
    user := ← fieldOr f "user" text? d.user
    host := ← fieldOr f "host" text? d.host
    symbol := ← fieldOr f "symbol" text? d.symbol }

/-- The limits that a group describes. -/
def toLimits? (exact : Bool) (s : Setting) : Option Limits := do
  let f ← s.fields? exact
    ["max_input_length", "max_args", "max_token_length", "max_options", "max_option_key_length"]
  let d : Limits := {}
  let count := nat? largestCount
  return {
    inputLength := ← fieldOr f "max_input_length" count d.inputLength
    args := ← fieldOr f "max_args" count d.args
    tokenLength := ← fieldOr f "max_token_length" count d.tokenLength
    options := ← fieldOr f "max_options" count d.options
    keyLength := ← fieldOr f "max_option_key_length" count d.keyLength }

/-- The pace that a group describes. -/
def toPace? (exact : Bool) (s : Setting) : Option Pace := do
  let f ← s.fields? exact ["default_fps", "min_frame_delay_ms"]
  let d : Pace := {}
  return {
    framesPerSecond := ← fieldOr f "default_fps" (nat? 0xFFFFFFFF) d.framesPerSecond
    frameDelay := ← fieldOr f "min_frame_delay_ms" (nat? largestCount) d.frameDelay }

/-- The configuration that a group describes. -/
def toConfig? (exact : Bool) (s : Setting) : Option Config := do
  let f ← s.fields? exact ["prompt", "limits", "animation", "history_limit", "home"]
  let d : Config := {}
  return {
    prompt := ← fieldOr f "prompt" (toPrompt? exact) d.prompt
    limits := ← fieldOr f "limits" (toLimits? exact) d.limits
    pace := ← fieldOr f "animation" (toPace? exact) d.pace
    historyLimit := ← fieldOr f "history_limit" (nat? largestCount) d.historyLimit
    home := ← fieldOr f "home" text? d.home }

mutual

/-- The settings that a JSON value holds. -/
def ofJson : JsonValue → Setting
  | .string s => text s
  | .number n 0 => integer n
  | .array items => list (ofItems items)
  | .object fields => record (ofFields fields)
  | _ => other

/-- The settings that the items of a JSON array hold. -/
def ofItems : List JsonValue → List Setting
  | [] => []
  | v :: rest => ofJson v :: ofItems rest

/-- The settings that the fields of a JSON object hold. -/
def ofFields : List (Text × JsonValue) → List (Text × Setting)
  | [] => []
  | (k, v) :: rest => (k, ofJson v) :: ofFields rest

end

end Setting

namespace Limits

/-- Reads limits from a JSON value. -/
def ofJson (v : JsonValue) : Except Error Limits :=
  match (Setting.ofJson v).toLimits? true with
  | some limits => .ok limits
  | none => .error .malformedJson

end Limits

namespace Config

/-- Reads a configuration from a JSON value. It is not validated. -/
def ofJson (v : JsonValue) : Except Error Config :=
  match (Setting.ofJson v).toConfig? true with
  | some config => .ok config
  | none => .error .malformedJson

/-- The JSON form of a configuration. -/
def toJson (c : Config) : JsonValue :=
  let nat (n : Nat) : JsonValue := .number n 0
  .object [
    ("prompt".toList, .object [("user".toList, .string c.prompt.user),
      ("host".toList, .string c.prompt.host), ("symbol".toList, .string c.prompt.symbol)]),
    ("limits".toList, .object [("max_input_length".toList, nat c.limits.inputLength),
      ("max_args".toList, nat c.limits.args),
      ("max_token_length".toList, nat c.limits.tokenLength),
      ("max_options".toList, nat c.limits.options),
      ("max_option_key_length".toList, nat c.limits.keyLength)]),
    ("animation".toList, .object [("default_fps".toList, nat c.pace.framesPerSecond),
      ("min_frame_delay_ms".toList, nat c.pace.frameDelay)]),
    ("history_limit".toList, nat c.historyLimit),
    ("home".toList, .string c.home)]

end Config

end VirtualTerminal
