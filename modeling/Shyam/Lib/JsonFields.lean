import Shyam.Lib.JsonReader
import Shyam.Lib.PyValue

/-!
# Reading JSON

From bytes to a value, and from a value to the fields of a model, as pydantic takes them where it is
not strict.
-/

namespace Python

/-- What the standard library contributes: `repr(float(s))`, and what its errors say. -/
structure TextLibrary where
  floatRepr : String → String
  jsonDecodeError : String → String
  unicodeDecodeError : Bytes → String

/-- `json.loads(data.decode("utf-8"))`. -/
def TextLibrary.loads (lib : TextLibrary) (data : Bytes) : Except Exc JsonValue :=
  match decodeUtf8 data with
  | none => .error ⟨"UnicodeDecodeError", lib.unicodeDecodeError data⟩
  | some text =>
      match JsonValue.loads lib.floatRepr text with
      | none => .error ⟨"JSONDecodeError", lib.jsonDecodeError text⟩
      | some value => .ok value

namespace JsonValue

def asStr : JsonValue → Option String
  | .str s => some s
  | _ => none

def asDict : JsonValue → Option (List (String × JsonValue))
  | .obj fields => some fields
  | _ => none

def asList : JsonValue → Option (List JsonValue)
  | .arr items => some items
  | _ => none

/-- The words are compared without regard to case. -/
def asBool : JsonValue → Option Bool
  | .bool b => some b
  | .int i => if i = 0 then some false else if i = 1 then some true else none
  | .float literal =>
      if literal ∈ ["0.0", "-0.0"] then some false else if literal = "1.0" then some true else none
  | .str s =>
      if s.toLower ∈ ["0", "f", "n", "no", "off", "false"] then some false
      else if s.toLower ∈ ["1", "t", "y", "on", "yes", "true"] then some true
      else none
  | _ => none

def asOptional {α : Type} (read : JsonValue → Option α) : JsonValue → Option (Option α)
  | .null => some none
  | v => (read v).map some

/-- A field that is missing takes its default, if it has one. -/
def field {α : Type} (fields : List (String × JsonValue)) (name : String)
    (read : JsonValue → Option α) (default : Option α) : Option α :=
  match fields.lookup name with
  | none => default
  | some v => read v

end JsonValue

end Python
