import Shyam.Lib.DateTime
import Shyam.Lib.JsonAgree

/-!
# Python values

The values that a `dict[str, Any]` can hold, their truth value, and how the standard `json` encoder
takes them: `None`, booleans, numbers, strings, lists, tuples and dictionaries have a JSON form, any
other object raises.
-/

namespace Python

/-- A raised exception: its class, and `str(exc)`. -/
structure Exc where
  cls : String
  text : String
deriving DecidableEq, Repr

theorem forall₂_of_mapM_eq_ok {α β : Type} {f : α → Except Exc β} {xs : List α} {ys : List β}
    (h : xs.mapM f = .ok ys) : List.Forall₂ (fun x y => f x = .ok y) xs ys := by
  induction xs generalizing ys with
  | nil =>
      cases h
      exact .nil
  | cons x xs ih =>
      rw [List.mapM_cons] at h
      cases hx : f x with
      | error exc =>
          rw [hx] at h
          cases h
      | ok y =>
          cases hxs : xs.mapM f with
          | error exc =>
              rw [hx, hxs] at h
              cases h
          | ok ys' =>
              rw [hx, hxs] at h
              cases h
              exact .cons hx (ih hxs)

abbrev Bytes := List UInt8

/-- `s.encode("utf-8")`. -/
def encodeUtf8 (s : String) : Bytes := s.toUTF8.data.toList

theorem encodeUtf8_injective : Function.Injective encodeUtf8 := by
  intro s t h
  have hdata : s.toByteArray.data = t.toByteArray.data := Array.toList_inj.mp h
  exact String.toByteArray_inj.mp (ByteArray.ext hdata)

/-- `data.decode("utf-8")`, which raises where nothing encodes to the bytes. -/
def decodeUtf8 (data : Bytes) : Option String := String.fromUTF8? ⟨data.toArray⟩

theorem decodeUtf8_eq_some_iff {data : Bytes} {s : String} :
    decodeUtf8 data = some s ↔ data = encodeUtf8 s := by
  rw [decodeUtf8, String.fromUTF8?, Option.dite_none_right_eq_some]
  constructor
  · rintro ⟨hvalid, hs⟩
    rw [← Option.some.inj hs]
    rfl
  · rintro rfl
    have hbytes : (⟨(encodeUtf8 s).toArray⟩ : ByteArray) = s.toByteArray := rfl
    rw [hbytes]
    exact ⟨s.isValidUTF8, rfl⟩

/-- A value. A float is carried by its `repr`, a set in its iteration order, a pydantic model by the
dictionary `model_dump` gives, and any other object by the name of its type. -/
inductive PyValue where
  | none
  | bool (b : Bool)
  | int (i : Int)
  | float (literal : String)
  | str (s : String)
  | list (items : List PyValue)
  | tuple (items : List PyValue)
  | set (items : List PyValue)
  | dict (fields : List (String × PyValue))
  | datetime (t : DateTime)
  | uuid (text : String)
  | model (fields : List (String × PyValue))
  | object (typeName : String)
deriving Inhabited

namespace PyValue

/-- `bool(v)`. -/
def truthy : PyValue → Bool
  | none => false
  | bool b => b
  | int i => i ≠ 0
  | float literal => literal ≠ "0.0" && literal ≠ "-0.0"
  | str s => s ≠ ""
  | list items => !items.isEmpty
  | tuple items => !items.isEmpty
  | set items => !items.isEmpty
  | dict fields => !fields.isEmpty
  | _ => true

/-- What `json.dumps` raises for an object it has no form for. -/
def notSerializable (typeName : String) : Exc :=
  ⟨"TypeError", "Object of type " ++ typeName ++ " is not JSON serializable"⟩

mutual

/-- The JSON form the default encoder finds. -/
def toJson : PyValue → Except Exc JsonValue
  | none => .ok .null
  | bool b => .ok (.bool b)
  | int i => .ok (.int i)
  | float literal => .ok (.float literal)
  | str s => .ok (.str s)
  | list items => (itemsToJson items).map .arr
  | tuple items => (itemsToJson items).map .arr
  | dict fields => (fieldsToJson fields).map .obj
  | set _ => .error (notSerializable "set")
  | datetime _ => .error (notSerializable "datetime")
  | uuid _ => .error (notSerializable "UUID")
  | model _ => .error (notSerializable "BaseModel")
  | object typeName => .error (notSerializable typeName)

def itemsToJson : List PyValue → Except Exc (List JsonValue)
  | [] => .ok []
  | v :: vs => do
      let j ← v.toJson
      let js ← itemsToJson vs
      return j :: js

def fieldsToJson : List (String × PyValue) → Except Exc (List (String × JsonValue))
  | [] => .ok []
  | f :: fs => do
      let j ← fieldToJson f
      let js ← fieldsToJson fs
      return j :: js

def fieldToJson : String × PyValue → Except Exc (String × JsonValue)
  | (k, v) => do
      let j ← v.toJson
      return (k, j)

end

/-- `json.dumps(v, sort_keys=True, ensure_ascii=False, separators=(",", ":"))`. -/
def jsonDumps (v : PyValue) : Except Exc String := v.toJson.map fun j => String.ofList j.text

mutual

def ofJson : JsonValue → PyValue
  | .null => none
  | .bool b => bool b
  | .int i => int i
  | .float literal => float literal
  | .str s => str s
  | .arr items => list (ofJsonItems items)
  | .obj fields => dict (ofJsonFields fields)

def ofJsonItems : List JsonValue → List PyValue
  | [] => []
  | v :: vs => ofJson v :: ofJsonItems vs

def ofJsonFields : List (String × JsonValue) → List (String × PyValue)
  | [] => []
  | f :: fs => ofJsonField f :: ofJsonFields fs

def ofJsonField : String × JsonValue → String × PyValue
  | (k, v) => (k, ofJson v)

end

theorem ofJsonItems_eq_map (vs : List JsonValue) : ofJsonItems vs = vs.map ofJson := by
  induction vs with
  | nil => rfl
  | cons v vs ih => simp [ofJsonItems, ih]

theorem ofJsonFields_eq_map (fs : List (String × JsonValue)) :
    ofJsonFields fs = fs.map fun f => (f.1, ofJson f.2) := by
  induction fs with
  | nil => rfl
  | cons f fs ih =>
      obtain ⟨k, v⟩ := f
      simp [ofJsonFields, ofJsonField, ih]

theorem toJson_ofJson (v : JsonValue) : (ofJson v).toJson = .ok v := by
  induction v using JsonValue.inductionOn with
  | arr items ih =>
      have hitems : itemsToJson (ofJsonItems items) = .ok items := by
        induction items with
        | nil => rfl
        | cons v vs ihvs =>
            rw [ofJsonItems, itemsToJson, ih v List.mem_cons_self,
              ihvs fun w hw => ih w (List.mem_cons_of_mem _ hw)]
            rfl
      rw [ofJson, toJson, hitems]
      rfl
  | obj fields ih =>
      have hfields : fieldsToJson (ofJsonFields fields) = .ok fields := by
        induction fields with
        | nil => rfl
        | cons f fs ihfs =>
            obtain ⟨k, v⟩ := f
            rw [ofJsonFields, fieldsToJson, ofJsonField, fieldToJson, ih (k, v) List.mem_cons_self,
              ihfs fun g hg => ih g (List.mem_cons_of_mem _ hg)]
            rfl
      rw [ofJson, toJson, hfields]
      rfl
  | _ => rfl

theorem jsonDumps_ofJson (v : JsonValue) : (ofJson v).jsonDumps = .ok (String.ofList v.text) := by
  rw [jsonDumps, toJson_ofJson]
  rfl

end PyValue

end Python
