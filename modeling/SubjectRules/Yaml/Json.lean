import SubjectRules.Yaml.Basic

/-!
# YAML values as JSON values

Every JSON value is a YAML value.  The other way, booleans and numbers that are keys
become strings, doubles that are not finite become null, and a tagged value becomes an
object whose only field is named by the tag.  Keys of any other kind have no JSON form.

Rules take the conversion as it comes: which values have a JSON form, and which, is up to
the `JsonForm` at hand.  The one that is written out here is the project's own.
-/

namespace SubjectRules.Yaml

/-! ## From JSON -/

mutual

def ofJson : Json → Yaml
  | .null => .null
  | .bool b => .bool b
  | .num n => .num n
  | .str s => .str s
  | .arr items => .seq (ofItems items)
  | .obj fields => .map (ofFields fields)

def ofItems : List Json → List Yaml
  | [] => []
  | item :: rest => ofJson item :: ofItems rest

def ofFields : List (String × Json) → List (Yaml × Yaml)
  | [] => []
  | (key, value) :: rest => (.str key, ofJson value) :: ofFields rest

end

/-! ## To JSON -/

inductive KeyFault where
  | notText
  | notFinite
  deriving DecidableEq, Repr

def KeyFault.message : KeyFault → String
  | .notText => "key must be a string"
  | .notFinite => "float key must be finite"

def fieldName : Yaml → Except KeyFault String
  | .str s => .ok s
  | .bool b => .ok (if b then "true" else "false")
  | .num (.int n) => .ok (Json.Number.int n).text
  | .num (.float x) => if x.isFinite then .ok (Json.Number.float x).text else .error .notFinite
  | _ => .error .notText

def numberToJson : Json.Number → Json
  | .int n => .num (.int n)
  | .float x => if x.isFinite then .num (.float x) else .null

mutual

def toJson : Yaml → Except KeyFault Json
  | .null => .ok .null
  | .bool b => .ok (.bool b)
  | .num n => .ok (numberToJson n)
  | .str s => .ok (.str s)
  | .seq items => do return .arr (← itemsToJson items)
  | .map entries => do return .obj (← entriesToJson [] entries)
  | .tagged tag value => do return .obj [("!" ++ tag, ← toJson value)]

def itemsToJson : List Yaml → Except KeyFault (List Json)
  | [] => .ok []
  | item :: rest => do
      let value ← toJson item
      return value :: (← itemsToJson rest)

/-- Writes entries after `fields`; keys with the same name share a field. -/
def entriesToJson (fields : Json.Fields) : List (Yaml × Yaml) → Except KeyFault Json.Fields
  | [] => .ok fields
  | (key, value) :: rest => do
      let name ← fieldName key
      let value ← toJson value
      entriesToJson (Json.Fields.insert name value fields) rest

end

/-- A conversion of YAML values to JSON values; a value without a JSON form has a message
that says why. -/
class JsonForm where
  of : Yaml → Except String Json

instance : JsonForm where
  of value := value.toJson.mapError KeyFault.message

end SubjectRules.Yaml
