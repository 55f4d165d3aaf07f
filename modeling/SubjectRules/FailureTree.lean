import SubjectRules.Failure
import SubjectRules.Json.Path

/-!
# Failure trees

The report on an object has its shape: objects on the way, and the wire form of a
failure at every field that failed.
-/

namespace SubjectRules

structure FailureTree where
  fields : Json.Fields := []
  deriving Repr

namespace FailureTree

mutual

/-- How many fields a value stands for: its fields when it is an object, itself
otherwise. -/
def countValue : Json → Nat
  | .obj fields => countFields fields
  | _ => 1

def countFields : List (String × Json) → Nat
  | [] => 0
  | (_, value) :: rest => countValue value + countFields rest

end

def fieldCount (t : FailureTree) : Nat := countFields t.fields

def isEmpty (t : FailureTree) : Bool := t.fields.isEmpty

def get? (t : FailureTree) (path : FieldPath) : Option Json := Json.Fields.lookup path t.fields

def toJson (t : FailureTree) : Json := .obj t.fields

def ofJson? (value : Json) : Option FailureTree := value.fields?.map FailureTree.mk

def text (t : FailureTree) : String := t.toJson.text

def same (a b : FailureTree) : Bool := a.toJson.same b.toJson

end FailureTree

/-! ## Codes of a wire form -/

mutual

/-- The codes of a failure, read off its wire form: of a pair that starts with a string
the string, of any other array those of its items, of anything else its text. -/
def wireCodes : Json → List String
  | .arr [.str code, _] => [code]
  | .arr items => wireCodesOf items
  | value => [value.text]

def wireCodesOf : List Json → List String
  | [] => []
  | item :: rest => wireCodes item ++ wireCodesOf rest

end

end SubjectRules
