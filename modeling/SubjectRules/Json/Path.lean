import SubjectRules.Json.Basic

/-!
# Paths into objects

A path names a field of a field of … an object.  Assigning at a path makes the
objects on the way where they are missing or are no objects; looking up a path stops
at anything that is not an object.
-/

namespace SubjectRules

/-- The keys that lead to a field, outermost first. -/
abbrev FieldPath := List String

namespace Json.Fields

def objectAt (key : String) (fields : Fields) : Fields :=
  ((fields.get? key).bind Json.fields?).getD []

/-- Writes `value` at `path`; the empty path writes nothing. -/
def assign : FieldPath → Json → Fields → Fields
  | [], _, fields => fields
  | [key], value, fields => fields.insert key value
  | key :: next :: rest, value, fields =>
      fields.insert key (.obj (assign (next :: rest) value (fields.objectAt key)))

/-- The value at `path`; there is none at the empty path. -/
def lookup : FieldPath → Fields → Option Json
  | [], _ => none
  | [key], fields => fields.get? key
  | key :: next :: rest, fields =>
      ((fields.get? key).bind Json.fields?).bind (lookup (next :: rest))

def assignAll (fields : Fields) (entries : List (FieldPath × Json)) : Fields :=
  entries.foldl (fun fields entry => fields.assign entry.1 entry.2) fields

end Json.Fields

end SubjectRules
