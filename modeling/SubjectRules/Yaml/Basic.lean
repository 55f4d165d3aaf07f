import SubjectRules.Json.Basic

/-!
# YAML values

The values that a rule document is written in.  Keys of a mapping may be any values
and never repeat.  A tag of one's own makes a tagged value, which counts as a string
where a string is read and otherwise as nothing else.
-/

namespace SubjectRules

/-- A YAML value; the entries of a mapping are ordered.  Doubles may be infinite or not
a number. -/
inductive Yaml where
  | null
  | bool (value : Bool)
  | num (value : Json.Number)
  | str (value : String)
  | seq (items : List Yaml)
  | map (entries : List (Yaml × Yaml))
  | tagged (tag : String) (value : Yaml)
  deriving Repr, Inhabited

namespace Yaml

abbrev Mapping := List (Yaml × Yaml)

/-- The text of a string, whatever its tags. -/
def text? : Yaml → Option String
  | .str s => some s
  | .tagged _ value => value.text?
  | _ => none

/-- The value at a key that is an untagged string. -/
def Mapping.get? (key : String) : Mapping → Option Yaml
  | [] => none
  | (.str k, value) :: rest => if k = key then some value else Mapping.get? key rest
  | _ :: rest => Mapping.get? key rest

/-! ## Equality without regard to the order of entries -/

/-- Numbers compare kind first; what is not a number equals itself here. -/
def sameNumber : Json.Number → Json.Number → Bool
  | .float a, .float b => a == b || a.isNaN && b.isNaN
  | a, b => a.same b

mutual

def same : Yaml → Yaml → Bool
  | .null, .null => true
  | .bool a, .bool b => a == b
  | .num a, .num b => sameNumber a b
  | .str a, .str b => a == b
  | .seq a, .seq b => sameItems a b
  | .map a, .map b => a.length == b.length && sameEntries a b
  | .tagged s a, .tagged t b => s == t && same a b
  | _, _ => false

def sameItems : List Yaml → List Yaml → Bool
  | [], [] => true
  | a :: as, b :: bs => same a b && sameItems as bs
  | _, _ => false

def sameEntries : List (Yaml × Yaml) → List (Yaml × Yaml) → Bool
  | [], _ => true
  | (k, v) :: rest, other =>
      other.any (fun (key, value) => same k key && same v value) && sameEntries rest other

end

end Yaml

end SubjectRules
