import SubjectRules.Json.Number

/-!
# JSON values

An object is the list of its fields in definition order.  Writing to a field that is
present replaces its value in place; a new field goes to the end, so a value built
by `insert` alone has distinct keys at every object.
-/

namespace SubjectRules

inductive Json where
  | null
  | bool (value : Bool)
  | num (value : Json.Number)
  | str (value : String)
  | arr (items : List Json)
  | obj (fields : List (String × Json))
  deriving Repr, Inhabited

namespace Json

abbrev Fields := List (String × Json)

def isNull : Json → Bool
  | .null => true
  | _ => false

def fields? : Json → Option Fields
  | .obj fields => some fields
  | _ => none

def string? : Json → Option String
  | .str s => some s
  | _ => none

def items? : Json → Option (List Json)
  | .arr items => some items
  | _ => none

def bool? : Json → Option Bool
  | .bool b => some b
  | _ => none

def number? : Json → Option Number
  | .num n => some n
  | _ => none

def ofNat (n : Nat) : Json := .num (.int n)

def ofOption : Option Json → Json
  | some value => value
  | none => .null

/-! ## Fields -/

namespace Fields

/-- The value of the first field named `key`. -/
def get? (key : String) : Fields → Option Json
  | [] => none
  | (k, v) :: rest => if k = key then some v else get? key rest

/-- Writes a field: in place when the key is present, at the end otherwise. -/
def insert (key : String) (value : Json) : Fields → Fields
  | [] => [(key, value)]
  | (k, v) :: rest => if k = key then (k, value) :: rest else (k, v) :: insert key value rest

def keys (fields : Fields) : List String := fields.map Prod.fst

theorem get?_insert (key other : String) (value : Json) (fields : Fields) :
    get? other (insert key value fields) =
      if key = other then some value else get? other fields := by
  induction fields with
  | nil => rfl
  | cons field rest ih =>
      obtain ⟨k, v⟩ := field
      by_cases h : k = key
      · subst h
        by_cases k = other <;> simp_all [insert, get?]
      · by_cases k = other <;> simp_all [insert, get?, eq_comm]

theorem keys_insert (key : String) (value : Json) (fields : Fields) :
    keys (insert key value fields) =
      if key ∈ keys fields then keys fields else keys fields ++ [key] := by
  induction fields with
  | nil => rfl
  | cons field rest ih =>
      obtain ⟨k, v⟩ := field
      by_cases h : k = key
      · simp [insert, keys, h]
      · simp only [keys] at ih
        simp only [insert, h, keys, if_false, List.map_cons, ih, List.mem_cons, Ne.symm h, false_or]
        by_cases key ∈ rest.map Prod.fst <;> simp_all

end Fields

def field? (key : String) (value : Json) : Option Json := value.fields?.bind (·.get? key)

/-! ## Equality without regard to the order of fields -/

mutual

/-- Equality of values: numbers kind first, objects field by field in any order. -/
def same : Json → Json → Bool
  | .null, .null => true
  | .bool a, .bool b => a == b
  | .num a, .num b => a.same b
  | .str a, .str b => a == b
  | .arr a, .arr b => sameItems a b
  | .obj a, .obj b => a.length == b.length && sameFields a b
  | _, _ => false

def sameItems : List Json → List Json → Bool
  | [], [] => true
  | a :: as, b :: bs => same a b && sameItems as bs
  | _, _ => false

def sameFields : List (String × Json) → List (String × Json) → Bool
  | [], _ => true
  | (k, v) :: rest, other =>
      (match Fields.get? k other with
        | some w => same v w
        | none => false) && sameFields rest other

end

end Json

end SubjectRules
