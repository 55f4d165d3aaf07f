import SubjectRules.FailureTree
import SubjectRules.Proofs.Schema.Layout

/-!
# Leaves of an object

The leaves of an object are the values in it that are no objects, in depth-first order.
A failure tree counts them.  Entries at some of the leaf paths of a schema, assigned in
order to an empty object, make an object with just these leaves, in just this order.
-/

namespace SubjectRules

namespace Json

mutual

/-- The paths of the leaves in a value, depth first; a value that is no object is the
only one. -/
def leafPaths : Json → List FieldPath
  | .obj fields => fieldLeafPaths fields
  | _ => [[]]

def fieldLeafPaths : List (String × Json) → List FieldPath
  | [] => []
  | (key, value) :: rest => (leafPaths value).map (key :: ·) ++ fieldLeafPaths rest

end

mutual

def leaves : Json → List (FieldPath × Json)
  | .obj fields => fieldLeaves fields
  | value => [([], value)]

def fieldLeaves : List (String × Json) → List (FieldPath × Json)
  | [] => []
  | (key, value) :: rest =>
      (leaves value).map (fun leaf => (key :: leaf.1, leaf.2)) ++ fieldLeaves rest

end

mutual

theorem leafPaths_eq : ∀ value : Json, value.leafPaths = value.leaves.map Prod.fst
  | .obj fields => by rw [leafPaths, leaves, fieldLeafPaths_eq fields]
  | .null | .bool _ | .num _ | .str _ | .arr _ => by rw [leafPaths, leaves] <;> simp

theorem fieldLeafPaths_eq : ∀ fields : List (String × Json),
    fieldLeafPaths fields = (fieldLeaves fields).map Prod.fst
  | [] => by rw [fieldLeafPaths, fieldLeaves]; rfl
  | (key, value) :: rest => by
      rw [fieldLeafPaths, fieldLeaves, leafPaths_eq value, fieldLeafPaths_eq rest]
      simp

end

theorem leaves_of_fields?_eq_none {value : Json} (h : value.fields? = none) :
    value.leaves = [([], value)] := by
  cases value with
  | obj fields => cases h
  | _ => rw [leaves]; simp

end Json

namespace FailureTree

def leafPaths (t : FailureTree) : List FieldPath := Json.fieldLeafPaths t.fields

def leaves (t : FailureTree) : List (FieldPath × Json) := Json.fieldLeaves t.fields

theorem leafPaths_eq (t : FailureTree) : t.leafPaths = t.leaves.map Prod.fst :=
  Json.fieldLeafPaths_eq t.fields

mutual

theorem countValue_eq : ∀ value : Json, countValue value = value.leafPaths.length
  | .obj fields => by rw [countValue, Json.leafPaths, countFields_eq fields]
  | .null | .bool _ | .num _ | .str _ | .arr _ => by
      rw [countValue, Json.leafPaths] <;> simp

theorem countFields_eq : ∀ fields : List (String × Json),
    countFields fields = (Json.fieldLeafPaths fields).length
  | [] => by rw [countFields, Json.fieldLeafPaths]; rfl
  | (key, value) :: rest => by
      rw [countFields, Json.fieldLeafPaths, countValue_eq value, countFields_eq rest]
      simp

end

theorem fieldCount_eq (t : FailureTree) : t.fieldCount = t.leafPaths.length :=
  countFields_eq t.fields

end FailureTree

namespace Json

variable {ρ : Type}

theorem fieldLeaves_single {path : FieldPath} (hpath : path ≠ []) {value : Json}
    (hvalue : value.fields? = none) : fieldLeaves (Fields.single path value) = [(path, value)] := by
  induction path with
  | nil => contradiction
  | cons key rest ih =>
      cases rest with
      | nil =>
          rw [Fields.single, fieldLeaves, leaves_of_fields?_eq_none hvalue, fieldLeaves]
          rfl
      | cons next rest =>
          have hbelow := ih (List.cons_ne_nil next rest)
          rw [Fields.single, fieldLeaves, leaves, hbelow, fieldLeaves]
          rfl

theorem fieldLeaves_of_lays {s : Schema ρ} {entries : List (FieldPath × Json)} {fields : Fields}
    (h : s.Lays entries fields) (hvalues : ∀ entry ∈ entries, entry.2.fields? = none) :
    fieldLeaves fields = entries := by
  induction h with
  | nil => rw [fieldLeaves]
  | skip key node hrest ih => exact ih hvalues
  | leaf key rules value hrest ih =>
      obtain ⟨hvalue, hothers⟩ := List.forall_mem_cons.mp hvalues
      rw [fieldLeaves, leaves_of_fields?_eq_none hvalue, ih hothers]
      rfl
  | branch key hne hsub hrest ihSub ihRest =>
      rw [List.forall_mem_append, List.forall_mem_map] at hvalues
      rw [fieldLeaves, leaves, ihSub hvalues.1, ihRest hvalues.2]

theorem fieldLeaves_assignAll {s : Schema ρ} (hs : s.DistinctKeys)
    {entries : List (FieldPath × Json)} (hpaths : (entries.map Prod.fst).Sublist s.leafPaths)
    (hvalues : ∀ entry ∈ entries, entry.2.fields? = none) :
    fieldLeaves (Fields.assignAll [] entries) = entries :=
  fieldLeaves_of_lays (Schema.lays_assignAll hs hpaths) hvalues

end Json

end SubjectRules
