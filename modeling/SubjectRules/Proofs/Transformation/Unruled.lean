import SubjectRules.Proofs.Transformation.Frame

/-!
# Values without a rule

What neither stands at a leaf nor lies below one keeps its place.  It keeps its value as well,
unless it stands at a branch, is neither an object nor null, and some leaf directly in the branch
has an output for a missing value.  Then the object of these outputs replaces it, since a leaf can
write into nothing else.
-/

namespace SubjectRules

variable {ε : Type}

/-! ## Outputs entry by entry -/

def Visit.output? (visit : Visit (Transformer ε)) : Option (FieldPath × Json) :=
  ((Transformer.ofLeaf visit.rules).output visit.value).map (visit.path, ·)

namespace Schema

theorem outputs_eq_filterMap_visits (subject : Json.Fields) (schema : Schema (Transformer ε)) :
    schema.outputs subject = (schema.visitsBeside subject).filterMap Visit.output? := by
  have hentry : (transformation (ε := ε) subject).entryAt = Visit.output? :=
    funext (entryAt_transformation subject)
  rw [← filterMap_entryAt_transformation, hentry]
  rfl

def Node.outputs (value : Option Json) : Node (Transformer ε) → List (FieldPath × Json)
  | .leaf rules => (((Transformer.ofLeaf rules).output value).map ([], ·)).toList
  | .branch sub =>
      if isNothing value then [] else sub.outputs ((value.bind Json.fields?).getD [])

theorem outputs_cons (key : String) (node : Node (Transformer ε))
    (rest : Schema (Transformer ε)) (subject : Json.Fields) :
    (cons key node rest).outputs subject =
      (node.outputs (subject.get? key)).map (fun entry => (key :: entry.1, entry.2)) ++
        rest.outputs subject := by
  rw [outputs_eq_filterMap_visits, outputs_eq_filterMap_visits subject rest, visitsBeside_cons,
    List.filterMap_append, List.filterMap_map]
  congr 1
  cases node with
  | leaf rules =>
      cases houtput : (Transformer.ofLeaf rules).output (subject.get? key) <;>
        simp [Node.visitsBeside, Node.outputs, Visit.output?, Visit.under, houtput]
  | branch sub =>
      rw [Node.visitsBeside, Node.outputs]
      split
      · rfl
      · simp [outputs_eq_filterMap_visits, List.map_filterMap, Visit.output?, Visit.under,
          Function.comp_def]

theorem below_outputs {schema : Schema (Transformer ε)} (hschema : schema.DistinctKeys)
    (key : String) (subject : Json.Fields) :
    Json.Fields.below key (schema.outputs subject) =
      ((schema.get? key).map (Node.outputs (subject.get? key))).getD [] := by
  induction schema using entryInduction with
  | nil => rfl
  | cons first node rest ih =>
      obtain ⟨hfirst, -, hrest⟩ := distinctKeys_cons_iff.mp hschema
      rw [outputs_cons, Json.Fields.below, List.filterMap_append, ← Json.Fields.below,
        ← Json.Fields.below, ih hrest, get?_cons]
      by_cases hkey : first = key
      · subst hkey
        simp [get?_eq_none_iff.mpr hfirst, Json.Fields.below, Json.Fields.restAfter?]
      · simp [Json.Fields.below, Json.Fields.restAfter?, hkey]

/-! ## What fills a branch -/

/-- The outputs of the leaves directly in a schema when all their values are missing. -/
def fillings : Schema (Transformer ε) → Json.Fields
  | .nil => []
  | .leaf key rules rest =>
      (((Transformer.ofLeaf rules).output none).map (key, ·)).toList ++ rest.fillings
  | .branch _ _ rest => rest.fillings

theorem outputs_empty (schema : Schema (Transformer ε)) :
    schema.outputs [] = schema.fillings.map fun field => ([field.1], field.2) := by
  induction schema with
  | nil => rfl
  | leaf key rules rest ih =>
      have hcons := outputs_cons key (.leaf rules) rest []
      cases houtput : (Transformer.ofLeaf rules).output none <;>
        simpa [cons, Node.outputs, Json.Fields.get?, fillings, houtput, ih] using hcons
  | branch key sub rest _ ih =>
      have hcons := outputs_cons key (.branch sub) rest []
      simpa [cons, Node.outputs, Json.Fields.get?, isNothing, fillings, ih] using hcons

theorem keys_fillings_subset (schema : Schema (Transformer ε)) :
    Json.Fields.keys schema.fillings ⊆ schema.keys := by
  intro key hkey
  have hpath : [key] ∈ (schema.outputs []).map Prod.fst := by
    simpa [outputs_empty, Json.Fields.keys] using hkey
  have hleaf := (schema.map_fst_outputs_sublist []).mem hpath
  obtain ⟨other, hother, rest, heq⟩ := exists_key_of_mem_leafPaths hleaf
  cases heq
  exact hother

theorem assignAll_outputs_empty {schema : Schema (Transformer ε)} (hschema : schema.DistinctKeys) :
    Json.Fields.assignAll [] (schema.outputs []) = schema.fillings := by
  rw [outputs_empty]
  induction schema with
  | nil => rfl
  | branch key sub rest _ ih => exact ih hschema.2.2
  | leaf key rules rest ih =>
      obtain ⟨hkey, hrest⟩ := hschema
      rw [fillings]
      cases (Transformer.ofLeaf rules).output none with
      | none => exact ih hrest
      | some value =>
          have hnew : ∀ entry ∈ rest.fillings.map fun field => ([field.1], field.2),
              ∀ next ∈ entry.1.head?, next ∉ Json.Fields.keys [(key, value)] := by
            intro entry hentry next hnext
            obtain ⟨field, hfield, rfl⟩ := List.mem_map.mp hentry
            cases hnext
            rw [Json.Fields.keys, List.map_singleton, List.mem_singleton]
            rintro rfl
            exact hkey (keys_fillings_subset rest (List.mem_map_of_mem hfield))
          have hbehind := Json.Fields.assignAll_append hnew []
          rw [ih hrest] at hbehind
          exact hbehind

end Schema

/-! ## The frame of a value -/

variable {schema : Schema (Transformer ε)} {key : String}

theorem ne_of_mem_outputs (hkey : [key] ∉ schema.leafPaths) (subject : Json.Fields) :
    ∀ entry ∈ schema.outputs subject, entry.1 ≠ [key] := by
  intro entry hentry heq
  have hleaf := (schema.map_fst_outputs_sublist subject).mem (List.mem_map_of_mem hentry)
  rw [heq] at hleaf
  exact hkey hleaf

theorem get?_assignAll_outputs (hschema : schema.DistinctKeys) (hkey : [key] ∉ schema.leafPaths)
    {sub : Schema (Transformer ε)} (hsub : schema.get? key = some (.branch sub))
    {subject inner : Json.Fields} (hinner : subject.get? key = some (.obj inner)) :
    (Json.Fields.assignAll subject (schema.outputs subject)).get? key =
      some (.obj (Json.Fields.assignAll inner (sub.outputs inner))) := by
  have hbelow := Schema.below_outputs hschema key subject
  rw [Json.Fields.get?_assignAll_below (ne_of_mem_outputs hkey subject) hinner, hbelow, hsub,
    hinner]
  rfl

theorem get?_assignAll_outputs_of_none (hschema : schema.DistinctKeys)
    (hnone : schema.get? key = none) (subject : Json.Fields) :
    (Json.Fields.assignAll subject (schema.outputs subject)).get? key = subject.get? key := by
  refine Json.Fields.get?_assignAll_of_below_eq_nil ?_ subject
  rw [Schema.below_outputs hschema, hnone]
  rfl

theorem get?_assignAll_outputs_of_fields?_eq_none (hschema : schema.DistinctKeys)
    (hkey : [key] ∉ schema.leafPaths) {sub : Schema (Transformer ε)}
    (hsub : schema.get? key = some (.branch sub)) {subject : Json.Fields} {value : Json}
    (hvalue : subject.get? key = some value) (hscalar : value.fields? = none) :
    (Json.Fields.assignAll subject (schema.outputs subject)).get? key =
      some (if value.isNull || sub.fillings.isEmpty then value else .obj sub.fillings) := by
  -- null shuts the branch, and beside any other value of this kind its leaves see nothing
  have hbelow : Json.Fields.below key (schema.outputs subject) =
      if value.isNull then [] else sub.outputs [] := by
    rw [Schema.below_outputs hschema, hsub, hvalue, Option.map_some, Option.getD_some,
      Schema.Node.outputs, Option.bind_some, hscalar]
    rfl
  have hinner : subject.objectAt key = [] := by
    rw [Json.Fields.objectAt, hvalue, Option.bind_some, hscalar]
    rfl
  by_cases hkept : value.isNull || sub.fillings.isEmpty
  · have hnone : Json.Fields.below key (schema.outputs subject) = [] := by
      rcases Bool.or_eq_true_iff.mp hkept with hnull | hempty
      · rw [hbelow, if_pos hnull]
      · simp [hbelow, Schema.outputs_empty, List.isEmpty_iff.mp hempty]
    rw [if_pos hkept, Json.Fields.get?_assignAll_of_below_eq_nil hnone, hvalue]
  · obtain ⟨hnull, hfilled⟩ := not_or.mp (Bool.or_eq_true_iff.not.mp hkept)
    rw [if_neg hnull] at hbelow
    have hne : Json.Fields.below key (schema.outputs subject) ≠ [] := by
      simpa [hbelow, Schema.outputs_empty] using hfilled
    rw [if_neg hkept,
      Json.Fields.get?_assignAll_of_below_ne_nil (ne_of_mem_outputs hkey subject) hne, hinner,
      hbelow, Schema.assignAll_outputs_empty (Schema.distinctKeys_of_get? hschema hsub)]

theorem lookup_assignAll_outputs (hschema : schema.DistinctKeys) {subject : Json.Fields}
    {path : FieldPath} {value : Json} (hvalue : Json.Fields.lookup path subject = some value)
    (hscalar : value.fields? = none) (hpath : ∀ leaf ∈ schema.leafPaths, ¬ leaf <+: path) :
    let fillings := ((schema.branchAt? path).map Schema.fillings).getD []
    Json.Fields.lookup path (Json.Fields.assignAll subject (schema.outputs subject)) =
      some (if value.isNull || fillings.isEmpty then value else .obj fillings) := by
  induction path generalizing subject schema with
  | nil => cases hvalue
  | cons key rest ih =>
      have hkey := Schema.singleton_notMem_leafPaths hpath
      rcases Schema.get?_eq_none_or_branch hschema hkey with hnone | ⟨sub, hsub⟩
      · have hget := get?_assignAll_outputs_of_none hschema hnone subject
        have hbranch : schema.branchAt? (key :: rest) = none := by simp [Schema.branchAt?, hnone]
        rw [Json.Fields.lookup_congr hget rest, hvalue, hbranch]
        simp
      -- objects on the way are written into, so the induction goes on inside them
      cases rest with
      | nil =>
          have hbranch : schema.branchAt? [key] = some sub := by simp [Schema.branchAt?, hsub]
          rw [hbranch]
          exact get?_assignAll_outputs_of_fields?_eq_none hschema hkey hsub hvalue hscalar
      | cons next more =>
          obtain ⟨inner, hinner, hbelow⟩ := Option.bind_eq_some_iff.mp hvalue
          obtain ⟨object, hobject, hfields⟩ := Option.bind_eq_some_iff.mp hinner
          rw [Json.fields?_eq_some_iff.mp hfields] at hobject
          have hget := get?_assignAll_outputs hschema hkey hsub hobject
          have hbranch : schema.branchAt? (key :: next :: more) = sub.branchAt? (next :: more) := by
            rw [Schema.branchAt?, hsub]
          rw [Json.Fields.lookup, hget, hbranch]
          exact ih (Schema.distinctKeys_of_get? hschema hsub) hbelow
            (Schema.not_prefix_of_branch hschema hsub hpath)

theorem keys_prefix_objectAt?_outputs (hschema : schema.DistinctKeys)
    {subject fields : Json.Fields} {here : FieldPath}
    (hfields : Json.Fields.objectAt? here subject = some fields)
    (hhere : ∀ leaf ∈ schema.leafPaths, ¬ leaf <+: here) :
    ∃ written, Json.Fields.objectAt? here
        (Json.Fields.assignAll subject (schema.outputs subject)) = some written ∧
      Json.Fields.keys fields <+: Json.Fields.keys written := by
  induction here generalizing subject schema with
  | nil =>
      cases hfields
      exact ⟨_, rfl, Json.Fields.keys_prefix_assignAll _ _⟩
  | cons key rest ih =>
      have hkey := Schema.singleton_notMem_leafPaths hhere
      obtain ⟨inner, hinner, hrest⟩ := Option.bind_eq_some_iff.mp hfields
      rcases Schema.get?_eq_none_or_branch hschema hkey with hnone | ⟨sub, hsub⟩
      · have hget := get?_assignAll_outputs_of_none hschema hnone subject
        refine ⟨fields, ?_, List.prefix_refl _⟩
        rw [Json.Fields.objectAt?, hget]
        exact hfields
      · obtain ⟨object, hobject, hfields⟩ := Option.bind_eq_some_iff.mp hinner
        rw [Json.fields?_eq_some_iff.mp hfields] at hobject
        rw [Json.Fields.objectAt?, get?_assignAll_outputs hschema hkey hsub hobject]
        exact ih (Schema.distinctKeys_of_get? hschema hsub) hrest
          (Schema.not_prefix_of_branch hschema hsub hhere)

/-- A value that is no object, at or below no leaf, stays in its place, and it is replaced only
at a branch that some leaf directly in it fills.  Null is never replaced. -/
theorem transform_keeps_unruled {schema : Schema (Transformer ε)} (hschema : schema.DistinctKeys)
    (subject : Json.Fields) {path : FieldPath} {value : Json}
    (hvalue : Json.Fields.lookup path subject = some value) (hscalar : value.fields? = none)
    (hpath : ∀ leaf ∈ schema.leafPaths, ¬ leaf <+: path) :
    let result := (transform subject schema).value.value
    let fillings := ((schema.branchAt? path).map Schema.fillings).getD []
    Json.Fields.lookup path result =
        some (if value.isNull || fillings.isEmpty then value else .obj fillings) ∧
      ∃ fields written, Json.Fields.objectAt? path.dropLast subject = some fields ∧
        Json.Fields.objectAt? path.dropLast result = some written ∧
        Json.Fields.keys fields <+: Json.Fields.keys written := by
  intro result fillings
  have hresult : result = Json.Fields.assignAll subject (schema.outputs subject) :=
    value_transform subject schema
  obtain ⟨fields, hfields⟩ := Json.Fields.exists_objectAt?_of_lookup hvalue
  have hhere : ∀ leaf ∈ schema.leafPaths, ¬ leaf <+: path.dropLast := fun leaf hleaf hleads =>
    hpath leaf hleaf (hleads.trans (List.dropLast_prefix path))
  obtain ⟨written, hwritten, hkeys⟩ := keys_prefix_objectAt?_outputs hschema hfields hhere
  rw [hresult]
  exact ⟨lookup_assignAll_outputs hschema hvalue hscalar hpath,
    fields, written, hfields, hwritten, hkeys⟩

theorem transform_keeps_unruled_beside_branches :
    let schema : Schema (Transformer Unit) :=
      .branch "flat" (.leaf "made" (.single (lateConfirm 2))
        (.branch "deep" (.leaf "never" (.single (lateConfirm 0)) .nil) .nil))
      (.branch "inner" (.branch "list" (.leaf "none" (.single (.raw fun _ => pure (.now none))) .nil)
        (.leaf "new" (.single (lateConfirm 0)) .nil))
      (.branch "gone" (.leaf "never" (.single (lateConfirm 0)) .nil) .nil))
    let subject : Json.Fields :=
      [("flat", .str "s"), ("gone", .null), ("free", .bool false),
        ("inner", .obj [("list", .arr [])])]
    let result := (transform subject schema).value.value
    schema.DistinctKeys ∧
      Json.Fields.lookup ["flat"] result = some (.obj [("made", .bool true)]) ∧
      Json.Fields.lookup ["gone"] result = some .null ∧
      Json.Fields.lookup ["free"] result = some (.bool false) ∧
      Json.Fields.lookup ["inner", "list"] result = some (.arr []) := by
  intro schema subject result
  have hschema : schema.DistinctKeys := by decide
  have hflat : Json.Fields.lookup ["flat"] subject = some (.str "s") := rfl
  have hgone : Json.Fields.lookup ["gone"] subject = some .null := rfl
  have hfree : Json.Fields.lookup ["free"] subject = some (.bool false) := rfl
  have hlist : Json.Fields.lookup ["inner", "list"] subject = some (.arr []) := rfl
  exact ⟨hschema, (transform_keeps_unruled hschema subject hflat rfl (by decide)).1,
    (transform_keeps_unruled hschema subject hgone rfl (by decide)).1,
    (transform_keeps_unruled hschema subject hfree rfl (by decide)).1,
    (transform_keeps_unruled hschema subject hlist rfl (by decide)).1⟩

/-- A string at a branch is replaced when a leaf in the branch makes a value of nothing. -/
theorem not_transform_keeps_unruled :
    ¬ ∀ (schema : Schema (Transformer Unit)) (subject : Json.Fields) (path : FieldPath)
      (value : Json), schema.DistinctKeys → Json.Fields.lookup path subject = some value →
      value.fields? = none → (∀ leaf ∈ schema.leafPaths, ¬ leaf <+: path) →
      Json.Fields.lookup path (transform subject schema).value.value = some value := by
  intro hkeeps
  let fill : Transformer Unit := .raw fun _ => pure (.now (some (.bool true)))
  let schema : Schema (Transformer Unit) := .branch "a" (.leaf "b" (.single fill) .nil) .nil
  have hkept := hkeeps schema [("a", .str "text")] ["a"] (.str "text") (by decide) rfl rfl
    (by decide)
  have hreplaced : Json.Fields.lookup ["a"] (transform [("a", .str "text")] schema).value.value =
      some (.obj [("b", .bool true)]) := rfl
  rw [hreplaced] at hkept
  cases hkept

end SubjectRules
