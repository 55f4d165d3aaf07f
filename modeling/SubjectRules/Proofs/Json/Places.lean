import SubjectRules.Proofs.Schema.Branch
import SubjectRules.Proofs.Schema.Layout

/-!
# Places in depth-first order

The places of a value are the paths at which something lies in it, depth first: each place stands
before the places below it, and these stand in the order of their fields.  Entries at some of the
leaf paths of a schema, assigned to an empty object, are found at its places in their order, and
no other leaf path of the schema is one of them.
-/

namespace SubjectRules

namespace Json

mutual

/-- The places in a value with what lies there, depth first; the first is the value itself. -/
def places : Json → List (FieldPath × Json)
  | .obj fields => ([], .obj fields) :: fieldPlaces fields
  | value => [([], value)]

def fieldPlaces : List (String × Json) → List (FieldPath × Json)
  | [] => []
  | (key, value) :: rest =>
      (places value).map (fun place => (key :: place.1, place.2)) ++ fieldPlaces rest

end

theorem places_of_fields?_eq_none {value : Json} (h : value.fields? = none) :
    value.places = [([], value)] := by
  cases value with
  | obj fields => cases h
  | _ => rw [places]; simp

theorem exists_key_of_mem_fieldPlaces {fields : Fields} {place : FieldPath × Json}
    (hplace : place ∈ fieldPlaces fields) : ∃ key ∈ fields.keys, ∃ rest, place.1 = key :: rest := by
  induction fields with
  | nil =>
      rw [fieldPlaces] at hplace
      cases hplace
  | cons field rest ih =>
      obtain ⟨key, value⟩ := field
      rw [fieldPlaces, List.mem_append, List.mem_map] at hplace
      rcases hplace with ⟨below, -, rfl⟩ | hrest
      · exact ⟨key, List.mem_cons_self, below.1, rfl⟩
      · obtain ⟨other, hother, tail, hpath⟩ := ih hrest
        exact ⟨other, List.mem_cons_of_mem key hother, tail, hpath⟩

theorem filter_places_nil (value : Json) :
    value.places.filter (fun place => place.1 ∈ [([] : FieldPath)]) = [([], value)] := by
  cases hfields : value.fields? with
  | none =>
      rw [places_of_fields?_eq_none hfields]
      rfl
  | some fields =>
      have hbelow : (fieldPlaces fields).filter
          (fun place => place.1 ∈ [([] : FieldPath)]) = [] := by
        refine List.filter_eq_nil_iff.mpr fun place hplace => ?_
        obtain ⟨key, -, rest, hpath⟩ := exists_key_of_mem_fieldPlaces hplace
        simp [hpath]
      rw [fields?_eq_some_iff.mp hfields, places, List.filter_cons_of_pos (by simp), hbelow]

/-! ## Places at leaf paths -/

section Schema

variable {ρ : Type} {key : String} {node : Schema.Node ρ} {rest : Schema ρ}

private theorem filter_fieldPlaces_rest (hs : (Schema.cons key node rest).DistinctKeys)
    {fields : Fields} (hkeys : fields.keys ⊆ rest.keys) :
    (fieldPlaces fields).filter (fun place => place.1 ∈ (Schema.cons key node rest).leafPaths) =
      (fieldPlaces fields).filter fun place => place.1 ∈ rest.leafPaths := by
  obtain ⟨hkey, -, hrest⟩ := Schema.distinctKeys_cons_iff.mp hs
  refine List.filter_congr fun place hplace => ?_
  obtain ⟨other, hother, tail, hpath⟩ := exists_key_of_mem_fieldPlaces hplace
  have hne : key ≠ other := fun hsame => hkey (hsame ▸ hkeys hother)
  rw [decide_eq_decide, hpath, Schema.cons_mem_leafPaths_iff hs,
    Schema.cons_mem_leafPaths_iff hrest, Schema.get?_cons, if_neg hne]

private theorem filter_fieldPlaces_cons (hs : (Schema.cons key node rest).DistinctKeys)
    (value : Json) {fields : Fields} (hkeys : fields.keys ⊆ rest.keys) :
    (fieldPlaces ((key, value) :: fields)).filter
        (fun place => place.1 ∈ (Schema.cons key node rest).leafPaths) =
      (value.places.filter (fun place => place.1 ∈ node.leafPaths)).map
          (fun place => (key :: place.1, place.2)) ++
        (fieldPlaces fields).filter fun place => place.1 ∈ rest.leafPaths := by
  rw [fieldPlaces, List.filter_append, filter_fieldPlaces_rest hs hkeys, List.filter_map]
  congr 2
  refine List.filter_congr fun place _ => ?_
  rw [Function.comp_apply, decide_eq_decide, Schema.cons_mem_leafPaths_iff hs, Schema.get?_cons,
    if_pos rfl]
  simp

theorem filter_fieldPlaces_of_lays {s : Schema ρ} (hs : s.DistinctKeys)
    {entries : List (FieldPath × Json)} {fields : Fields} (h : s.Lays entries fields) :
    (fieldPlaces fields).filter (fun place => place.1 ∈ s.leafPaths) = entries := by
  induction h with
  | nil => rw [fieldPlaces, List.filter_nil]
  | skip key node hrest ih =>
      rw [filter_fieldPlaces_rest hs hrest.keys_subset]
      exact ih (Schema.distinctKeys_cons_iff.mp hs).2.2
  | leaf key rules value hrest ih =>
      have hcons : (Schema.cons key (.leaf rules) _).DistinctKeys := hs
      have hsplit := filter_fieldPlaces_cons hcons value hrest.keys_subset
      rw [Schema.Node.leafPaths, filter_places_nil, ih hs.2] at hsplit
      exact hsplit
  | @branch key sub rest below entries inner fields hne hsub hrest ihSub ihRest =>
      have hcons : (Schema.cons key (.branch sub) rest).DistinctKeys := hs
      have hsplit := filter_fieldPlaces_cons hcons (.obj inner) hrest.keys_subset
      have hself : ([] : FieldPath) ∉ sub.leafPaths := fun hnil =>
        Schema.ne_nil_of_mem_leafPaths hnil rfl
      rw [Schema.Node.leafPaths, places, List.filter_cons_of_neg (by simpa using hself),
        ihSub hs.2.1, ihRest hs.2.2] at hsplit
      exact hsplit

theorem filter_fieldPlaces_assignAll {s : Schema ρ} (hs : s.DistinctKeys)
    {entries : List (FieldPath × Json)} (hpaths : (entries.map Prod.fst).Sublist s.leafPaths) :
    (fieldPlaces (Fields.assignAll [] entries)).filter
      (fun place => place.1 ∈ entries.map Prod.fst) = entries := by
  have hleaves := filter_fieldPlaces_of_lays hs (Schema.lays_assignAll hs hpaths)
  have hboth : (fieldPlaces (Fields.assignAll [] entries)).filter
        (fun place => place.1 ∈ entries.map Prod.fst) =
      ((fieldPlaces (Fields.assignAll [] entries)).filter
        (fun place => place.1 ∈ s.leafPaths)).filter
          (fun place => place.1 ∈ entries.map Prod.fst) := by
    rw [List.filter_filter]
    refine List.filter_congr fun place _ => ?_
    rw [← Bool.decide_and, decide_eq_decide]
    exact (and_iff_left_of_imp fun hentry => hpaths.mem hentry).symm
  rw [hboth, hleaves, List.filter_eq_self]
  exact fun entry hentry => decide_eq_true (List.mem_map_of_mem hentry)

end Schema

end Json

end SubjectRules
