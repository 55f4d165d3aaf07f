import SubjectRules.Proofs.Schema.Keys

/-!
# Entries laid out by a schema

Entries at some of the leaf paths of a schema, assigned in order to an empty object, make an
object that is laid out like the schema: it has the keys under which there are entries, in
definition order, and at each the value of its entry or the object that the entries below make.
-/

namespace SubjectRules.Schema

open Json

variable {ρ : Type}

/-- The objects that entries at leaf paths of a schema make.  Keys without entries are left out,
so no object below is empty unless an entry holds it. -/
inductive Lays : Schema ρ → List (FieldPath × Json) → Fields → Prop
  | nil : Lays .nil [] []
  | skip (key : String) (node : Node ρ) {rest : Schema ρ} {entries : List (FieldPath × Json)}
      {fields : Fields} (hrest : Lays rest entries fields) :
      Lays (cons key node rest) entries fields
  | leaf (key : String) (rules : Leaf ρ) (value : Json) {rest : Schema ρ}
      {entries : List (FieldPath × Json)} {fields : Fields} (hrest : Lays rest entries fields) :
      Lays (.leaf key rules rest) (([key], value) :: entries) ((key, value) :: fields)
  | branch (key : String) {sub rest : Schema ρ} {below entries : List (FieldPath × Json)}
      {inner fields : Fields} (hne : below ≠ []) (hsub : Lays sub below inner)
      (hrest : Lays rest entries fields) :
      Lays (.branch key sub rest)
        (below.map (fun entry => (key :: entry.1, entry.2)) ++ entries)
        ((key, .obj inner) :: fields)

theorem Lays.keys_subset {s : Schema ρ} {entries : List (FieldPath × Json)} {fields : Fields}
    (h : s.Lays entries fields) : fields.keys ⊆ s.keys := by
  induction h with
  | nil => exact List.nil_subset _
  | skip key node hrest ih =>
      rw [keys_cons]
      exact List.Subset.trans ih (List.subset_cons_self key _)
  | leaf key rules value hrest ih => exact List.cons_subset_cons key ih
  | branch key hne hsub hrest ihSub ihRest => exact List.cons_subset_cons key ihRest

/-! ## Assigning in definition order -/

private theorem assignAll_behind {rest : Schema ρ} {key : String} (hkey : key ∉ rest.keys)
    {entries : List (FieldPath × Json)} (hpaths : (entries.map Prod.fst).Sublist rest.leafPaths)
    (value : Json) :
    Fields.assignAll [(key, value)] entries = (key, value) :: Fields.assignAll [] entries := by
  have hnew : ∀ entry ∈ entries, ∀ first ∈ entry.1.head?, first ∉ Fields.keys [(key, value)] := by
    intro entry hentry first hfirst
    have hmem := hpaths.mem (List.mem_map_of_mem hentry)
    obtain ⟨other, hother, below, heq⟩ := exists_key_of_mem_leafPaths hmem
    have hsame : other = first := by simpa [heq] using hfirst
    simp only [Fields.keys, List.map_cons, List.map_nil, List.mem_singleton]
    exact fun hfirst => hkey (hfirst ▸ hsame ▸ hother)
  exact Fields.assignAll_append hnew []

private theorem exists_below {key : String} {paths : List FieldPath}
    {entries : List (FieldPath × Json)}
    (hpaths : (entries.map Prod.fst).Sublist (paths.map (key :: ·))) :
    ∃ below : List (FieldPath × Json), (below.map Prod.fst).Sublist paths ∧
      entries = below.map fun entry => (key :: entry.1, entry.2) := by
  obtain ⟨tails, htails, heq⟩ := List.sublist_map_iff.mp hpaths
  refine ⟨entries.map fun entry => (entry.1.tail, entry.2), ?_, ?_⟩
  · have htail := congrArg (List.map List.tail) heq
    simp only [List.map_map, Function.comp_def, List.tail_cons, List.map_id'] at htail ⊢
    rwa [htail]
  · rw [List.map_map]
    refine (List.map_id' entries).symm.trans (List.map_congr_left fun entry hentry => ?_)
    have hmem : entry.1 ∈ tails.map (key :: ·) := heq ▸ List.mem_map_of_mem hentry
    obtain ⟨tail, -, hcons⟩ := List.mem_map.mp hmem
    obtain ⟨path, value⟩ := entry
    subst hcons
    rfl

theorem lays_assignAll {s : Schema ρ} (hs : s.DistinctKeys)
    {entries : List (FieldPath × Json)} (hpaths : (entries.map Prod.fst).Sublist s.leafPaths) :
    s.Lays entries (Fields.assignAll [] entries) := by
  induction s generalizing entries with
  | nil =>
      have hnil : entries = [] := by simpa [leafPaths, leaves, leavesFrom] using hpaths
      rw [hnil]
      exact .nil
  | leaf key rules rest ih =>
      obtain ⟨hkey, hrest⟩ := hs
      rw [leafPaths_leaf, List.sublist_cons_iff] at hpaths
      rcases hpaths with hpaths | ⟨paths, heq, hpaths⟩
      · exact .skip key (.leaf rules) (ih hrest hpaths)
      · obtain ⟨⟨path, value⟩, others, rfl, rfl, rfl⟩ := List.map_eq_cons_iff.mp heq
        change Lays _ _ (Fields.assignAll [(key, value)] others)
        rw [assignAll_behind hkey hpaths]
        exact .leaf key rules value (ih hrest hpaths)
  | branch key sub rest ihSub ihRest =>
      obtain ⟨hkey, hsub, hrest⟩ := hs
      rw [leafPaths_branch, List.sublist_append_iff] at hpaths
      obtain ⟨front, back, heq, hfront, hback⟩ := hpaths
      obtain ⟨inner, others, rfl, rfl, rfl⟩ := List.map_eq_append_iff.mp heq
      obtain ⟨below, hbelow, rfl⟩ := exists_below hfront
      by_cases hne : below = []
      · -- a branch without entries leaves no object behind
        rw [hne]
        exact .skip key (.branch sub) (ihRest hrest hback)
      · have hnonempty : ∀ entry ∈ below, entry.1 ≠ [] := fun entry hentry =>
          ne_nil_of_mem_leafPaths (hbelow.mem (List.mem_map_of_mem hentry))
        have hfirst := Fields.assignAll_nil_below key hne hnonempty
        have hsplit : Fields.assignAll []
            (below.map (fun entry => (key :: entry.1, entry.2)) ++ others) =
            Fields.assignAll [(key, .obj (Fields.assignAll [] below))] others := by
          rw [← hfirst]
          exact List.foldl_append
        rw [hsplit, assignAll_behind hkey hback]
        exact .branch key hne (ihSub hsub hbelow) (ihRest hrest hback)

end SubjectRules.Schema
