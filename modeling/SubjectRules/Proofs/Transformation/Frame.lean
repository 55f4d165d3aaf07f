import SubjectRules.Proofs.Schema.Around
import SubjectRules.Proofs.Schema.Branch
import SubjectRules.Proofs.Transformation

/-!
# What a transformation writes and what it leaves

A leaf is active when its rules have an output for the value at its path and no branch around
it is missing or null.  A transformation writes the outputs of the active leaves at their paths
and changes nothing that neither leads to one of them nor lies below one.  The keys of the
subject stay in front, in their order, in every object on the way.
-/

namespace SubjectRules

variable {ε : Type}

/-- The output at a site.  There is none inside a branch that is missing or null. -/
def Site.output? (subject : Json.Fields) (site : Site (Transformer ε)) : Option Json :=
  match site.node with
  | .branch _ => none
  | .leaf rules =>
      if site.around.any fun (path, _) => isNothing (Json.Fields.lookup path subject) then none
      else (Transformer.ofLeaf rules).output (Json.Fields.lookup site.path subject)

def Site.isActive (subject : Json.Fields) (site : Site (Transformer ε)) : Prop :=
  (site.output? subject).isSome

instance (subject : Json.Fields) (site : Site (Transformer ε)) :
    Decidable (site.isActive subject) :=
  inferInstanceAs (Decidable (_ = true))

theorem Site.isActive_iff {subject : Json.Fields} {site : Site (Transformer ε)} :
    site.isActive subject ↔ ∃ value, site.output? subject = some value :=
  Option.isSome_iff_exists

theorem output?_of_leaf {subject : Json.Fields} {site : Site (Transformer ε)}
    {rules : Leaf (Transformer ε)} (hleaf : site.node = .leaf rules) :
    site.output? subject = if site.isShut subject then none
      else (Transformer.ofLeaf rules).output (Json.Fields.lookup site.path subject) := by
  rw [Site.output?, hleaf]
  rfl

/-! ## The outputs of a schema -/

theorem entryAt_transformation (subject : Json.Fields) (visit : Visit (Transformer ε)) :
    (transformation subject).entryAt visit =
      ((Transformer.ofLeaf visit.rules).output visit.value).map (visit.path, ·) := by
  have hanswer : ((transformation subject).answer visit).value =
      (Transformer.ofLeaf visit.rules).output visit.value := rfl
  have hkeeps : (transformation (ε := ε) subject).keeps = fun _ => true := rfl
  rw [Walk.entryAt, hanswer, hkeeps]
  cases (Transformer.ofLeaf visit.rules).output visit.value <;> rfl

namespace Schema

theorem outputs_eq_filterMap (subject : Json.Fields) (schema : Schema (Transformer ε)) :
    schema.outputs subject =
      schema.sites.filterMap fun site => (site.output? subject).map (site.path, ·) := by
  have hvisits : (transformation subject).visits schema = schema.visitsBeside subject := rfl
  rw [← filterMap_entryAt_transformation, hvisits, filterMap_visitsBeside]
  refine List.filterMap_congr fun site _ => ?_
  obtain ⟨path, node, around⟩ := site
  cases node with
  | branch sub => simp [Site.visit?, Site.output?]
  | leaf rules =>
      rw [Site.output?]
      dsimp only
      split
      · rfl
      · exact entryAt_transformation subject ⟨path, rules, Json.Fields.lookup path subject⟩

theorem mem_outputs {subject : Json.Fields} {schema : Schema (Transformer ε)} {path : FieldPath}
    {value : Json} : (path, value) ∈ schema.outputs subject ↔
      ∃ site ∈ schema.sites, site.path = path ∧ site.output? subject = some value := by
  simp only [outputs_eq_filterMap, List.mem_filterMap, Option.map_eq_some_iff, Prod.mk.injEq]
  constructor
  · rintro ⟨site, hsite, _, houtput, hpath, rfl⟩
    exact ⟨site, hsite, hpath, houtput⟩
  · rintro ⟨site, hsite, hpath, houtput⟩
    exact ⟨site, hsite, value, houtput, hpath, rfl⟩

theorem map_fst_outputs_sublist (subject : Json.Fields) (schema : Schema (Transformer ε)) :
    ((schema.outputs subject).map Prod.fst).Sublist schema.leafPaths := by
  rw [outputs_eq_filterMap]
  refine map_fst_filterMap_sites_sublist (fun site sub hnode => ?_) schema
  rw [Site.output?, hnode]

theorem pairwise_incomparable_outputs {schema : Schema (Transformer ε)}
    (hschema : schema.DistinctKeys) (subject : Json.Fields) :
    (schema.outputs subject).Pairwise fun a b => Incomparable a.1 b.1 := by
  have hpaths := schema.map_fst_outputs_sublist subject
  have hpairwise := (pairwise_incomparable_leafPaths hschema).sublist hpaths
  rwa [List.pairwise_map] at hpairwise

theorem mem_leafPaths_of_isActive {subject : Json.Fields} {schema : Schema (Transformer ε)}
    {site : Site (Transformer ε)} (hsite : site ∈ schema.sites)
    (hactive : site.isActive subject) : site.path ∈ schema.leafPaths := by
  obtain ⟨value, houtput⟩ := Site.isActive_iff.mp hactive
  have hentry := mem_outputs.mpr ⟨site, hsite, rfl, houtput⟩
  have hpath := List.mem_map_of_mem (f := Prod.fst) hentry
  exact (schema.map_fst_outputs_sublist subject).mem hpath

theorem outputs_eq_nil {subject : Json.Fields} {schema : Schema (Transformer ε)}
    (hnone : ∀ site ∈ schema.sites, ¬ site.isActive subject) : schema.outputs subject = [] := by
  rw [List.eq_nil_iff_forall_not_mem]
  rintro ⟨path, value⟩ hentry
  obtain ⟨site, hsite, -, houtput⟩ := mem_outputs.mp hentry
  exact hnone site hsite (Site.isActive_iff.mpr ⟨value, houtput⟩)

theorem exists_output_iff {subject : Json.Fields} {schema : Schema (Transformer ε)}
    {property : FieldPath → Prop} :
    (∃ entry ∈ schema.outputs subject, property entry.1) ↔
      ∃ site ∈ schema.sites, site.isActive subject ∧ property site.path := by
  constructor
  · rintro ⟨⟨path, value⟩, hentry, hproperty⟩
    obtain ⟨site, hsite, rfl, houtput⟩ := mem_outputs.mp hentry
    exact ⟨site, hsite, Site.isActive_iff.mpr ⟨value, houtput⟩, hproperty⟩
  · rintro ⟨site, hsite, hactive, hproperty⟩
    obtain ⟨value, houtput⟩ := Site.isActive_iff.mp hactive
    exact ⟨(site.path, value), mem_outputs.mpr ⟨site, hsite, rfl, houtput⟩, hproperty⟩

end Schema

/-! ## The frame -/

/-- A transformation writes the output of every active leaf at its path.  What neither leads to
an active leaf nor lies below one stays as it is, and so does the whole subject when no leaf is
active.  An object on the way to an active leaf keeps its keys in front, in their order, and gets
behind them, in definition order, the keys that it lacks and that lead to active leaves. -/
theorem transform_writes_active_leaves {schema : Schema (Transformer ε)}
    (hschema : schema.DistinctKeys) (subject : Json.Fields) :
    let result := (transform subject schema).value.value
    (∀ site ∈ schema.sites, ∀ value, site.output? subject = some value →
      Json.Fields.lookup site.path result = some value) ∧
    (∀ path, (∀ site ∈ schema.sites, site.isActive subject → Incomparable site.path path) →
      Json.Fields.lookup path result = Json.Fields.lookup path subject) ∧
    ((∀ site ∈ schema.sites, ¬ site.isActive subject) → result = subject) ∧
    ∀ here fields,
      (here = [] ∨ ∃ site ∈ schema.sites,
        site.isActive subject ∧ here <+: site.path ∧ here ≠ site.path) →
      Json.Fields.objectAt? here subject = some fields →
      ∃ sub written, schema.branchAt? here = some sub ∧
        Json.Fields.objectAt? here result = some written ∧
        Json.Fields.keys written = Json.Fields.keys fields ++ sub.keys.filter fun key =>
          key ∉ Json.Fields.keys fields ∧ ∃ site ∈ schema.sites,
            site.isActive subject ∧ here ++ [key] <+: site.path := by
  intro result
  have hresult : result = Json.Fields.assignAll subject (schema.outputs subject) :=
    value_transform subject schema
  have hpaths := schema.map_fst_outputs_sublist subject
  refine ⟨?_, ?_, ?_, ?_⟩
  · intro site hsite value houtput
    have hentry := Schema.mem_outputs.mpr ⟨site, hsite, rfl, houtput⟩
    have hpairwise := (Schema.pairwise_incomparable_leafPaths hschema).sublist hpaths
    rw [List.pairwise_map] at hpairwise
    have hleaf := Schema.mem_leafPaths_of_isActive hsite
      (Site.isActive_iff.mpr ⟨value, houtput⟩)
    rw [hresult]
    exact Json.Fields.lookup_assignAll_of_mem hpairwise (Schema.ne_nil_of_mem_leafPaths hleaf)
      hentry subject
  · intro path hincomparable
    rw [hresult]
    refine Json.Fields.lookup_assignAll_of_incomparable ?_ subject
    rintro ⟨active, value⟩ hentry
    obtain ⟨site, hsite, rfl, houtput⟩ := Schema.mem_outputs.mp hentry
    exact hincomparable site hsite (Site.isActive_iff.mpr ⟨value, houtput⟩)
  · intro hnone
    rw [hresult, Schema.outputs_eq_nil hnone]
    rfl
  · intro here fields hway hfields
    have hbranch : ∃ sub, schema.branchAt? here = some sub := by
      rcases hway with rfl | ⟨site, hsite, hactive, hhere, hne⟩
      · exact ⟨schema, rfl⟩
      · have hleaf := Schema.mem_leafPaths_of_isActive hsite hactive
        exact Schema.exists_branchAt? hschema hleaf hhere hne
    obtain ⟨sub, hsub⟩ := hbranch
    obtain ⟨written, hwritten, hkeys⟩ :=
      Schema.exists_objectAt?_assignAll hschema hpaths hsub hfields
    refine ⟨sub, written, hsub, by rw [hresult]; exact hwritten, ?_⟩
    rw [hkeys]
    congr 1
    refine List.filter_congr fun key _ => ?_
    rw [decide_eq_decide, Schema.exists_output_iff]

def lateConfirm (polls : Nat) : Transformer Unit :=
  .raw fun _ => pure (.later (.after polls (.settled [()] (some (.bool true)))))

theorem transform_writes_active_leaves_nested :
    let schema : Schema (Transformer Unit) :=
      .branch "inner" (.leaf "new" (.single (lateConfirm 2))
        (.leaf "none" (.single (.raw fun _ => pure (.now none)))
          (.leaf "old" (.chain [lateConfirm 1, .raw fun value => pure (.now value)]) .nil)))
      (.branch "flat" (.leaf "deep" (.single (lateConfirm 0)) .nil)
        (.branch "gone" (.leaf "never" (.single (lateConfirm 0)) .nil) .nil))
    let subject : Json.Fields :=
      [("gone", .null), ("flat", .str "s"), ("inner", .obj [("kept", .null), ("old", .null)])]
    let result := (transform subject schema).value.value
    schema.DistinctKeys ∧
      Json.Fields.lookup ["flat", "deep"] result = some (.bool true) ∧
      Json.Fields.lookup ["gone"] result = some .null ∧
      ∃ written, Json.Fields.objectAt? ["inner"] result = some written ∧
        Json.Fields.keys written = ["kept", "old", "new"] := by
  intro schema subject result
  have hschema : schema.DistinctKeys := by decide
  obtain ⟨hwritten, hframe, -, hkeys⟩ := transform_writes_active_leaves hschema subject
  refine ⟨hschema, ?_, ?_, ?_⟩
  · have hdeep := List.get_mem schema.sites ⟨5, by decide⟩
    exact hwritten _ hdeep _ rfl
  · exact hframe ["gone"] (by decide)
  · obtain ⟨sub, written, hsub, hobject, hwrittenKeys⟩ := hkeys ["inner"] _ (by decide) rfl
    cases hsub
    exact ⟨written, hobject, hwrittenKeys.trans (by decide)⟩

end SubjectRules
