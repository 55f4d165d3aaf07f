import SubjectRules.Proofs.Transformation.Frame

/-!
# Transforming twice

When no leaf changes what it has made, a second transformation changes nothing.  It comes to the
same leaves: a branch that was left out is as empty as before, and one that was not leads to
objects now.  It finds at them what the first one wrote, or what that left alone.
-/

namespace SubjectRules

variable {ε ε' : Type}

/-! ## The second transformation -/

section Twice

variable {schema : Schema (Transformer ε)} {subject : Json.Fields}

theorem lookup_of_mem_outputs (hschema : schema.DistinctKeys) {path : FieldPath} {value : Json}
    (hentry : (path, value) ∈ schema.outputs subject) :
    Json.Fields.lookup path (subject.assignAll (schema.outputs subject)) = some value := by
  have hleaf := (schema.map_fst_outputs_sublist subject).mem (List.mem_map_of_mem hentry)
  exact Json.Fields.lookup_assignAll_of_mem (Schema.pairwise_incomparable_outputs hschema subject)
    (Schema.ne_nil_of_mem_leafPaths hleaf) hentry subject

variable {site : Site (Transformer ε)}

theorem exists_leaf_of_output? {value : Json} (houtput : site.output? subject = some value) :
    ∃ rules, site.node = .leaf rules ∧ site.isShut subject = false ∧
      (Transformer.ofLeaf rules).output (Json.Fields.lookup site.path subject) = some value := by
  cases hnode : site.node with
  | branch sub => simp [Site.output?, hnode] at houtput
  | leaf rules =>
      rw [output?_of_leaf hnode] at houtput
      cases hshut : site.isShut subject with
      | true => simp [hshut] at houtput
      | false => exact ⟨rules, rfl, rfl, by simpa [hshut] using houtput⟩

theorem isShut_assignAll (hschema : schema.DistinctKeys) (hsite : site ∈ schema.sites)
    {rules : Leaf (Transformer ε)} (hleaf : site.node = .leaf rules)
    (hshut : site.isShut subject = true) :
    site.isShut (subject.assignAll (schema.outputs subject)) = true := by
  obtain ⟨path, hpath, hnothing⟩ := (isShut_iff hsite).mp hshut
  refine (isShut_iff hsite).mpr ⟨path, hpath, ?_⟩
  rw [Json.Fields.lookup_assignAll_of_incomparable, hnothing]
  rintro ⟨_, value⟩ hentry
  obtain ⟨active, hactive, rfl, houtput⟩ := Schema.mem_outputs.mp hentry
  obtain ⟨others, hothers, hopen, -⟩ := exists_leaf_of_output? houtput
  have hne : active ≠ site := by
    rintro rfl
    rw [hopen] at hshut
    cases hshut
  have hleaves := Schema.incomparable_of_mem_sites hschema hactive hsite hne hothers hleaf
  have habove : ¬ active.path <+: path := fun hleads => hleaves.1 (hleads.trans hpath.1)
  refine ⟨habove, fun hleads => ?_⟩
  -- otherwise the branch would be around the active leaf as well
  have hshut := (isShut_iff hactive).mpr ⟨path, ⟨hleads, hpath.2.1, ?_⟩, hnothing⟩
  · rw [hopen] at hshut
    cases hshut
  · rintro rfl
    exact habove (List.prefix_refl _)

theorem lookup_assignAll_of_output?_eq_none (hschema : schema.DistinctKeys)
    (hsite : site ∈ schema.sites) {rules : Leaf (Transformer ε)} (hleaf : site.node = .leaf rules)
    (houtput : site.output? subject = none) :
    Json.Fields.lookup site.path (subject.assignAll (schema.outputs subject)) =
      Json.Fields.lookup site.path subject := by
  refine Json.Fields.lookup_assignAll_of_incomparable ?_ subject
  rintro ⟨_, value⟩ hentry
  obtain ⟨active, hactive, rfl, hresult⟩ := Schema.mem_outputs.mp hentry
  obtain ⟨others, hothers, -, -⟩ := exists_leaf_of_output? hresult
  refine Schema.incomparable_of_mem_sites hschema hactive hsite ?_ hothers hleaf
  rintro rfl
  rw [houtput] at hresult
  cases hresult

theorem output?_assignAll (hschema : schema.DistinctKeys) (hsite : site ∈ schema.sites)
    (hidem : ∀ leaf ∈ schema.leaves, ∀ value result,
      (Transformer.ofLeaf leaf.2).output value = some result →
        (Transformer.ofLeaf leaf.2).output (some result) = some result) :
    site.output? (subject.assignAll (schema.outputs subject)) = site.output? subject := by
  cases hnode : site.node with
  | branch sub => rw [Site.output?, Site.output?, hnode]
  | leaf rules =>
      have hleaves : schema.sites.filterMap Site.leaf? = schema.leaves :=
        Schema.filterMap_leaf?_sitesFrom [] [] schema
      have hleaf : (site.path, rules) ∈ schema.leaves :=
        hleaves ▸ List.mem_filterMap.mpr ⟨site, hsite, by rw [Site.leaf?, hnode]⟩
      cases houtput : site.output? subject with
      | some value =>
          have hvalue := lookup_of_mem_outputs hschema
            (Schema.mem_outputs.mpr ⟨site, hsite, rfl, houtput⟩)
          have hopen := isShut_eq_false_of_lookup hsite hvalue
          obtain ⟨others, hothers, -, hresult⟩ := exists_leaf_of_output? houtput
          rw [hnode] at hothers
          cases hothers
          rw [output?_of_leaf hnode, hopen, hvalue]
          exact hidem _ hleaf _ _ hresult
      | none =>
          have hsame := lookup_assignAll_of_output?_eq_none hschema hsite hnode houtput
          rw [output?_of_leaf hnode] at houtput ⊢
          cases hshut : site.isShut subject with
          | true => rw [isShut_assignAll hschema hsite hnode hshut, if_pos rfl]
          | false =>
              rw [hshut, if_neg Bool.false_ne_true] at houtput
              rw [hsame, houtput, ite_self]

end Twice

/-- When every leaf leaves alone what it makes, a second transformation changes nothing, not even
the order of the keys, whether or not it defers like the first. -/
theorem transform_transform {schema : Schema (Transformer ε)} {again : Schema (Transformer ε')}
    (hschema : schema.DistinctKeys)
    (hagain : again.map Transformer.output = schema.map Transformer.output)
    (hidem : ∀ leaf ∈ schema.leaves, ∀ value result,
      (Transformer.ofLeaf leaf.2).output value = some result →
        (Transformer.ofLeaf leaf.2).output (some result) = some result)
    (subject : Json.Fields) :
    (transform (transform subject schema).value.value again).value.value =
      (transform subject schema).value.value := by
  have houtputs : schema.outputs (subject.assignAll (schema.outputs subject)) =
      schema.outputs subject := by
    simp only [Schema.outputs_eq_filterMap]
    refine List.filterMap_congr fun site hsite => ?_
    rw [← Schema.outputs_eq_filterMap, output?_assignAll hschema hsite hidem]
  rw [value_transform_congr hagain, value_transform, value_transform, houtputs]
  exact Json.Fields.assignAll_eq_self fun entry hentry => lookup_of_mem_outputs hschema hentry

def lateFill (polls : Nat) (filling : Json) : Transformer Unit :=
  .raw fun value => pure (.later (.after polls (.settled [()] (value.or (some filling)))))

theorem transform_transform_nested :
    let schema (polls : Nat) : Schema (Transformer Unit) :=
      .branch "inner" (.leaf "new" (.single (lateFill polls .null))
        (.leaf "none" (.single (.raw fun _ => pure (.now none)))
          (.leaf "old" (.chain [lateFill polls (.str "s"), lateConfirm 1]) .nil)))
      (.branch "flat" (.leaf "deep" (.single (lateFill polls (.bool false))) .nil)
        (.branch "gone" (.leaf "never" (.single (lateConfirm polls)) .nil) .nil))
    let subject : Json.Fields :=
      [("gone", .null), ("flat", .str "s"), ("inner", .obj [("none", .null), ("old", .null)])]
    let once : Json.Fields :=
      [("gone", .null), ("flat", .obj [("deep", .bool false)]),
        ("inner", .obj [("none", .null), ("old", .bool true), ("new", .null)])]
    (schema 0).DistinctKeys ∧ (transform subject (schema 0)).value.value = once ∧
      (transform once (schema 2)).value.value = once := by
  intro schema subject once
  have hschema : (schema 0).DistinctKeys := by decide
  have honce : (transform subject (schema 0)).value.value = once := by
    rw [value_transform]
    rfl
  have hagain : (schema 2).map Transformer.output = (schema 0).map Transformer.output := rfl
  have htwice := transform_transform hschema hagain ?_ subject
  · rw [honce] at htwice
    exact ⟨hschema, honce, htwice⟩
  intro leaf hleaf value result hresult
  simp only [schema, Schema.leaves, Schema.leavesFrom, List.cons_append, List.nil_append,
    List.mem_cons, List.not_mem_nil, or_false] at hleaf
  rcases hleaf with rfl | rfl | rfl | rfl | rfl
  · rfl
  · cases hresult
  · cases hresult
    rfl
  · rfl
  · cases hresult
    rfl

end SubjectRules
