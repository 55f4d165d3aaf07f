import SubjectRules.Proofs.Json.Places
import SubjectRules.Walk

/-!
# What a walk writes

Results at paths none of which leads to another are written over the seed without disturbing each
other or anything else in it.  Without a seed nothing but the results and what leads to them is
there, and results at leaf paths of a schema lie in its order.
-/

namespace SubjectRules

namespace Walk

variable {ε ρ α : Type} {w : Walk ε ρ α} {kept : List (FieldPath × α)} {result : Json.Fields}

theorem written_eq_none_iff : w.written kept = none ↔ w.seed = none ∧ kept = [] := by
  rw [written]
  split <;> simp_all

theorem eq_of_written_eq_some (hresult : w.written kept = some result) :
    result = (w.seed.getD []).assignAll (kept.map fun entry => (entry.1, w.encode entry.2)) := by
  rw [written] at hresult
  split at hresult
  · cases hresult
  · exact (Option.some.inj hresult).symm

/-! ## Looking up what was written -/

theorem lookup_written_of_mem (hresult : w.written kept = some result)
    (hpaths : kept.Pairwise fun a b => Incomparable a.1 b.1) {entry : FieldPath × α}
    (hentry : entry ∈ kept) (hne : entry.1 ≠ []) :
    Json.Fields.lookup entry.1 result = some (w.encode entry.2) := by
  have hapart : (kept.map fun entry => (entry.1, w.encode entry.2)).Pairwise
      fun a b => Incomparable a.1 b.1 := List.pairwise_map.mpr hpaths
  rw [eq_of_written_eq_some hresult]
  exact Json.Fields.lookup_assignAll_of_mem hapart hne (List.mem_map_of_mem hentry) _

theorem lookup_written_of_incomparable (hresult : w.written kept = some result)
    {path : FieldPath} (hpath : ∀ entry ∈ kept, Incomparable entry.1 path) :
    Json.Fields.lookup path result = w.seed.bind (Json.Fields.lookup path) := by
  rw [eq_of_written_eq_some hresult,
    Json.Fields.lookup_assignAll_of_incomparable (List.forall_mem_map.mpr hpath)]
  cases w.seed with
  | none => exact Json.Fields.lookup_nil path
  | some seed => rfl

/-! ## Writing without a seed -/

theorem ne_nil_of_written (hseed : w.seed = none) (hresult : w.written kept = some result)
    (hpaths : kept.Pairwise fun a b => Incomparable a.1 b.1)
    (hnonempty : ∀ entry ∈ kept, entry.1 ≠ []) : result ≠ [] := by
  rintro rfl
  cases kept with
  | nil =>
      rw [written_eq_none_iff.mpr ⟨hseed, rfl⟩] at hresult
      cases hresult
  | cons entry rest =>
      have hfound := lookup_written_of_mem hresult hpaths List.mem_cons_self
        (hnonempty entry List.mem_cons_self)
      rw [Json.Fields.lookup_nil] at hfound
      cases hfound

theorem exists_comparable_of_lookup_written (hseed : w.seed = none)
    (hresult : w.written kept = some result) {path : FieldPath} {value : Json}
    (hvalue : Json.Fields.lookup path result = some value) :
    ∃ entry ∈ kept, path <+: entry.1 ∨ entry.1 <+: path := by
  refine Classical.byContradiction fun hnone => ?_
  have hapart : ∀ entry ∈ kept, Incomparable entry.1 path := fun entry hentry =>
    ⟨fun hbelow => hnone ⟨entry, hentry, .inr hbelow⟩,
      fun habove => hnone ⟨entry, hentry, .inl habove⟩⟩
  rw [lookup_written_of_incomparable hresult hapart, hseed] at hvalue
  cases hvalue

theorem exists_at?_of_lookup_written (hseed : w.seed = none)
    (hresult : w.written kept = some result)
    (hpaths : kept.Pairwise fun a b => Incomparable a.1 b.1)
    (hnonempty : ∀ entry ∈ kept, entry.1 ≠ []) {path : FieldPath}
    (hempty : Json.Fields.lookup path result = some (.obj [])) :
    ∃ entry ∈ kept, ∃ more, path = entry.1 ++ more ∧
      Json.at? more (w.encode entry.2) = some (.obj []) := by
  obtain ⟨entry, hentry, hcomparable⟩ := exists_comparable_of_lookup_written hseed hresult hempty
  have hne := hnonempty entry hentry
  have hfound := lookup_written_of_mem hresult hpaths hentry hne
  have hbelow : entry.1 <+: path := by
    rcases hcomparable with ⟨more, hmore⟩ | hbelow
    · cases more with
      | nil => exact ⟨[], by rw [← hmore, List.append_nil, List.append_nil]⟩
      | cons key rest =>
          -- an object above a result has a key
          have hpath : path ≠ [] := by
            rintro rfl
            cases hempty
          rw [← hmore, Json.Fields.lookup_append hpath, hempty] at hfound
          cases hfound
    · exact hbelow
  obtain ⟨more, rfl⟩ := hbelow
  rw [Json.Fields.lookup_append hne, hfound] at hempty
  exact ⟨entry, hentry, more, rfl, hempty⟩

theorem filter_fieldPlaces_written (hseed : w.seed = none)
    (hresult : w.written kept = some result) {σ : Type} {schema : Schema σ}
    (hschema : schema.DistinctKeys) (hpaths : (kept.map Prod.fst).Sublist schema.leafPaths) :
    (Json.fieldPlaces result).filter (fun place => place.1 ∈ kept.map Prod.fst) =
      kept.map fun entry => (entry.1, w.encode entry.2) := by
  have hfst : (kept.map fun entry => (entry.1, w.encode entry.2)).map Prod.fst =
      kept.map Prod.fst := by
    rw [List.map_map]
    rfl
  have hwritten := eq_of_written_eq_some hresult
  rw [hseed, Option.getD_none] at hwritten
  rw [hwritten, ← hfst]
  exact Json.filter_fieldPlaces_assignAll hschema (hfst ▸ hpaths)

/-- Of results at paths none of which leads to another there is no outcome just when there is
neither a seed nor a result.  Otherwise each result is found at its path, and elsewhere is what the
seed has there.  Without a seed a path at which something lies leads to a result or goes on from
one, and an empty object lies in a result, never around one.  Results at leaf paths of a schema are
then met in their order, and each once, when the outcome is read depth first. -/
theorem written_sparse (w : Walk ε ρ α) (kept : List (FieldPath × α))
    (hnonempty : ∀ entry ∈ kept, entry.1 ≠ [])
    (hpaths : kept.Pairwise fun a b => Incomparable a.1 b.1) :
    (w.written kept = none ↔ w.seed = none ∧ kept = []) ∧
      ∀ result, w.written kept = some result →
        (∀ entry ∈ kept, Json.Fields.lookup entry.1 result = some (w.encode entry.2)) ∧
        (∀ path, (∀ entry ∈ kept, Incomparable entry.1 path) →
          Json.Fields.lookup path result = w.seed.bind (Json.Fields.lookup path)) ∧
        (w.seed = none →
          result ≠ [] ∧
          (∀ path value, Json.Fields.lookup path result = some value →
            ∃ entry ∈ kept, path <+: entry.1 ∨ entry.1 <+: path) ∧
          (∀ path, Json.Fields.lookup path result = some (.obj []) →
            ∃ entry ∈ kept, ∃ more, path = entry.1 ++ more ∧
              Json.at? more (w.encode entry.2) = some (.obj [])) ∧
          ∀ (σ : Type) (schema : Schema σ), schema.DistinctKeys →
            (kept.map Prod.fst).Sublist schema.leafPaths →
            (Json.fieldPlaces result).filter (fun place => place.1 ∈ kept.map Prod.fst) =
              kept.map fun entry => (entry.1, w.encode entry.2)) := by
  refine ⟨written_eq_none_iff, fun result hresult => ⟨?_, ?_, ?_⟩⟩
  · intro entry hentry
    exact lookup_written_of_mem hresult hpaths hentry (hnonempty entry hentry)
  · intro path hpath
    exact lookup_written_of_incomparable hresult hpath
  · intro hseed
    refine ⟨ne_nil_of_written hseed hresult hpaths hnonempty, ?_, ?_, ?_⟩
    · intro path value hvalue
      exact exists_comparable_of_lookup_written hseed hresult hvalue
    · intro path hempty
      exact exists_at?_of_lookup_written hseed hresult hpaths hnonempty hempty
    · intro σ schema hschema hsublist
      exact filter_fieldPlaces_written hseed hresult hschema hsublist

theorem written_sparse_nested :
    let w : Walk Unit Unit Json := { ask := fun _ _ => pure (.now none), encode := id }
    let kept : List (FieldPath × Json) :=
      [(["b", "y"], .obj []), (["b", "x"], .null), (["a"], .bool true)]
    let schema : Schema Unit :=
      .branch "b" (.leaf "y" (.single ()) (.leaf "z" (.single ()) (.leaf "x" (.single ()) .nil)))
        (.branch "c" (.leaf "z" (.single ()) .nil) (.leaf "a" (.chain [()]) .nil))
    schema.DistinctKeys ∧ (kept.map Prod.fst).Sublist schema.leafPaths ∧
    ∃ result, w.written kept = some result ∧
      (∀ entry ∈ kept, Json.Fields.lookup entry.1 result = some entry.2) ∧
      Json.Fields.lookup ["b", "z"] result = none ∧ Json.Fields.lookup ["c"] result = none ∧
      (Json.fieldPlaces result).filter (fun place => place.1 ∈ kept.map Prod.fst) = kept := by
  intro w kept schema
  have hsome : w.written kept ≠ none := by
    rw [ne_eq, written_eq_none_iff]
    rintro ⟨-, hkept⟩
    exact List.cons_ne_nil _ _ hkept
  obtain ⟨result, hresult⟩ := Option.ne_none_iff_exists'.mp hsome
  obtain ⟨-, hwritten⟩ := written_sparse w kept (by decide) (by decide)
  obtain ⟨hfound, helsewhere, hunseeded⟩ := hwritten result hresult
  obtain ⟨-, -, -, hordered⟩ := hunseeded rfl
  have hschema : schema.DistinctKeys := by decide
  have hsublist : (kept.map Prod.fst).Sublist schema.leafPaths := by decide
  exact ⟨hschema, hsublist, result, hresult, hfound, helsewhere ["b", "z"] (by decide),
    helsewhere ["c"] (by decide), hordered Unit schema hschema hsublist⟩

end Walk

end SubjectRules
