import SubjectRules.Yaml.Basic

/-!
# Mappings in YAML values

Induction on a value goes through the values that it holds.  A mapping without the key `rule`
holds the entries of a nested object.
-/

namespace SubjectRules.Yaml

@[elab_as_elim]
theorem ind {motive : Yaml → Prop} (null : motive .null) (bool : ∀ b, motive (.bool b))
    (num : ∀ n, motive (.num n)) (str : ∀ s, motive (.str s))
    (seq : ∀ items, (∀ item ∈ items, motive item) → motive (.seq items))
    (map : ∀ entries : Mapping, (∀ entry ∈ entries, motive entry.2) → motive (.map entries))
    (tagged : ∀ tag value, motive value → motive (.tagged tag value)) (value : Yaml) :
    motive value := by
  refine value.rec (motive_2 := fun items => ∀ item ∈ items, motive item)
    (motive_3 := fun entries => ∀ entry ∈ entries, motive entry.2)
    (motive_4 := fun entry => motive entry.2) null bool num str seq map tagged ?_ ?_ ?_ ?_ ?_
  · exact List.forall_mem_nil motive
  · intro head tail ihHead ihTail
    exact List.forall_mem_cons.mpr ⟨ihHead, ihTail⟩
  · exact List.forall_mem_nil _
  · intro head tail ihHead ihTail
    exact List.forall_mem_cons.mpr ⟨ihHead, ihTail⟩
  · intro key value _ ihValue
    exact ihValue

namespace Mapping

theorem mem_of_get? {key : String} {entries : Mapping} {value : Yaml}
    (hvalue : entries.get? key = some value) : (.str key, value) ∈ entries := by
  induction entries with
  | nil => cases hvalue
  | cons entry rest ih =>
      obtain ⟨first, written⟩ := entry
      cases first with
      | str name =>
          rw [get?] at hvalue
          split at hvalue
          · rename_i hname
            cases hvalue
            rw [hname]
            exact List.mem_cons_self
          · exact List.mem_cons_of_mem _ (ih hvalue)
      | _ => exact List.mem_cons_of_mem _ (ih hvalue)

end Mapping

/-! ## Nested objects -/

def nested? : Yaml → Option Mapping
  | .map entries => if (Mapping.get? "rule" entries).isNone then some entries else none
  | _ => none

theorem nested?_eq_some_iff {value : Yaml} {entries : Mapping} :
    value.nested? = some entries ↔ value = .map entries ∧ entries.get? "rule" = none := by
  cases value with
  | map other =>
      rw [nested?, map.injEq]
      split
      · rename_i hrule
        rw [Option.isNone_iff_eq_none] at hrule
        rw [Option.some.injEq]
        constructor
        · rintro rfl
          exact ⟨rfl, hrule⟩
        · exact And.left
      · rename_i hrule
        constructor
        · rintro ⟨⟩
        · rintro ⟨rfl, hnone⟩
          simp [hnone] at hrule
  | _ => simp [nested?]

@[elab_as_elim]
theorem Mapping.nestedInduction {motive : Mapping → Prop}
    (step : ∀ entries : Mapping,
      (∀ entry ∈ entries, ∀ inner, entry.2.nested? = some inner → motive inner) → motive entries)
    (entries : Mapping) : motive entries := by
  have hvalue : ∀ (value : Yaml) (inner : Mapping), value.nested? = some inner → motive inner := by
    intro value
    induction value using ind with
    | map entries ih =>
        intro inner hinner
        obtain ⟨heq, -⟩ := nested?_eq_some_iff.mp hinner
        cases heq
        exact step entries ih
    | _ =>
        intro inner hinner
        cases hinner
  exact step entries fun entry _ => hvalue entry.2

/-- No key of a mapping repeats when keys are read as strings, nor does one in its nested
objects. -/
inductive Mapping.DistinctNames : Mapping → Prop
  | intro {entries : Mapping} : (entries.filterMap fun entry => entry.1.text?).Nodup →
      (∀ entry ∈ entries, ∀ inner, entry.2.nested? = some inner → DistinctNames inner) →
        DistinctNames entries

end SubjectRules.Yaml
