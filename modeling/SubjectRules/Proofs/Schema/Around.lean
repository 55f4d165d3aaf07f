import SubjectRules.Proofs.Json.Lens
import SubjectRules.Proofs.Subject

/-!
# The branches around a site

The branches around a site lie at the paths that lead to it.  A site is shut when one of them is
missing or null, so a value at its path keeps it open.
-/

namespace SubjectRules

variable {ρ : Type}

namespace Schema

theorem exists_path_of_mem_sitesFrom {here : FieldPath} {around : List (FieldPath × Schema ρ)}
    {s : Schema ρ} {site : Site ρ} (hsite : site ∈ s.sitesFrom here around) :
    ∃ key rest, site.path = here ++ key :: rest := by
  induction s generalizing here around with
  | nil => cases hsite
  | leaf key rules rest ih =>
      rcases List.mem_cons.mp hsite with rfl | hrest
      · exact ⟨key, [], rfl⟩
      · exact ih hrest
  | branch key sub rest ihSub ihRest =>
      rcases List.mem_cons.mp hsite with rfl | hbelow
      · exact ⟨key, [], rfl⟩
      rcases List.mem_append.mp hbelow with hsub | hrest
      · obtain ⟨next, more, hpath⟩ := ihSub hsub
        exact ⟨key, next :: more, by rw [hpath, List.append_assoc, List.singleton_append]⟩
      · exact ihRest hrest

theorem exists_mem_around_iff_of_sitesFrom {here : FieldPath}
    {around : List (FieldPath × Schema ρ)} {s : Schema ρ} {site : Site ρ}
    (hsite : site ∈ s.sitesFrom here around) {path : FieldPath} :
    (∃ sub, (path, sub) ∈ site.around) ↔ (∃ sub, (path, sub) ∈ around) ∨
      (path <+: site.path ∧ here.length < path.length ∧ path.length < site.path.length) := by
  -- nothing lies between a path and the one that is longer by a key
  have hlast : ∀ (here : FieldPath) (key : String), ¬ (path <+: here ++ [key] ∧
      here.length < path.length ∧ path.length < (here ++ [key]).length) := by
    rintro here key ⟨-, hlong, hshort⟩
    rw [List.length_append, List.length_singleton] at hshort
    omega
  induction s generalizing here around with
  | nil => cases hsite
  | leaf key rules rest ih =>
      rcases List.mem_cons.mp hsite with rfl | hrest
      · exact (or_iff_left (hlast here key)).symm
      · exact ih hrest
  | branch key sub rest ihSub ihRest =>
      rcases List.mem_cons.mp hsite with rfl | hbelow
      · exact (or_iff_left (hlast here key)).symm
      rcases List.mem_append.mp hbelow with hsub | hrest
      · obtain ⟨next, more, hpath⟩ := exists_path_of_mem_sitesFrom hsub
        have hhere : here ++ [key] <+: site.path := ⟨next :: more, hpath.symm⟩
        refine (ihSub hsub).trans ?_
        simp only [List.mem_append, List.mem_singleton, Prod.mk.injEq, exists_or, exists_and_left,
          exists_eq, and_true, or_assoc]
        refine or_congr_right ⟨?_, ?_⟩
        · rintro (rfl | ⟨hleads, hlong, hshort⟩)
          · refine ⟨hhere, ?_, ?_⟩
            · simp
            · simp [hpath]
          · rw [List.length_append, List.length_singleton] at hlong
            exact ⟨hleads, by omega, hshort⟩
        · rintro ⟨hleads, hlong, hshort⟩
          by_cases hlength : path.length = (here ++ [key]).length
          · have hle := List.prefix_of_prefix_length_le hleads hhere (Nat.le_of_eq hlength)
            exact .inl (hle.eq_of_length hlength)
          · rw [List.length_append, List.length_singleton] at hlength ⊢
            exact .inr ⟨hleads, by omega, hshort⟩
      · exact ihRest hrest

theorem exists_mem_around_iff {s : Schema ρ} {site : Site ρ} (hsite : site ∈ s.sites)
    {path : FieldPath} : (∃ sub, (path, sub) ∈ site.around) ↔
      path <+: site.path ∧ path ≠ [] ∧ path ≠ site.path := by
  rw [exists_mem_around_iff_of_sitesFrom hsite]
  simp only [List.not_mem_nil, exists_false, false_or, List.length_nil, List.length_pos_iff]
  refine and_congr_right fun hleads => and_congr_right fun _ => ?_
  constructor
  · rintro hshort rfl
    exact Nat.lt_irrefl _ hshort
  · intro hne
    exact Nat.lt_of_le_of_ne hleads.length_le fun hlength => hne (hleads.eq_of_length hlength)

end Schema

def Site.isShut (subject : Json.Fields) (site : Site ρ) : Bool :=
  site.around.any fun (path, _) => isNothing (Json.Fields.lookup path subject)

variable {schema : Schema ρ} {subject : Json.Fields} {site : Site ρ}

theorem isShut_iff (hsite : site ∈ schema.sites) :
    site.isShut subject = true ↔ ∃ path, (path <+: site.path ∧ path ≠ [] ∧ path ≠ site.path) ∧
      isNothing (Json.Fields.lookup path subject) = true := by
  simp only [← Schema.exists_mem_around_iff hsite, Site.isShut, List.any_eq_true, Prod.exists,
    exists_and_right]

theorem isShut_eq_false_of_lookup (hsite : site ∈ schema.sites) {value : Json}
    (hvalue : Json.Fields.lookup site.path subject = some value) :
    site.isShut subject = false := by
  rw [Bool.eq_false_iff, ne_eq, isShut_iff hsite]
  rintro ⟨path, ⟨⟨more, hmore⟩, hpath, hne⟩, hnothing⟩
  have hmoreNe : more ≠ [] := by
    rintro rfl
    rw [List.append_nil] at hmore
    exact hne hmore
  rw [← hmore] at hvalue
  obtain ⟨inner, hinner, -⟩ := Json.Fields.exists_object_of_lookup hpath hmoreNe hvalue
  rw [hinner] at hnothing
  cases hnothing

end SubjectRules
