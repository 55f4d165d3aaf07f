import Mathlib.Data.List.Basic
import SubjectRules.Proofs.Schema.Site
import SubjectRules.Subject

/-!
# Leaves beside a subject

Validation and transformation walk a schema beside a subject and leave out the branches
whose value is missing or null.  Both come to the same leaves, and which leaves these are
does not depend on the rules there.
-/

namespace SubjectRules

variable {ε ρ σ τ : Type}

namespace Schema

/-- The leaves inside no branch that is missing or null, each with its value. -/
def visitsBeside (subject : Json.Fields) (schema : Schema ρ) : List (Visit ρ) :=
  schema.visits (fun _ value => isNothing value) (some subject)

theorem visitsBeside_map (f : ρ → σ) (subject : Json.Fields) (schema : Schema ρ) :
    (schema.map f).visitsBeside subject = (schema.visitsBeside subject).map (Visit.map f) :=
  visits_map f (fun _ _ => rfl) (some subject) schema

theorem exists_eq_map_of_mem_visitsBeside {f : ρ → σ} {subject : Json.Fields} {schema : Schema ρ}
    {visit : Visit σ} (hvisit : visit ∈ (schema.map f).visitsBeside subject) :
    ∃ source : Visit ρ, visit = source.map f := by
  rw [visitsBeside_map, List.mem_map] at hvisit
  obtain ⟨source, -, rfl⟩ := hvisit
  exact ⟨source, rfl⟩

theorem filterMap_visitsBeside {β : Type} (found : Visit ρ → Option β) (subject : Json.Fields)
    (schema : Schema ρ) :
    (schema.visitsBeside subject).filterMap found = schema.sites.filterMap fun site =>
      if site.around.any fun (path, _) => isNothing (Json.Fields.lookup path subject) then none
      else (site.visit? (some subject)).bind found := by
  rw [visitsBeside, visits, reached, List.filterMap_filterMap, List.filterMap_filter]
  refine List.filterMap_congr fun site _ => ?_
  have hopen : site.isOpen (fun _ value => isNothing value) (some subject) =
      !site.around.any fun (path, _) => isNothing (Json.Fields.lookup path subject) := by
    rw [List.not_any_eq_all_not]
    rfl
  rw [hopen]
  cases site.around.any fun (path, _) => isNothing (Json.Fields.lookup path subject) <;> rfl

end Schema

/-! ## Visits entry by entry -/

def Visit.under (key : String) (visit : Visit ρ) : Visit ρ :=
  ⟨key :: visit.path, visit.rules, visit.value⟩

namespace Site

def beside? (subject : Json.Fields) (site : Site ρ) : Option (Visit ρ) :=
  if site.isOpen (fun _ value => isNothing value) (some subject) then site.visit? (some subject)
  else none

variable {sub : Schema ρ} {site : Site ρ}

theorem isOpen_under (hsite : site ∈ sub.sites) (key : String) (subject : Json.Fields) :
    (site.under key sub).isOpen (fun _ value => isNothing value) (some subject) =
      (!isNothing (subject.get? key) &&
        site.isOpen (fun _ value => isNothing value) (some (subject.objectAt key))) := by
  simp only [isOpen, nonePruned, under, List.all_cons, List.all_map]
  congr 1
  rw [Bool.eq_iff_iff, List.all_eq_true, List.all_eq_true]
  refine forall₂_congr fun branch hbranch => ?_
  have hpath := Schema.ne_nil_of_mem_branchPaths
    (Schema.mem_branchPaths_of_mem_around hsite hbranch)
  simp only [Function.comp_apply, valueAt, Option.bind_some, Json.Fields.lookup_cons key hpath]

theorem visit?_under (hsite : site ∈ sub.sites) (key : String) (subject : Json.Fields) :
    (site.under key sub).visit? (some subject) =
      (site.visit? (some (subject.objectAt key))).map (Visit.under key) := by
  cases hnode : site.node with
  | branch inner => simp [visit?, under, hnode]
  | leaf rules =>
      have hpath := Schema.ne_nil_of_mem_leafPaths (Schema.path_mem_leafPaths hsite hnode)
      simp [visit?, under, Visit.under, valueAt, hnode, Json.Fields.lookup_cons key hpath]

theorem beside?_under (hsite : site ∈ sub.sites) (key : String) (subject : Json.Fields) :
    (site.under key sub).beside? subject = if isNothing (subject.get? key) then none
      else (site.beside? (subject.objectAt key)).map (Visit.under key) := by
  rw [beside?, beside?, isOpen_under hsite, visit?_under hsite]
  cases isNothing (subject.get? key) with
  | true => rfl
  | false =>
      cases site.isOpen (fun _ value => isNothing value) (some (subject.objectAt key)) <;> rfl

end Site

namespace Schema

theorem visitsBeside_eq_filterMap (subject : Json.Fields) (schema : Schema ρ) :
    schema.visitsBeside subject = schema.sites.filterMap (Site.beside? subject) := by
  rw [visitsBeside, visits, reached, List.filterMap_filter]
  rfl

def Node.visitsBeside (value : Option Json) : Node ρ → List (Visit ρ)
  | .leaf rules => [⟨[], rules, value⟩]
  | .branch sub =>
      if isNothing value then [] else sub.visitsBeside ((value.bind Json.fields?).getD [])

theorem visitsBeside_cons (key : String) (node : Node ρ) (rest : Schema ρ)
    (subject : Json.Fields) :
    (cons key node rest).visitsBeside subject =
      (node.visitsBeside (subject.get? key)).map (Visit.under key) ++
        rest.visitsBeside subject := by
  rw [visitsBeside_eq_filterMap, visitsBeside_eq_filterMap subject rest]
  cases node with
  | leaf rules => rfl
  | branch sub =>
      have hfirst : Site.beside? subject ⟨[key], .branch sub, []⟩ = none := rfl
      have hsub : sub.sites.filterMap (Site.beside? subject ∘ Site.under key sub) =
          sub.sites.filterMap fun site => if isNothing (subject.get? key) then none
            else (site.beside? (subject.objectAt key)).map (Visit.under key) :=
        List.filterMap_congr fun _ hsite => Site.beside?_under hsite key subject
      rw [cons, sites_branch, List.filterMap_cons_none hfirst, List.filterMap_append,
        List.filterMap_map, hsub, Node.visitsBeside]
      congr 1
      split
      · simp
      · rw [visitsBeside_eq_filterMap, List.map_filterMap]
        rfl

end Schema

theorem Leaf.map_map (f : ρ → σ) (g : σ → τ) (rules : Leaf ρ) :
    (rules.map f).map g = rules.map fun rule => g (f rule) := by
  cases rules <;> simp [Leaf.map, Function.comp_def]

theorem Schema.map_map (f : ρ → σ) (g : σ → τ) (schema : Schema ρ) :
    (schema.map f).map g = schema.map fun rule => g (f rule) := by
  induction schema with
  | nil => rfl
  | leaf key rules rest ih => simp [Schema.map, Leaf.map_map, ih]
  | branch key sub rest ihSub ihRest => simp [Schema.map, ihSub, ihRest]

end SubjectRules
