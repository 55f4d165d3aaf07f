import Mathlib.Data.List.Pairwise
import SubjectRules.Proofs.Schema.Keys

/-!
# The sites of a schema

A site is a leaf or a branch of a schema, together with its path and the branches it
lies in.  The sites in traversal order are all that a walk can come by.  A walk
reaches those that no pruned branch encloses, and visits the leaves among them, each
beside the value that lies at its path in the related object.
-/

namespace SubjectRules

variable {ρ σ : Type}

/-- A leaf or a branch, where it lies, and the branches around it, outermost first. -/
structure Site (ρ : Type) where
  path : FieldPath
  node : Schema.Node ρ
  around : List (FieldPath × Schema ρ)

structure Visit (ρ : Type) where
  path : FieldPath
  rules : Leaf ρ
  value : Option Json

def valueAt (related : Option Json.Fields) (path : FieldPath) : Option Json :=
  related.bind (Json.Fields.lookup path)

theorem valueAt_cons_cons (related : Option Json.Fields) (key next : String) (rest : FieldPath) :
    valueAt related (key :: next :: rest) =
      valueAt ((related.bind (·.get? key)).bind Json.fields?) (next :: rest) := by
  cases related <;> rfl

def nonePruned (prune : Schema ρ → Option Json → Bool) (related : Option Json.Fields)
    (branches : List (FieldPath × Schema ρ)) : Bool :=
  branches.all fun (path, sub) => !prune sub (valueAt related path)

theorem nonePruned_concat (prune : Schema ρ → Option Json → Bool) (related : Option Json.Fields)
    (branches : List (FieldPath × Schema ρ)) (path : FieldPath) (sub : Schema ρ) :
    nonePruned prune related (branches ++ [(path, sub)]) =
      (nonePruned prune related branches && !prune sub (valueAt related path)) := by
  simp [nonePruned]

namespace Site

def leaf? (site : Site ρ) : Option (FieldPath × Leaf ρ) :=
  match site.node with
  | .leaf rules => some (site.path, rules)
  | .branch _ => none

def visit? (related : Option Json.Fields) (site : Site ρ) : Option (Visit ρ) :=
  match site.node with
  | .leaf rules => some ⟨site.path, rules, valueAt related site.path⟩
  | .branch _ => none

def branch? (related : Option Json.Fields) (site : Site ρ) : Option (Schema ρ × Option Json) :=
  match site.node with
  | .leaf _ => none
  | .branch sub => some (sub, valueAt related site.path)

def isOpen (prune : Schema ρ → Option Json → Bool) (related : Option Json.Fields)
    (site : Site ρ) : Bool :=
  nonePruned prune related site.around

def map (f : ρ → σ) (site : Site ρ) : Site σ where
  path := site.path
  node := match site.node with
    | .leaf rules => .leaf (rules.map f)
    | .branch sub => .branch (sub.map f)
  around := site.around.map fun (path, sub) => (path, sub.map f)

def under (key : String) (sub : Schema ρ) (site : Site ρ) : Site ρ where
  path := key :: site.path
  node := site.node
  around := ([key], sub) :: site.around.map fun (path, inner) => (key :: path, inner)

end Site

def Visit.map (f : ρ → σ) (visit : Visit ρ) : Visit σ :=
  ⟨visit.path, visit.rules.map f, visit.value⟩

namespace Schema

def sitesFrom (here : FieldPath) (around : List (FieldPath × Schema ρ)) :
    Schema ρ → List (Site ρ)
  | .nil => []
  | .leaf key rules rest => ⟨here ++ [key], .leaf rules, around⟩ :: sitesFrom here around rest
  | .branch key sub rest =>
      ⟨here ++ [key], .branch sub, around⟩ ::
        (sitesFrom (here ++ [key]) (around ++ [(here ++ [key], sub)]) sub ++
          sitesFrom here around rest)

/-- The sites in traversal order: a branch before what it holds. -/
def sites (s : Schema ρ) : List (Site ρ) := s.sitesFrom [] []

theorem sitesFrom_under (key : String) (top : Schema ρ) (here : FieldPath)
    (around : List (FieldPath × Schema ρ)) (s : Schema ρ) :
    s.sitesFrom (key :: here)
        (([key], top) :: around.map fun (path, inner) => (key :: path, inner)) =
      (s.sitesFrom here around).map (Site.under key top) := by
  induction s generalizing here around with
  | nil => rfl
  | leaf next rules rest ih => simp [sitesFrom, Site.under, ih]
  | branch next sub rest ihSub ihRest =>
      have hsub := ihSub (here ++ [next]) (around ++ [(here ++ [next], sub)])
      simp only [List.map_append, List.map_cons, List.map_nil] at hsub
      simp [sitesFrom, Site.under, hsub, ihRest]

theorem sites_branch (key : String) (sub rest : Schema ρ) :
    (Schema.branch key sub rest).sites =
      ⟨[key], .branch sub, []⟩ :: (sub.sites.map (Site.under key sub) ++ rest.sites) := by
  have hsub := sitesFrom_under key sub [] [] sub
  rw [List.map_nil] at hsub
  rw [sites, sitesFrom, List.nil_append, List.nil_append, hsub]
  rfl

def branchPaths : Schema ρ → List FieldPath
  | .nil => []
  | .leaf _ _ rest => rest.branchPaths
  | .branch key sub rest => [key] :: (sub.branchPaths.map (key :: ·) ++ rest.branchPaths)

def reached (prune : Schema ρ → Option Json → Bool) (related : Option Json.Fields)
    (s : Schema ρ) : List (Site ρ) :=
  s.sites.filter (Site.isOpen prune related)

/-- The leaves that no pruned branch encloses, each with its value. -/
def visits (prune : Schema ρ → Option Json → Bool) (related : Option Json.Fields)
    (s : Schema ρ) : List (Visit ρ) :=
  (s.reached prune related).filterMap (Site.visit? related)

theorem filterMap_leaf?_sitesFrom (here : FieldPath) (around : List (FieldPath × Schema ρ))
    (s : Schema ρ) : (s.sitesFrom here around).filterMap Site.leaf? = s.leavesFrom here := by
  induction s generalizing here around with
  | nil => rfl
  | leaf key rules rest ih => simp [sitesFrom, leavesFrom, Site.leaf?, ih]
  | branch key sub rest ihSub ihRest =>
      rw [sitesFrom, List.filterMap_cons_none rfl, List.filterMap_append, ihSub, ihRest]
      rfl

theorem map_fst_filterMap_sites_sublist {β : Type} {found : Site ρ → Option β}
    (hbranch : ∀ site sub, site.node = .branch sub → found site = none) (s : Schema ρ) :
    ((s.sites.filterMap fun site => (found site).map (site.path, ·)).map Prod.fst).Sublist
      s.leafPaths := by
  have hleaves : s.sites.filterMap Site.leaf? = s.leaves := filterMap_leaf?_sitesFrom [] [] s
  rw [leafPaths, ← hleaves]
  induction s.sites with
  | nil => exact List.Sublist.slnil
  | cons site rest ih =>
      rw [List.filterMap_cons, List.filterMap_cons, Site.leaf?]
      cases hnode : site.node with
      | branch sub =>
          rw [hbranch site sub hnode]
          exact ih
      | leaf rules =>
          cases found site with
          | none => exact List.Sublist.cons site.path ih
          | some value => exact List.Sublist.cons_cons site.path ih

theorem around_prefix_of_mem_sitesFrom {here : FieldPath}
    {around : List (FieldPath × Schema ρ)} {s : Schema ρ} {site : Site ρ}
    (hsite : site ∈ s.sitesFrom here around) : around <+: site.around := by
  induction s generalizing here around with
  | nil => simp [sitesFrom] at hsite
  | leaf key rules rest ih =>
      rcases List.mem_cons.mp hsite with rfl | hrest
      · exact List.prefix_refl _
      · exact ih hrest
  | branch key sub rest ihSub ihRest =>
      rcases List.mem_cons.mp hsite with rfl | hbelow
      · exact List.prefix_refl _
      rcases List.mem_append.mp hbelow with hsub | hrest
      · exact (List.prefix_append _ _).trans (ihSub hsub)
      · exact ihRest hrest

theorem mem_around_or_branch_of_mem_sitesFrom {here : FieldPath}
    {around : List (FieldPath × Schema ρ)} {s : Schema ρ} {site : Site ρ}
    (hsite : site ∈ s.sitesFrom here around) {branch : FieldPath × Schema ρ}
    (hbranch : branch ∈ site.around) :
    branch ∈ around ∨ ∃ path ∈ s.branchPaths, branch.1 = here ++ path := by
  induction s generalizing here around with
  | nil => simp [sitesFrom] at hsite
  | leaf key rules rest ih =>
      rcases List.mem_cons.mp hsite with rfl | hrest
      · exact .inl hbranch
      · exact ih hrest
  | branch key sub rest ihSub ihRest =>
      rcases List.mem_cons.mp hsite with rfl | hbelow
      · exact .inl hbranch
      rcases List.mem_append.mp hbelow with hsub | hrest
      · rcases ihSub hsub with hout | ⟨path, hpath, heq⟩
        · rcases List.mem_append.mp hout with hout | hlast
          · exact .inl hout
          · exact .inr ⟨[key], List.mem_cons_self, by rw [List.mem_singleton.mp hlast]⟩
        · have hmem : key :: path ∈ (Schema.branch key sub rest).branchPaths :=
            List.mem_cons_of_mem _ (List.mem_append_left _ (List.mem_map_of_mem hpath))
          exact .inr ⟨key :: path, hmem, by rw [heq, List.append_assoc, List.singleton_append]⟩
      · rcases ihRest hrest with hout | ⟨path, hpath, heq⟩
        · exact .inl hout
        · have hmem : path ∈ (Schema.branch key sub rest).branchPaths :=
            List.mem_cons_of_mem _ (List.mem_append_right _ hpath)
          exact .inr ⟨path, hmem, heq⟩

theorem mem_branchPaths_of_mem_around {s : Schema ρ} {site : Site ρ} (hsite : site ∈ s.sites)
    {branch : FieldPath × Schema ρ} (hbranch : branch ∈ site.around) :
    branch.1 ∈ s.branchPaths := by
  rcases mem_around_or_branch_of_mem_sitesFrom hsite hbranch with hout | ⟨path, hpath, heq⟩
  · cases hout
  · rw [heq]
    exact hpath

theorem ne_nil_of_mem_branchPaths {s : Schema ρ} {path : FieldPath}
    (hpath : path ∈ s.branchPaths) : path ≠ [] := by
  induction s with
  | nil => cases hpath
  | leaf key rules rest ih => exact ih hpath
  | branch key sub rest _ ih =>
      rcases List.mem_cons.mp hpath with rfl | hbelow
      · exact List.cons_ne_nil key []
      rcases List.mem_append.mp hbelow with hsub | hrest
      · obtain ⟨tail, -, rfl⟩ := List.mem_map.mp hsub
        exact List.cons_ne_nil key tail
      · exact ih hrest

theorem path_mem_leafPaths {s : Schema ρ} {site : Site ρ} (hsite : site ∈ s.sites)
    {rules : Leaf ρ} (hleaf : site.node = .leaf rules) : site.path ∈ s.leafPaths := by
  have hleaves : s.sites.filterMap Site.leaf? = s.leaves := filterMap_leaf?_sitesFrom [] [] s
  have hfound : site.leaf? = some (site.path, rules) := by rw [Site.leaf?, hleaf]
  rw [leafPaths, ← hleaves]
  exact List.mem_map_of_mem (List.mem_filterMap.mpr ⟨site, hsite, hfound⟩)

theorem incomparable_of_mem_sites {s : Schema ρ} (hs : s.DistinctKeys) {a b : Site ρ}
    (ha : a ∈ s.sites) (hb : b ∈ s.sites) (hne : a ≠ b) {rules others : Leaf ρ}
    (hrules : a.node = .leaf rules) (hothers : b.node = .leaf others) :
    Incomparable a.path b.path := by
  have hpaths := pairwise_incomparable_leafPaths hs
  have hleaves : s.sites.filterMap Site.leaf? = s.leaves := filterMap_leaf?_sitesFrom [] [] s
  rw [leafPaths, ← hleaves, List.pairwise_map, List.pairwise_filterMap] at hpaths
  have hsymm : Std.Symm fun a b : Site ρ => ∀ x, a.leaf? = some x → ∀ y, b.leaf? = some y →
      Incomparable x.1 y.1 := ⟨fun a b h y hy x hx => (h x hx y hy).symm⟩
  have hleaf : ∀ {site : Site ρ} {rules : Leaf ρ}, site.node = .leaf rules →
      site.leaf? = some (site.path, rules) := by
    intro site rules hnode
    rw [Site.leaf?, hnode]
  exact hpaths.forall ha hb hne _ (hleaf hrules) _ (hleaf hothers)

/-! ## Replacing the rules -/

theorem sitesFrom_map (f : ρ → σ) (here : FieldPath) (around : List (FieldPath × Schema ρ))
    (s : Schema ρ) :
    (s.map f).sitesFrom here (around.map fun (path, sub) => (path, sub.map f)) =
      (s.sitesFrom here around).map (Site.map f) := by
  induction s generalizing here around with
  | nil => rfl
  | leaf key rules rest ih => simp [sitesFrom, Schema.map, Site.map, ih]
  | branch key sub rest ihSub ihRest =>
      have hsub := ihSub (here ++ [key]) (around ++ [(here ++ [key], sub)])
      simp only [List.map_append, List.map_cons, List.map_nil] at hsub
      simp [sitesFrom, Schema.map, Site.map, hsub, ihRest]

theorem visits_map (f : ρ → σ) {prune : Schema ρ → Option Json → Bool}
    {prune' : Schema σ → Option Json → Bool}
    (hprune : ∀ sub value, prune sub value = prune' (sub.map f) value)
    (related : Option Json.Fields) (s : Schema ρ) :
    (s.map f).visits prune' related = (s.visits prune related).map (Visit.map f) := by
  have hsites : (s.map f).sites = s.sites.map (Site.map f) := sitesFrom_map f [] [] s
  have hopen : Site.isOpen prune' related ∘ Site.map f = Site.isOpen prune related := by
    funext site
    simp [Site.isOpen, nonePruned, Site.map, hprune, Function.comp_def]
  have hvisit : Site.visit? related ∘ Site.map f =
      fun site => (Site.visit? related site).map (Visit.map f) := by
    funext ⟨path, node, around⟩
    cases node <;> rfl
  simp only [visits, reached, hsites, List.filter_map, hopen, List.filterMap_map, hvisit,
    List.map_filterMap]

end Schema

end SubjectRules
