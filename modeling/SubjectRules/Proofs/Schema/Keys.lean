import SubjectRules.Proofs.Json.Path
import SubjectRules.Schema

/-!
# Distinct keys

A schema that is put together by insertions has distinct keys at every level.  Then no
leaf path leads to another, which is why the results of a walk never overwrite each
other.
-/

namespace SubjectRules.Schema

variable {ρ : Type}

def keys (s : Schema ρ) : List String := s.entries.map Prod.fst

/-- The keys at every level are distinct. -/
def DistinctKeys : Schema ρ → Prop
  | .nil => True
  | .leaf key _ rest => key ∉ rest.keys ∧ rest.DistinctKeys
  | .branch key sub rest => key ∉ rest.keys ∧ sub.DistinctKeys ∧ rest.DistinctKeys

instance decidableDistinctKeys : (s : Schema ρ) → Decidable s.DistinctKeys
  | .nil => .isTrue trivial
  | .leaf key _ rest =>
      have := decidableDistinctKeys rest
      inferInstanceAs (Decidable (key ∉ rest.keys ∧ rest.DistinctKeys))
  | .branch key sub rest =>
      have := decidableDistinctKeys sub
      have := decidableDistinctKeys rest
      inferInstanceAs (Decidable (key ∉ rest.keys ∧ sub.DistinctKeys ∧ rest.DistinctKeys))

/-! ## Insertions -/

def Node.DistinctKeys : Node ρ → Prop
  | .leaf _ => True
  | .branch sub => sub.DistinctKeys

@[simp] theorem keys_cons (key : String) (node : Node ρ) (rest : Schema ρ) :
    (cons key node rest).keys = key :: rest.keys := by
  simp [keys]

theorem distinctKeys_cons {key : String} {node : Node ρ} {rest : Schema ρ}
    (hkey : key ∉ rest.keys) (hnode : node.DistinctKeys) (hrest : rest.DistinctKeys) :
    (cons key node rest).DistinctKeys := by
  cases node with
  | leaf rules => exact ⟨hkey, hrest⟩
  | branch sub => exact ⟨hkey, hnode, hrest⟩

theorem mem_keys_insert {s : Schema ρ} {key other : String} {node : Node ρ} :
    other ∈ (s.insert key node).keys ↔ other = key ∨ other ∈ s.keys := by
  unfold insert
  induction s with
  | nil => simp [exchange, keys, entries]
  | leaf k rules rest ih =>
      by_cases h : k = key
      · simp [exchange, h, keys, entries]
      · simp only [exchange, h, if_false]
        simp only [keys, entries, List.map_cons, List.mem_cons] at ih ⊢
        rw [ih, or_left_comm]
  | branch k sub rest _ ih =>
      by_cases h : k = key
      · simp [exchange, h, keys, entries]
      · simp only [exchange, h, if_false]
        simp only [keys, entries, List.map_cons, List.mem_cons] at ih ⊢
        rw [ih, or_left_comm]

theorem distinctKeys_insert {s : Schema ρ} {key : String} {node : Node ρ}
    (hs : s.DistinctKeys) (hnode : node.DistinctKeys) : (s.insert key node).DistinctKeys := by
  induction s with
  | nil => exact distinctKeys_cons (by simp [keys, entries]) hnode trivial
  | leaf k rules rest ih =>
      obtain ⟨hkey, hrest⟩ := hs
      by_cases h : k = key
      · subst h
        simpa [insert, exchange] using distinctKeys_cons hkey hnode hrest
      · have hnew : k ∉ (rest.insert key node).keys := by simp [mem_keys_insert, h, hkey]
        have hinsert : (Schema.leaf k rules rest).insert key node =
            .leaf k rules (rest.insert key node) := by simp [insert, exchange, h]
        rw [hinsert]
        exact ⟨hnew, ih hrest⟩
  | branch k sub rest _ ih =>
      obtain ⟨hkey, hsub, hrest⟩ := hs
      by_cases h : k = key
      · subst h
        simpa [insert, exchange] using distinctKeys_cons hkey hnode hrest
      · have hnew : k ∉ (rest.insert key node).keys := by simp [mem_keys_insert, h, hkey]
        have hinsert : (Schema.branch k sub rest).insert key node =
            .branch k sub (rest.insert key node) := by simp [insert, exchange, h]
        rw [hinsert]
        exact ⟨hnew, hsub, ih hrest⟩

theorem distinctKeys_ofEntries {entries : List (String × Node ρ)}
    (hentries : ∀ entry ∈ entries, entry.2.DistinctKeys) : (ofEntries entries).DistinctKeys := by
  suffices h : ∀ s : Schema ρ, s.DistinctKeys →
      (entries.foldl (fun s entry => s.insert entry.1 entry.2) s).DistinctKeys from h .nil trivial
  intro s hs
  induction entries generalizing s with
  | nil => exact hs
  | cons entry rest ih =>
      exact ih (fun other hother => hentries other (List.mem_cons_of_mem _ hother)) _
        (distinctKeys_insert hs (hentries entry List.mem_cons_self))

theorem keys_map {σ : Type} (f : ρ → σ) (s : Schema ρ) : (s.map f).keys = s.keys := by
  induction s with
  | nil => rfl
  | leaf key rules rest ih => exact congrArg (key :: ·) ih
  | branch key sub rest _ ih => exact congrArg (key :: ·) ih

theorem distinctKeys_map {σ : Type} (f : ρ → σ) {s : Schema ρ} (hs : s.DistinctKeys) :
    (s.map f).DistinctKeys := by
  induction s with
  | nil => trivial
  | leaf key rules rest ih => exact ⟨by rw [keys_map]; exact hs.1, ih hs.2⟩
  | branch key sub rest ihSub ihRest =>
      obtain ⟨hkey, hsub, hrest⟩ := hs
      exact ⟨by rw [keys_map]; exact hkey, ihSub hsub, ihRest hrest⟩

/-! ## Leaf paths -/

theorem leafPaths_leaf (key : String) (rules : Leaf ρ) (rest : Schema ρ) :
    (Schema.leaf key rules rest).leafPaths = [key] :: rest.leafPaths := rfl

theorem map_fst_leavesFrom (here : FieldPath) (s : Schema ρ) :
    (s.leavesFrom here).map Prod.fst = s.leafPaths.map (here ++ ·) := by
  induction s generalizing here with
  | nil => rfl
  | leaf key rules rest ih => rw [leafPaths_leaf, leavesFrom, List.map_cons, List.map_cons, ih]
  | branch key sub rest ihSub ihRest =>
      have hpaths : (Schema.branch key sub rest).leafPaths =
          (sub.leavesFrom [key]).map Prod.fst ++ rest.leafPaths := List.map_append
      rw [hpaths, leavesFrom, List.map_append, List.map_append, ihSub, ihSub, ihRest]
      simp

theorem leafPaths_branch (key : String) (sub rest : Schema ρ) :
    (Schema.branch key sub rest).leafPaths = sub.leafPaths.map (key :: ·) ++ rest.leafPaths := by
  rw [leafPaths, leaves, leavesFrom, List.map_append, map_fst_leavesFrom]
  rfl

theorem leafPaths_map {σ : Type} (f : ρ → σ) (s : Schema ρ) :
    (s.map f).leafPaths = s.leafPaths := by
  induction s with
  | nil => rfl
  | leaf key rules rest ih => rw [map, leafPaths_leaf, leafPaths_leaf, ih]
  | branch key sub rest ihSub ihRest => rw [map, leafPaths_branch, leafPaths_branch, ihSub, ihRest]

theorem exists_key_of_mem_leafPaths {s : Schema ρ} {path : FieldPath} (hpath : path ∈ s.leafPaths) :
    ∃ key ∈ s.keys, ∃ rest, path = key :: rest := by
  induction s with
  | nil => simp [leafPaths, leaves, leavesFrom] at hpath
  | leaf key rules rest ih =>
      rcases List.mem_cons.mp hpath with rfl | hrest
      · exact ⟨key, by simp [keys, entries], [], rfl⟩
      · obtain ⟨other, hother, tail, rfl⟩ := ih hrest
        exact ⟨other, List.mem_cons_of_mem _ hother, tail, rfl⟩
  | branch key sub rest _ ihRest =>
      rw [leafPaths_branch, List.mem_append, List.mem_map] at hpath
      rcases hpath with ⟨tail, -, rfl⟩ | hrest
      · exact ⟨key, by simp [keys, entries], tail, rfl⟩
      · obtain ⟨other, hother, tail, rfl⟩ := ihRest hrest
        exact ⟨other, List.mem_cons_of_mem _ hother, tail, rfl⟩

theorem ne_nil_of_mem_leafPaths {s : Schema ρ} {path : FieldPath} (hpath : path ∈ s.leafPaths) :
    path ≠ [] := by
  obtain ⟨key, -, rest, rfl⟩ := exists_key_of_mem_leafPaths hpath
  exact List.cons_ne_nil key rest

private theorem incomparable_of_notMem_keys {s : Schema ρ} {key : String} (hkey : key ∉ s.keys)
    (below : FieldPath) {path : FieldPath} (hpath : path ∈ s.leafPaths) :
    Incomparable (key :: below) path := by
  obtain ⟨other, hother, rest, rfl⟩ := exists_key_of_mem_leafPaths hpath
  have hne : key ≠ other := fun h => hkey (h ▸ hother)
  exact incomparable_cons_iff.mpr (.inl hne)

theorem pairwise_incomparable_leafPaths {s : Schema ρ} (hs : s.DistinctKeys) :
    s.leafPaths.Pairwise Incomparable := by
  induction s with
  | nil => exact List.Pairwise.nil
  | leaf key rules rest ih =>
      rw [leafPaths_leaf, List.pairwise_cons]
      exact ⟨fun path hpath => incomparable_of_notMem_keys hs.1 [] hpath, ih hs.2⟩
  | branch key sub rest ihSub ihRest =>
      obtain ⟨hkey, hsub, hrest⟩ := hs
      rw [leafPaths_branch, List.pairwise_append, List.pairwise_map]
      refine ⟨(ihSub hsub).imp fun h => incomparable_cons_iff.mpr (.inr h), ihRest hrest, ?_⟩
      intro first hfirst path hpath
      obtain ⟨below, -, rfl⟩ := List.mem_map.mp hfirst
      exact incomparable_of_notMem_keys hkey below hpath

theorem nodup_leafPaths {s : Schema ρ} (hs : s.DistinctKeys) : s.leafPaths.Nodup := by
  refine (pairwise_incomparable_leafPaths hs).imp ?_
  rintro path _ hpath rfl
  exact hpath.1 List.prefix_rfl

end SubjectRules.Schema
