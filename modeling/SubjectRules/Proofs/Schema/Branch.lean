import SubjectRules.Proofs.Json.KeyOrder
import SubjectRules.Proofs.Schema.Keys

/-!
# The branches of a schema

A path that leads through branches alone ends in the schema of a nested object.  The leaf
paths of that schema are the leaf paths of the whole that go on from there.  So entries at
some leaf paths, assigned to an object, add to each object on their way the keys that it
lacks, in definition order.
-/

namespace SubjectRules

open Json.Fields

variable {ρ : Type}

namespace Schema

@[elab_as_elim]
theorem entryInduction {motive : Schema ρ → Prop} (nil : motive .nil)
    (cons : ∀ key node rest, motive rest → motive (cons key node rest)) (s : Schema ρ) :
    motive s := by
  induction s with
  | nil => exact nil
  | leaf key rules rest ih => exact cons key (.leaf rules) rest ih
  | branch key sub rest _ ih => exact cons key (.branch sub) rest ih

def Node.leafPaths : Node ρ → List FieldPath
  | .leaf _ => [[]]
  | .branch sub => sub.leafPaths

theorem leafPaths_cons (key : String) (node : Node ρ) (rest : Schema ρ) :
    (cons key node rest).leafPaths = node.leafPaths.map (key :: ·) ++ rest.leafPaths := by
  cases node with
  | leaf rules => exact leafPaths_leaf key rules rest
  | branch sub => exact leafPaths_branch key sub rest

theorem distinctKeys_cons_iff {key : String} {node : Node ρ} {rest : Schema ρ} :
    (cons key node rest).DistinctKeys ↔
      key ∉ rest.keys ∧ node.DistinctKeys ∧ rest.DistinctKeys := by
  cases node <;> simp [cons, DistinctKeys, Node.DistinctKeys]

theorem get?_eq_none_iff {s : Schema ρ} {key : String} : s.get? key = none ↔ key ∉ s.keys := by
  induction s using entryInduction with
  | nil => simp [get?, keys, entries]
  | cons first node rest ih =>
      by_cases hfirst : first = key
      · simp [hfirst]
      · simp [hfirst, Ne.symm hfirst, ih]

theorem distinctKeys_of_get? {s : Schema ρ} (hs : s.DistinctKeys) {key : String} {node : Node ρ}
    (hnode : s.get? key = some node) : node.DistinctKeys := by
  induction s using entryInduction with
  | nil => cases hnode
  | cons first other rest ih =>
      obtain ⟨-, hother, hrest⟩ := distinctKeys_cons_iff.mp hs
      rw [get?_cons] at hnode
      split at hnode
      · cases hnode
        exact hother
      · exact ih hrest hnode

theorem filterMap_restAfter?_leafPaths {s : Schema ρ} (hs : s.DistinctKeys) (key : String) :
    s.leafPaths.filterMap (restAfter? key) = ((s.get? key).map Node.leafPaths).getD [] := by
  induction s using entryInduction with
  | nil => rfl
  | cons first node rest ih =>
      obtain ⟨hfirst, -, hrest⟩ := distinctKeys_cons_iff.mp hs
      rw [leafPaths_cons, List.filterMap_append, List.filterMap_map, ih hrest, get?_cons]
      by_cases hkey : first = key
      · subst hkey
        rw [get?_eq_none_iff.mpr hfirst]
        simp [restAfter?, Function.comp_def]
      · simp [restAfter?, Function.comp_def, hkey]

theorem cons_mem_leafPaths_iff {s : Schema ρ} (hs : s.DistinctKeys) {key : String}
    {rest : FieldPath} :
    key :: rest ∈ s.leafPaths ↔ ∃ node, s.get? key = some node ∧ rest ∈ node.leafPaths := by
  have hmem : rest ∈ s.leafPaths.filterMap (restAfter? key) ↔ key :: rest ∈ s.leafPaths := by
    simp [restAfter?_eq_some_iff]
  rw [← hmem, filterMap_restAfter?_leafPaths hs]
  cases s.get? key <;> simp

/-! ## Keys on a path that leads to no leaf -/

theorem singleton_notMem_leafPaths {s : Schema ρ} {key : String} {rest : FieldPath}
    (hpath : ∀ leaf ∈ s.leafPaths, ¬ leaf <+: key :: rest) : [key] ∉ s.leafPaths :=
  fun hleaf => hpath [key] hleaf ((List.prefix_cons_inj key).mpr List.nil_prefix)

theorem get?_eq_none_or_branch {s : Schema ρ} (hs : s.DistinctKeys) {key : String}
    (hkey : [key] ∉ s.leafPaths) :
    s.get? key = none ∨ ∃ sub, s.get? key = some (.branch sub) := by
  rcases hnode : s.get? key with _ | (rules | sub)
  · exact .inl rfl
  · exact absurd ((cons_mem_leafPaths_iff hs).mpr ⟨_, hnode, List.mem_singleton_self []⟩) hkey
  · exact .inr ⟨sub, rfl⟩

theorem not_prefix_of_branch {s sub : Schema ρ} (hs : s.DistinctKeys) {key : String}
    (hsub : s.get? key = some (.branch sub)) {rest : FieldPath}
    (hpath : ∀ leaf ∈ s.leafPaths, ¬ leaf <+: key :: rest) :
    ∀ leaf ∈ sub.leafPaths, ¬ leaf <+: rest := by
  intro leaf hleaf hleads
  have hmem := (cons_mem_leafPaths_iff hs).mpr ⟨_, hsub, hleaf⟩
  exact hpath _ hmem ((List.prefix_cons_inj key).mpr hleads)

/-! ## Branches on a path -/

def branchAt? : FieldPath → Schema ρ → Option (Schema ρ)
  | [], s => some s
  | key :: rest, s =>
      match s.get? key with
      | some (.branch sub) => branchAt? rest sub
      | _ => none

theorem exists_branchAt? {s : Schema ρ} (hs : s.DistinctKeys) {here path : FieldPath}
    (hpath : path ∈ s.leafPaths) (hhere : here <+: path) (hne : here ≠ path) :
    ∃ sub, s.branchAt? here = some sub := by
  induction here generalizing s path with
  | nil => exact ⟨s, rfl⟩
  | cons key here ih =>
      obtain ⟨more, rfl⟩ := hhere
      rw [List.cons_append, cons_mem_leafPaths_iff hs] at hpath
      obtain ⟨node, hnode, hmem⟩ := hpath
      have hmore : more ≠ [] := by
        rintro rfl
        simp at hne
      cases node with
      | leaf rules => simp [Node.leafPaths, hmore] at hmem
      | branch sub =>
          have hsub : sub.DistinctKeys := distinctKeys_of_get? hs hnode
          obtain ⟨inner, hinner⟩ := ih hsub hmem (List.prefix_append here more)
            (by simpa using hmore)
          exact ⟨inner, by rw [branchAt?, hnode]; exact hinner⟩

/-! ## Assigning at leaf paths -/

variable {entries : List (FieldPath × Json)}

theorem exists_split_of_sublist_leafPaths {key : String} {node : Node ρ} {rest : Schema ρ}
    (hpaths : (entries.map Prod.fst).Sublist (cons key node rest).leafPaths) :
    ∃ front back, entries = front ++ back ∧ (∀ entry ∈ front, entry.1.head? = some key) ∧
      (back.map Prod.fst).Sublist rest.leafPaths := by
  rw [leafPaths_cons, List.sublist_append_iff] at hpaths
  obtain ⟨first, second, heq, hfirst, hsecond⟩ := hpaths
  obtain ⟨front, back, rfl, rfl, rfl⟩ := List.map_eq_append_iff.mp heq
  refine ⟨front, back, rfl, ?_, hsecond⟩
  intro entry hentry
  obtain ⟨path, -, heq⟩ := List.mem_map.mp (hfirst.mem (List.mem_map_of_mem hentry))
  rw [← heq]
  rfl

private theorem singleton_prefix_iff {key : String} {path : FieldPath} :
    [key] <+: path ↔ path.head? = some key := by
  cases path with
  | nil => simp
  | cons first rest => simp [List.cons_prefix_cons, eq_comm]

private theorem exists_starting_append_of_ne {front back : List (FieldPath × Json)}
    {key other : String} (hfront : ∀ entry ∈ front, entry.1.head? = some key)
    (hne : key ≠ other) :
    (∃ entry ∈ front ++ back, [other] <+: entry.1) ↔ ∃ entry ∈ back, [other] <+: entry.1 := by
  have hnone : ¬ ∃ entry ∈ front, [other] <+: entry.1 := by
    rintro ⟨entry, hentry, hstarts⟩
    rw [singleton_prefix_iff, hfront entry hentry] at hstarts
    exact hne (Option.some.inj hstarts)
  simp only [List.mem_append, or_and_right, exists_or, hnone, false_or]

private theorem exists_starting_append_iff {front back : List (FieldPath × Json)} {key : String}
    (hfront : ∀ entry ∈ front, entry.1.head? = some key)
    (hback : ∀ entry ∈ back, entry.1.head? ≠ some key) :
    (∃ entry ∈ front ++ back, [key] <+: entry.1) ↔ front ≠ [] := by
  simp only [singleton_prefix_iff]
  constructor
  · rintro ⟨entry, hentry, hhead⟩ rfl
    exact hback entry hentry hhead
  · intro hne
    obtain ⟨entry, hentry⟩ := List.exists_mem_of_ne_nil front hne
    exact ⟨entry, List.mem_append_left _ hentry, hfront entry hentry⟩

theorem keys_assignAll {s : Schema ρ} (hs : s.DistinctKeys)
    (hpaths : (entries.map Prod.fst).Sublist s.leafPaths) (fields : Json.Fields) :
    Json.Fields.keys (fields.assignAll entries) = Json.Fields.keys fields ++
      s.keys.filter fun key =>
        key ∉ Json.Fields.keys fields ∧ ∃ entry ∈ entries, [key] <+: entry.1 := by
  induction s using entryInduction generalizing entries fields with
  | nil =>
      have hnil : entries = [] := by simpa [leafPaths, leaves, leavesFrom] using hpaths
      simp [hnil, assignAll, keys, Schema.entries]
  | cons key node rest ih =>
      obtain ⟨hkey, -, hrest⟩ := distinctKeys_cons_iff.mp hs
      obtain ⟨front, back, rfl, hfront, hback⟩ := exists_split_of_sublist_leafPaths hpaths
      have hlater : ∀ entry ∈ back, entry.1.head? ≠ some key := by
        intro entry hentry hhead
        have hmem := hback.mem (List.mem_map_of_mem hentry)
        obtain ⟨other, hother, below, heq⟩ := exists_key_of_mem_leafPaths hmem
        rw [heq] at hhead
        cases hhead
        exact hkey hother
      have hsplit : fields.assignAll (front ++ back) =
          Json.Fields.assignAll (fields.assignAll front) back := List.foldl_append
      have hmiddle := keys_assignAll_of_head hfront fields
      have hothers : (rest.keys.filter fun other =>
          other ∉ Json.Fields.keys (fields.assignAll front) ∧
            ∃ entry ∈ back, [other] <+: entry.1) =
          rest.keys.filter fun other => other ∉ Json.Fields.keys fields ∧
            ∃ entry ∈ front ++ back, [other] <+: entry.1 := by
        refine List.filter_congr fun other hother => ?_
        have hne : key ≠ other := fun hsame => hkey (hsame ▸ hother)
        rw [decide_eq_decide, exists_starting_append_of_ne hfront hne, hmiddle]
        split <;> simp [Ne.symm hne]
      have hnew : (key ∉ Json.Fields.keys fields ∧ ∃ entry ∈ front ++ back, [key] <+: entry.1) ↔
          ¬ (front = [] ∨ key ∈ Json.Fields.keys fields) := by
        rw [exists_starting_append_iff hfront hlater, not_or]
        exact and_comm
      rw [hsplit, ih hrest hback, hothers, hmiddle, keys_cons]
      by_cases hadds : front = [] ∨ key ∈ Json.Fields.keys fields
      · rw [if_pos hadds, List.filter_cons_of_neg
          (by simpa only [decide_eq_true_eq, hnew, Decidable.not_not] using hadds)]
      · rw [if_neg hadds, List.filter_cons_of_pos
          (by simpa only [decide_eq_true_eq, hnew] using hadds),
          List.append_assoc, List.singleton_append]

theorem exists_objectAt?_assignAll {s sub : Schema ρ} (hs : s.DistinctKeys)
    (hpaths : (entries.map Prod.fst).Sublist s.leafPaths) {here : FieldPath}
    (hsub : s.branchAt? here = some sub) {fields inner : Json.Fields}
    (hinner : fields.objectAt? here = some inner) :
    ∃ written, Json.Fields.objectAt? here (fields.assignAll entries) = some written ∧
      Json.Fields.keys written = Json.Fields.keys inner ++ sub.keys.filter fun key =>
        key ∉ Json.Fields.keys inner ∧ ∃ entry ∈ entries, here ++ [key] <+: entry.1 := by
  induction here generalizing s entries fields with
  | nil =>
      obtain rfl : s = sub := Option.some.inj hsub
      obtain rfl : fields = inner := Option.some.inj hinner
      exact ⟨_, rfl, keys_assignAll hs hpaths fields⟩
  | cons key here ih =>
      rw [branchAt?] at hsub
      split at hsub
      case h_2 => cases hsub
      case h_1 next hnext =>
        obtain ⟨object, hobject, hinner⟩ := Option.bind_eq_some_iff.mp hinner
        obtain ⟨value, hvalue, hfields⟩ := Option.bind_eq_some_iff.mp hobject
        rw [Json.fields?_eq_some_iff.mp hfields] at hvalue
        have hentries : ∀ entry ∈ entries, entry.1 ≠ [key] := by
          intro entry hentry hpath
          have hleaf := hpaths.mem (List.mem_map_of_mem hentry)
          rw [hpath, cons_mem_leafPaths_iff hs, hnext] at hleaf
          obtain ⟨node, hnode, hnil⟩ := hleaf
          cases hnode
          exact ne_nil_of_mem_leafPaths hnil rfl
        have hbelow := hpaths.filterMap (restAfter? key)
        rw [← map_fst_below, filterMap_restAfter?_leafPaths hs, hnext] at hbelow
        obtain ⟨written, hwritten, hkeys⟩ :=
          ih (distinctKeys_of_get? hs hnext) hbelow hsub hinner
        refine ⟨written, ?_, ?_⟩
        · rw [objectAt?, get?_assignAll_below hentries hvalue]
          exact hwritten
        · rw [hkeys]
          congr 1
          refine List.filter_congr fun other _ => ?_
          rw [decide_eq_decide, exists_mem_below_iff, List.cons_append]

end Schema

end SubjectRules
