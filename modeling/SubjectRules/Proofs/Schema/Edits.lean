import Mathlib.Data.Finset.Card
import SubjectRules.Proofs.Schema.Entries

/-!
# Schemas under edits

Whatever is done to a schema, it stays an ordered map: an edit that has an effect puts one node at
one key and leaves the others where they are.  So the last edit of a key tells what stands there,
the first one tells where, and no leaf path leads to another.
-/

namespace SubjectRules.Schema

variable {ρ : Type}

/-- What can be done to a schema.  The schemas of nested objects are made in the same way. -/
inductive Edit (ρ : Type) where
  | insertLeaf (key : String) (rules : Leaf ρ)
  | insertBranch (key : String) (edits : List (Edit ρ))
  | single (key : String) (rule : ρ)
  | chain (key : String) (rules : List ρ)
  | branch (key : String) (edits : List (Edit ρ))

mutual

def Edit.perform : Edit ρ → Schema ρ → Schema ρ
  | .insertLeaf key rules, s => s.insert key (.leaf rules)
  | .insertBranch key edits, s => s.insert key (.branch (performAll edits .nil))
  | .single key rule, s => s.withRule key rule
  | .chain key rules, s => s.withChain key rules
  | .branch key edits, s => s.withBranch key (performAll edits .nil)

def performAll : List (Edit ρ) → Schema ρ → Schema ρ
  | [], s => s
  | edit :: rest, s => performAll rest (edit.perform s)

end

def build (edits : List (Edit ρ)) : Schema ρ := performAll edits .nil

/-- The node that an edit puts at its key.  A chain of no rules puts none. -/
def Edit.effect? : Edit ρ → Option (String × Node ρ)
  | .insertLeaf key rules => some (key, .leaf rules)
  | .insertBranch key edits => some (key, .branch (build edits))
  | .single key rule => some (key, .leaf (.single rule))
  | .chain _ [] => none
  | .chain key (first :: rest) => some (key, .leaf (.chain (first :: rest)))
  | .branch key edits => some (key, .branch (build edits))

theorem Edit.perform_eq (edit : Edit ρ) (s : Schema ρ) :
    edit.perform s = edit.effect?.elim s fun effect => s.insert effect.1 effect.2 := by
  cases edit with
  | insertLeaf | insertBranch | single | branch => rw [perform]; rfl
  | chain key rules => cases rules <;> (rw [perform]; rfl)

theorem build_eq_ofEntries (edits : List (Edit ρ)) :
    build edits = ofEntries (edits.filterMap Edit.effect?) := by
  suffices h : ∀ s, performAll edits s = (edits.filterMap Edit.effect?).foldl
      (fun s effect => s.insert effect.1 effect.2) s from h .nil
  intro s
  induction edits generalizing s with
  | nil => rw [performAll]; rfl
  | cons edit rest ih =>
      rw [performAll, ih, edit.perform_eq]
      cases heffect : edit.effect? <;> simp [heffect]

/-! ## Distinct keys -/

mutual

theorem Edit.distinctKeys_perform : ∀ (edit : Edit ρ) {s : Schema ρ}, s.DistinctKeys →
    (edit.perform s).DistinctKeys
  | .insertLeaf key rules, s, hs => by
      rw [Edit.perform]
      exact distinctKeys_insert hs trivial
  | .insertBranch key edits, s, hs => by
      rw [Edit.perform]
      exact distinctKeys_insert hs (distinctKeys_performAll edits trivial)
  | .single key rule, s, hs => by
      rw [Edit.perform]
      exact distinctKeys_insert hs trivial
  | .chain key rules, s, hs => by
      rw [Edit.perform, withChain]
      split
      · exact hs
      · exact distinctKeys_insert hs trivial
  | .branch key edits, s, hs => by
      rw [Edit.perform]
      exact distinctKeys_insert hs (distinctKeys_performAll edits trivial)

theorem distinctKeys_performAll : ∀ (edits : List (Edit ρ)) {s : Schema ρ}, s.DistinctKeys →
    (performAll edits s).DistinctKeys
  | [], s, hs => by
      rw [performAll]
      exact hs
  | edit :: rest, s, hs => by
      rw [performAll]
      exact distinctKeys_performAll rest (edit.distinctKeys_perform hs)

end

theorem nodup_keys {s : Schema ρ} (hs : s.DistinctKeys) : s.keys.Nodup := by
  induction s using entryInduction with
  | nil => exact List.nodup_nil
  | cons key node rest ih =>
      obtain ⟨hkey, -, hrest⟩ := distinctKeys_cons_iff.mp hs
      rw [keys_cons]
      exact List.nodup_cons.mpr ⟨hkey, ih hrest⟩

/-! ## Last and first edits of a key -/

theorem keys_insert (s : Schema ρ) (key : String) (node : Node ρ) :
    (s.insert key node).keys = if key ∈ s.keys then s.keys else s.keys ++ [key] := by
  induction s using entryInduction with
  | nil => exact keys_cons key node .nil
  | cons first other rest ih =>
      rw [insert_cons, keys_cons]
      by_cases hfirst : first = key
      · simp [hfirst]
      · rw [if_neg hfirst, keys_cons, ih]
        split <;> simp_all [Ne.symm hfirst]

theorem get?_ofEntries (added : List (String × Node ρ)) (key : String) :
    (ofEntries added).get? key =
      (added.filterMap fun entry => if entry.1 = key then some entry.2 else none).getLast? := by
  induction added using List.reverseRecOn with
  | nil => rfl
  | append_singleton front entry ih =>
      rw [ofEntries_concat, get?_insert, ih, List.filterMap_append]
      by_cases hkey : entry.1 = key <;> simp [hkey]

private theorem eraseDups_concat (keys : List String) (key : String) :
    (keys ++ [key]).eraseDups =
      if key ∈ keys then keys.eraseDups else keys.eraseDups ++ [key] := by
  rw [List.eraseDups_append]
  by_cases hkey : key ∈ keys <;> simp [List.removeAll, List.eraseDups_cons, hkey]

theorem keys_ofEntries (added : List (String × Node ρ)) :
    (ofEntries added).keys = (added.map Prod.fst).eraseDups := by
  induction added using List.reverseRecOn with
  | nil => rfl
  | append_singleton front entry ih =>
      rw [ofEntries_concat, keys_insert, ih, List.map_append, List.map_singleton,
        eraseDups_concat]
      simp only [List.mem_eraseDups]

/-! ## Nested nodes -/

def Node.at? : FieldPath → Node ρ → Option (Node ρ)
  | [], node => some node
  | _ :: _, .leaf _ => none
  | key :: rest, .branch sub => (sub.get? key).bind (at? rest)

theorem Node.mem_leafPaths_iff {node : Node ρ} (hnode : node.DistinctKeys) {path : FieldPath} :
    path ∈ node.leafPaths ↔ ∃ rules, node.at? path = some (.leaf rules) := by
  induction path generalizing node with
  | nil =>
      cases node with
      | leaf rules => simp [leafPaths, at?]
      | branch sub =>
          have hnot : [] ∉ sub.leafPaths := fun hmem => ne_nil_of_mem_leafPaths hmem rfl
          simp [leafPaths, at?, hnot]
  | cons key rest ih =>
      cases node with
      | leaf rules => simp [leafPaths, at?]
      | branch sub =>
          rw [leafPaths, cons_mem_leafPaths_iff hnode, at?]
          cases hfound : sub.get? key with
          | none => simp
          | some inner => simpa using ih (distinctKeys_of_get? hnode hfound)

/-! ## The ordered map -/

/-- Edits make an ordered map.  Keys are distinct at every level.  At a key stands the node of the
last edit that had an effect on it; the keys are in the order of the first such edits.  An insertion
returns the node that was there.  The leaf paths are distinct and none leads to another; they are
the paths that lead to a leaf. -/
theorem build_ordered (edits : List (Edit ρ)) :
    let s := build edits
    let effects := edits.filterMap Edit.effect?
    s.DistinctKeys ∧
      (∀ key, s.get? key = (effects.filterMap fun effect =>
        if effect.1 = key then some effect.2 else none).getLast?) ∧
      (∀ key, (Edit.chain key []).perform s = s) ∧
      s.keys = (effects.map Prod.fst).eraseDups ∧
      (∀ key node, (s.exchange key node).1 = s.get? key) ∧
      s.size = (effects.map Prod.fst).toFinset.card ∧
      s.leafPaths.Nodup ∧ s.leafPaths.Pairwise Incomparable ∧
      ∀ path, path ∈ s.leafPaths ↔ ∃ rules, (Node.branch s).at? path = some (.leaf rules) := by
  intro s effects
  have hs : s.DistinctKeys := distinctKeys_performAll edits trivial
  have hbuild : s = ofEntries effects := build_eq_ofEntries edits
  have hkeys : s.keys = (effects.map Prod.fst).eraseDups := by rw [hbuild, keys_ofEntries]
  refine ⟨hs, fun key => ?_, fun key => (Edit.chain key []).perform_eq s, hkeys,
    fun key node => exchange_fst key node s, ?_, nodup_leafPaths hs,
    pairwise_incomparable_leafPaths hs, fun path => ?_⟩
  · rw [hbuild, get?_ofEntries]
  · have hsame : s.keys.toFinset = (effects.map Prod.fst).toFinset := by
      ext key
      rw [hkeys, List.mem_toFinset, List.mem_toFinset, List.mem_eraseDups]
    rw [← hsame, List.toFinset_card_of_nodup (nodup_keys hs), keys, List.length_map, size]
  · have hnode : (Node.branch s).DistinctKeys := hs
    exact Node.mem_leafPaths_iff hnode

end SubjectRules.Schema
