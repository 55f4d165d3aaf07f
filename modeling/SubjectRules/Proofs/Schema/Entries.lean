import Mathlib.Data.List.Induction
import SubjectRules.Proofs.Schema.Branch

/-!
# Schemas put together from entries

Entries with distinct keys make a schema that has them in their order.  When no entry is an
empty chain or an empty branch, nothing below is.
-/

namespace SubjectRules.Schema

variable {ρ : Type}

theorem insert_cons (first key : String) (node new : Node ρ) (rest : Schema ρ) :
    (cons first node rest).insert key new =
      if first = key then cons key new rest else cons first node (rest.insert key new) := by
  by_cases h : first = key <;> cases node <;> simp [insert, cons, exchange, h]

theorem mem_entries_insert {s : Schema ρ} {key : String} {node : Node ρ}
    {entry : String × Node ρ} (hentry : entry ∈ (s.insert key node).entries) :
    entry = (key, node) ∨ entry ∈ s.entries := by
  induction s using entryInduction with
  | nil =>
      rw [insert, exchange, entries_cons] at hentry
      exact List.mem_cons.mp hentry
  | cons first other rest ih =>
      rw [insert_cons] at hentry
      rw [entries_cons, List.mem_cons]
      split at hentry
      all_goals rw [entries_cons, List.mem_cons] at hentry
      · exact hentry.imp_right .inr
      · rcases hentry with hfirst | hrest
        · exact .inr (.inl hfirst)
        · exact (ih hrest).imp_right .inr

theorem entries_insert_of_notMem {s : Schema ρ} {key : String} {node : Node ρ}
    (hkey : key ∉ s.keys) : (s.insert key node).entries = s.entries ++ [(key, node)] := by
  induction s using entryInduction with
  | nil => rw [insert, exchange, entries_cons, entries, List.nil_append]
  | cons first other rest ih =>
      rw [keys_cons, List.mem_cons, not_or] at hkey
      rw [insert_cons, if_neg (Ne.symm hkey.1), entries_cons, entries_cons, ih hkey.2,
        List.cons_append]

theorem ofEntries_concat (front : List (String × Node ρ)) (entry : String × Node ρ) :
    ofEntries (front ++ [entry]) = (ofEntries front).insert entry.1 entry.2 :=
  List.foldl_append

theorem ofEntries_ne_nil {added : List (String × Node ρ)} (hadded : added ≠ []) :
    ofEntries added ≠ .nil := by
  obtain ⟨front, entry, rfl⟩ := (List.eq_nil_or_concat added).resolve_left hadded
  intro hnil
  have hmem : entry.1 ∈ (ofEntries (front ++ [entry])).keys := by
    rw [ofEntries_concat, mem_keys_insert]
    exact .inl rfl
  rw [← List.concat_eq_append, hnil] at hmem
  cases hmem

theorem entries_ofEntries {added : List (String × Node ρ)} (hadded : (added.map Prod.fst).Nodup) :
    (ofEntries added).entries = added := by
  induction added using List.reverseRecOn with
  | nil => rfl
  | append_singleton front entry ih =>
      rw [List.map_append, List.nodup_append] at hadded
      obtain ⟨hfront, -, hnew⟩ := hadded
      have hkey : entry.1 ∉ (ofEntries front).keys := by
        rw [keys, ih hfront]
        intro hmem
        exact hnew entry.1 hmem entry.1 List.mem_cons_self rfl
      rw [ofEntries_concat, entries_insert_of_notMem hkey, ih hfront]

/-! ## Filled schemas -/

/-- No chain and no branch is empty. -/
def Filled : Schema ρ → Prop
  | .nil => True
  | .leaf _ rules rest => rules ≠ .chain [] ∧ rest.Filled
  | .branch _ sub rest => sub ≠ .nil ∧ sub.Filled ∧ rest.Filled

def Node.Filled : Node ρ → Prop
  | .leaf rules => rules ≠ .chain []
  | .branch sub => sub ≠ .nil ∧ sub.Filled

theorem filled_iff {s : Schema ρ} : s.Filled ↔ ∀ entry ∈ s.entries, entry.2.Filled := by
  induction s using entryInduction with
  | nil => simp [Schema.Filled, entries]
  | cons key node rest ih =>
      rw [entries_cons, List.forall_mem_cons, ← ih]
      cases node with
      | leaf rules => rfl
      | branch sub => exact and_assoc.symm

theorem filled_ofEntries {added : List (String × Node ρ)}
    (hadded : ∀ entry ∈ added, entry.2.Filled) : (ofEntries added).Filled := by
  induction added using List.reverseRecOn with
  | nil => trivial
  | append_singleton front entry ih =>
      rw [List.forall_mem_append, List.forall_mem_singleton] at hadded
      rw [ofEntries_concat, filled_iff]
      intro other hother
      rcases mem_entries_insert hother with rfl | hfront
      · exact hadded.2
      · exact filled_iff.mp (ih hadded.1) other hfront

/-! ## Leaves of entries -/

def Node.leavesFrom (path : FieldPath) : Node ρ → List (FieldPath × Leaf ρ)
  | .leaf rules => [(path, rules)]
  | .branch sub => sub.leavesFrom path

theorem leavesFrom_eq_flatMap (here : FieldPath) (s : Schema ρ) :
    s.leavesFrom here = s.entries.flatMap fun entry => entry.2.leavesFrom (here ++ [entry.1]) := by
  induction s using entryInduction with
  | nil => rfl
  | cons key node rest ih =>
      rw [entries_cons, List.flatMap_cons, ← ih]
      cases node <;> rfl

end SubjectRules.Schema
