import SubjectRules.Document.Basic
import SubjectRules.Proofs.Document.Place
import SubjectRules.Proofs.Schema.Entries

/-!
# The entries of a section

The field entries of a section are those that are no nested objects, reached through nested
objects and keys that are strings.  They come in document order, and so do the keys that are
no strings.  Each of them comes to one leaf at its path or to one fault.
-/

namespace SubjectRules

/-- An entry at a path that is no nested object, or a key that is no string in the object at a
path. -/
inductive FieldEntry where
  | field (path : FieldPath) (value : Yaml)
  | strayKey (here : FieldPath)

namespace FieldEntry

variable {ρ : Type}

mutual

def ofValue (path : FieldPath) : Yaml → List FieldEntry
  | .map entries =>
      if (Yaml.Mapping.get? "rule" entries).isNone then ofEntries path entries
      else [.field path (.map entries)]
  | value => [.field path value]

def ofEntries (here : FieldPath) : List (Yaml × Yaml) → List FieldEntry
  | [] => []
  | (key, value) :: rest =>
      (match key.text? with
        | some key => ofValue (here ++ [key]) value
        | none => [.strayKey here]) ++ ofEntries here rest

end

def path : FieldEntry → FieldPath
  | .field path _ => path
  | .strayKey here => here

/-- What an entry comes to in the section `root`: a leaf at its path, or a fault. -/
def outcome (read : RuleReader ρ) (root : FieldPath) :
    FieldEntry → Except Fault (FieldPath × Leaf ρ)
  | .field path value => do return (path, ← read.leaf ⟨root ++ path, []⟩ value)
  | .strayKey here => .error (.malformedEntry ⟨root ++ here, []⟩ .keyNotText)

def leaf? (read : RuleReader ρ) (root : FieldPath) (entry : FieldEntry) :
    Option (FieldPath × Leaf ρ) :=
  (entry.outcome read root).toOption

def fault? (read : RuleReader ρ) (root : FieldPath) (entry : FieldEntry) : Option Fault :=
  match entry.outcome read root with
  | .ok _ => none
  | .error fault => some fault

/-! ## Reading entry by entry -/

def ofKeyed (here : FieldPath) (entry : Yaml × Yaml) : List FieldEntry :=
  match entry.1.text? with
  | some key => ofValue (here ++ [key]) entry.2
  | none => [.strayKey here]

theorem ofEntries_eq_flatMap (here : FieldPath) (entries : Yaml.Mapping) :
    ofEntries here entries = entries.flatMap (ofKeyed here) := by
  induction entries with
  | nil => rfl
  | cons entry rest ih => rw [List.flatMap_cons, ← ih, ofEntries, ofKeyed]

theorem ofValue_eq (path : FieldPath) (value : Yaml) :
    ofValue path value =
      match value.nested? with
      | some inner => ofEntries path inner
      | none => [.field path value] := by
  cases value with
  | map entries =>
      rw [ofValue, Yaml.nested?]
      split <;> rfl
  | _ => rfl

end FieldEntry

namespace RuleReader

variable {ρ : Type} (read : RuleReader ρ)

def compileKeyed (here : FieldPath) (entry : Yaml × Yaml) : Compiled ρ :=
  match entry.1.text? with
  | some key => read.compileEntry here key entry.2
  | none => .ofFault (.malformedEntry ⟨here, []⟩ .keyNotText)

theorem entries_compileEntries (here : FieldPath) (entries : Yaml.Mapping) :
    (read.compileEntries here entries).entries =
      entries.flatMap fun entry => (read.compileKeyed here entry).entries := by
  induction entries with
  | nil => rfl
  | cons entry rest ih =>
      rw [List.flatMap_cons, ← ih]
      rfl

theorem faults_compileEntries (here : FieldPath) (entries : Yaml.Mapping) :
    (read.compileEntries here entries).faults =
      entries.flatMap fun entry => (read.compileKeyed here entry).faults := by
  induction entries with
  | nil => rfl
  | cons entry rest ih =>
      rw [List.flatMap_cons, ← ih]
      rfl

theorem compileEntry_eq (here : FieldPath) (key : String) (value : Yaml) :
    read.compileEntry here key value =
      match value.nested? with
      | some inner => (read.compileEntries (here ++ [key]) inner).asBranch key
      | none => .ofLeaf key (read.leaf ⟨here ++ [key], []⟩ value) := by
  cases value with
  | map entries =>
      rw [compileEntry, EntryForm.ofYaml, Yaml.nested?]
      cases Yaml.Mapping.get? "rule" entries with
      | none => rfl
      | some written => cases written <;> rfl
  | _ => rfl

/-! ## Chains -/

theorem leaf_chain {items : List Yaml} (hitems : items ≠ []) (place : Place) :
    read.leaf place (.seq items) =
      read.chain place 0 items >>= fun rules => pure (.chain rules) := by
  obtain ⟨item, rest, rfl⟩ := List.exists_cons_of_ne_nil hitems
  rw [← map_eq_pure_bind]
  rfl

theorem leaf_single {place : Place} {value : Yaml} (hvalue : ∀ items, value ≠ .seq items) :
    read.leaf place value = read place value >>= fun rule => pure (.single rule) := by
  rw [← map_eq_pure_bind, leaf]
  cases value with
  | seq items => exact absurd rfl (hvalue items)
  | map entries =>
      rw [EntryForm.ofYaml]
      cases Yaml.Mapping.get? "rule" entries with
      | none => rfl
      | some written => cases written <;> rfl
  | _ => rfl

theorem leaf_cases (place : Place) (value : Yaml) :
    (value = .seq [] ∧ read.leaf place value = .error (.emptyChain place)) ∨
      (∃ items, items ≠ [] ∧ value = .seq items ∧
        read.leaf place value = read.chain place 0 items >>= fun rules => pure (.chain rules)) ∨
      ((∀ items, value ≠ .seq items) ∧
        read.leaf place value = read place value >>= fun rule => pure (.single rule)) := by
  by_cases hseq : ∃ items, value = .seq items
  · obtain ⟨items, rfl⟩ := hseq
    cases items with
    | nil => exact .inl ⟨rfl, rfl⟩
    | cons item rest =>
        have hne := List.cons_ne_nil item rest
        exact .inr (.inl ⟨_, hne, rfl, read.leaf_chain hne place⟩)
  · have hseq := not_exists.mp hseq
    exact .inr (.inr ⟨hseq, read.leaf_single hseq⟩)

theorem length_of_chain {place : Place} {index : Nat} {items : List Yaml} {rules : List ρ}
    (hchain : read.chain place index items = .ok rules) : rules.length = items.length := by
  induction items generalizing index rules with
  | nil =>
      cases hchain
      rfl
  | cons item rest ih =>
      obtain ⟨rule, -, hrest⟩ := Except.bind_eq_ok_iff.mp hchain
      obtain ⟨others, hothers, rfl⟩ := Except.bind_pure_eq_ok_iff.mp hrest
      rw [List.length_cons, List.length_cons, ih hothers]

theorem exists_first_of_chain_eq_error {place : Place} {index : Nat} {items : List Yaml}
    {fault : Fault} (hchain : read.chain place index items = .error fault) :
    ∃ (first : Nat) (item : Yaml), items[first]? = some item ∧
      read (place.step (.element (index + first))) item = .error fault ∧
      ∀ earlier < first, ∀ other, items[earlier]? = some other →
        ∃ rule, read (place.step (.element (index + earlier))) other = .ok rule := by
  induction items generalizing index with
  | nil => cases hchain
  | cons item rest ih =>
      rcases Except.bind_eq_error_iff.mp hchain with hitem | ⟨rule, hrule, hrest⟩
      · exact ⟨0, item, rfl, hitem, fun earlier hearlier => absurd hearlier (Nat.not_lt_zero _)⟩
      rcases Except.bind_eq_error_iff.mp hrest with hrest | ⟨_, -, ⟨⟩⟩
      obtain ⟨first, bad, hbad, hfault, hearlier⟩ := ih hrest
      refine ⟨first + 1, bad, hbad, ?_, ?_⟩
      · rw [← Nat.add_assoc, Nat.add_right_comm]
        exact hfault
      · intro earlier hlt other hother
        cases earlier with
        | zero =>
            cases hother
            exact ⟨rule, hrule⟩
        | succ earlier =>
            rw [← Nat.add_assoc, Nat.add_right_comm]
            exact hearlier earlier (Nat.lt_of_succ_lt_succ hlt) other hother

variable {read}

theorem failsWithin_chain (hread : ∀ place value, FailsWithin place (read place value))
    (place : Place) (index : Nat) (items : List Yaml) :
    FailsWithin place (read.chain place index items) := by
  induction items generalizing index with
  | nil => exact .ok _
  | cons item rest ih =>
      refine ((hread _ item).mono (place.encloses_step _)).bind fun rule _ => ?_
      exact (ih (index + 1)).bind fun _ _ => .ok _

theorem failsWithin_leaf (hread : ∀ place value, FailsWithin place (read place value))
    (place : Place) (value : Yaml) : FailsWithin place (read.leaf place value) := by
  rcases read.leaf_cases place value with ⟨-, hleaf⟩ | ⟨items, -, -, hleaf⟩ | ⟨-, hleaf⟩
  all_goals rw [hleaf]
  · exact .error rfl
  · exact (failsWithin_chain hread place 0 items).bind fun _ _ => .ok _
  · exact (hread place value).bind fun _ _ => .ok _

theorem ne_chain_nil_of_leaf {place : Place} {value : Yaml} {rules : Leaf ρ}
    (hrules : read.leaf place value = .ok rules) : rules ≠ .chain [] := by
  rintro rfl
  rcases read.leaf_cases place value with ⟨-, hleaf⟩ | ⟨items, hne, -, hleaf⟩ | ⟨-, hleaf⟩
  all_goals rw [hleaf] at hrules
  · cases hrules
  · obtain ⟨rules, hchain, heq⟩ := Except.bind_pure_eq_ok_iff.mp hrules
    cases heq
    exact hne (List.eq_nil_of_length_eq_zero (read.length_of_chain hchain).symm)
  · obtain ⟨rule, -, ⟨⟩⟩ := Except.bind_pure_eq_ok_iff.mp hrules

end RuleReader

end SubjectRules
