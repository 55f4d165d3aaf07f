import SubjectRules.Proofs.Document.Entries

/-!
# No entry is lost

Compiling a section keeps an account of its entries: the leaves of the schema and the faults
are what the field entries come to, each in document order.  Nothing is reported twice, and
no empty chain or branch is left in the schema.
-/

namespace SubjectRules

variable {ρ : Type} {read : RuleReader ρ}

namespace RuleReader

def Compiled.leavesFrom (here : FieldPath) (compiled : Compiled ρ) : List (FieldPath × Leaf ρ) :=
  compiled.entries.flatMap fun entry => entry.2.leavesFrom (here ++ [entry.1])

/-- What stands under one key is a single field entry, or a nested object. -/
theorem keyed_cases (read : RuleReader ρ) (root here : FieldPath) (entry : Yaml × Yaml) :
    (∃ found : FieldEntry, FieldEntry.ofKeyed here entry = [found] ∧
        (read.compileKeyed (root ++ here) entry).faults = (found.fault? read root).toList ∧
        (read.compileKeyed (root ++ here) entry).leavesFrom here =
          (found.leaf? read root).toList) ∨
      ∃ key inner, entry.2.nested? = some inner ∧
        FieldEntry.ofKeyed here entry = FieldEntry.ofEntries (here ++ [key]) inner ∧
        read.compileKeyed (root ++ here) entry =
          (read.compileEntries (root ++ (here ++ [key])) inner).asBranch key := by
  rw [compileKeyed, FieldEntry.ofKeyed]
  cases entry.1.text? with
  | none => exact .inl ⟨.strayKey here, rfl, rfl, rfl⟩
  | some key =>
      dsimp only
      rw [compileEntry_eq, FieldEntry.ofValue_eq, List.append_assoc]
      cases hnested : entry.2.nested? with
      | some inner => exact .inr ⟨key, inner, rfl, rfl, rfl⟩
      | none =>
          refine .inl ⟨.field (here ++ [key]) entry.2, rfl, ?_, ?_⟩
          · rw [FieldEntry.fault?, FieldEntry.outcome]
            cases read.leaf ⟨root ++ (here ++ [key]), []⟩ entry.2 <;> rfl
          · rw [FieldEntry.leaf?, FieldEntry.outcome]
            cases read.leaf ⟨root ++ (here ++ [key]), []⟩ entry.2 <;> rfl

theorem faults_compileEntries_eq (root here : FieldPath) (entries : Yaml.Mapping) :
    (read.compileEntries (root ++ here) entries).faults =
      (FieldEntry.ofEntries here entries).filterMap (FieldEntry.fault? read root) := by
  induction entries using Yaml.Mapping.nestedInduction generalizing here with
  | step entries ih =>
      rw [faults_compileEntries, FieldEntry.ofEntries_eq_flatMap, List.filterMap_flatMap]
      refine List.flatMap_congr fun entry hentry => ?_
      rcases read.keyed_cases root here entry with
        ⟨found, hfound, hfaults, -⟩ | ⟨key, inner, hinner, hfound, hcompiled⟩
      · rw [hfound, hfaults, List.filterMap_cons]
        cases found.fault? read root <;> rfl
      · rw [hfound, hcompiled]
        exact ih entry hentry inner hinner (here ++ [key])

theorem keys_compileKeyed (read : RuleReader ρ) (here : FieldPath) (entry : Yaml × Yaml) :
    ((read.compileKeyed here entry).entries.map Prod.fst).Sublist entry.1.text?.toList := by
  rw [compileKeyed]
  cases entry.1.text? with
  | none => exact List.Sublist.refl _
  | some key =>
      dsimp only
      rw [compileEntry_eq]
      split
      · rw [Compiled.asBranch]
        split
        · exact List.nil_sublist _
        · exact List.Sublist.refl _
      · cases read.leaf ⟨here ++ [key], []⟩ entry.2 with
        | ok rules => exact List.Sublist.refl _
        | error fault => exact List.nil_sublist _

theorem keys_compileEntries (read : RuleReader ρ) (here : FieldPath) (entries : Yaml.Mapping) :
    ((read.compileEntries here entries).entries.map Prod.fst).Sublist
      (entries.filterMap fun entry => entry.1.text?) := by
  induction entries with
  | nil => exact List.Sublist.slnil
  | cons entry rest ih =>
      have hfirst := read.keys_compileKeyed here entry
      rw [entries_compileEntries] at ih
      rw [entries_compileEntries, List.flatMap_cons, List.map_append, List.filterMap_cons]
      cases hkey : entry.1.text? with
      | none =>
          rw [hkey, Option.toList_none, List.sublist_nil] at hfirst
          rw [hfirst]
          exact ih
      | some key =>
          rw [hkey] at hfirst
          exact hfirst.append ih

/-- With distinct names no insertion replaces an entry, so the schema holds all of them. -/
theorem entries_schema_compileEntries {entries : Yaml.Mapping}
    (hnames : (entries.filterMap fun entry => entry.1.text?).Nodup) (here : FieldPath) :
    (read.compileEntries here entries).schema.entries =
      (read.compileEntries here entries).entries :=
  Schema.entries_ofEntries (hnames.sublist (read.keys_compileEntries here entries))

theorem leavesFrom_schema_eq_flatMap {entries : Yaml.Mapping}
    (hnames : (entries.filterMap fun entry => entry.1.text?).Nodup) (here path : FieldPath) :
    (read.compileEntries here entries).schema.leavesFrom path =
      entries.flatMap fun entry => (read.compileKeyed here entry).leavesFrom path := by
  rw [Schema.leavesFrom_eq_flatMap, entries_schema_compileEntries hnames, entries_compileEntries,
    List.flatMap_assoc]
  rfl

theorem leavesFrom_asBranch (here : FieldPath) (key : String) (inner : Compiled ρ) :
    (inner.asBranch key).leavesFrom here = inner.schema.leavesFrom (here ++ [key]) := by
  rw [Compiled.leavesFrom, Compiled.asBranch]
  cases hempty : inner.entries.isEmpty with
  | true =>
      rw [Compiled.schema, List.isEmpty_iff.mp hempty]
      rfl
  | false => exact List.append_nil _

theorem leavesFrom_schema_compileEntries {entries : Yaml.Mapping}
    (hentries : entries.DistinctNames) (root here : FieldPath) :
    (read.compileEntries (root ++ here) entries).schema.leavesFrom here =
      (FieldEntry.ofEntries here entries).filterMap (FieldEntry.leaf? read root) := by
  induction hentries generalizing here with
  | @intro entries hnodup _ ih =>
      rw [leavesFrom_schema_eq_flatMap hnodup, FieldEntry.ofEntries_eq_flatMap,
        List.filterMap_flatMap]
      refine List.flatMap_congr fun entry hentry => ?_
      rcases read.keyed_cases root here entry with
        ⟨found, hfound, -, hleaves⟩ | ⟨key, inner, hinner, hfound, hcompiled⟩
      · rw [hfound, hleaves, List.filterMap_cons]
        cases found.leaf? read root <;> rfl
      · rw [hfound, hcompiled, leavesFrom_asBranch]
        exact ih entry hentry inner hinner (here ++ [key])

theorem leaf_or_branch_of_mem_entries {here : FieldPath} {entries : Yaml.Mapping}
    {node : String × Schema.Node ρ} (hnode : node ∈ (read.compileEntries here entries).entries) :
    (∃ place value rules, node.2 = .leaf rules ∧ read.leaf place value = .ok rules) ∨
      ∃ entry ∈ entries, ∃ inner there, entry.2.nested? = some inner ∧
        (read.compileEntries there inner).entries ≠ [] ∧
        node.2 = .branch (read.compileEntries there inner).schema := by
  rw [entries_compileEntries, List.mem_flatMap] at hnode
  obtain ⟨entry, hentry, hnode⟩ := hnode
  rw [compileKeyed] at hnode
  cases hkey : entry.1.text? with
  | none =>
      rw [hkey] at hnode
      cases hnode
  | some key =>
      rw [hkey] at hnode
      dsimp only at hnode
      rw [compileEntry_eq] at hnode
      cases hnested : entry.2.nested? with
      | some inner =>
          rw [hnested] at hnode
          dsimp only [Compiled.asBranch] at hnode
          split at hnode
          · cases hnode
          · rename_i hempty
            obtain rfl := List.mem_singleton.mp hnode
            exact .inr ⟨entry, hentry, inner, here ++ [key], hnested,
              fun h => hempty (List.isEmpty_iff.mpr h), rfl⟩
      | none =>
          rw [hnested] at hnode
          cases hleaf : read.leaf ⟨here ++ [key], []⟩ entry.2 with
          | error fault =>
              rw [hleaf] at hnode
              cases hnode
          | ok rules =>
              rw [hleaf] at hnode
              obtain rfl := List.mem_singleton.mp hnode
              exact .inl ⟨_, _, rules, rfl, hleaf⟩

theorem filled_schema_compileEntries (here : FieldPath) (entries : Yaml.Mapping) :
    (read.compileEntries here entries).schema.Filled := by
  induction entries using Yaml.Mapping.nestedInduction generalizing here with
  | step entries ih =>
      refine Schema.filled_ofEntries ?_
      intro node hnode
      rcases leaf_or_branch_of_mem_entries hnode with
        ⟨place, value, rules, hrules, hleaf⟩ | ⟨entry, hentry, inner, there, hinner, hsome, hsub⟩
      · rw [hrules]
        exact ne_chain_nil_of_leaf hleaf
      · rw [hsub]
        exact ⟨Schema.ofEntries_ne_nil hsome, ih entry hentry inner hinner there⟩

theorem distinctKeys_schema_compileEntries (here : FieldPath) (entries : Yaml.Mapping) :
    (read.compileEntries here entries).schema.DistinctKeys := by
  induction entries using Yaml.Mapping.nestedInduction generalizing here with
  | step entries ih =>
      refine Schema.distinctKeys_ofEntries ?_
      intro node hnode
      rcases leaf_or_branch_of_mem_entries hnode with
        ⟨place, value, rules, hrules, -⟩ | ⟨entry, hentry, inner, there, hinner, -, hsub⟩
      · rw [hrules]
        trivial
      · rw [hsub]
        exact ih entry hentry inner hinner there

end RuleReader

/-! ## Sections -/

theorem Fault.code_ne_code (fault : Fault) (rejection : Rejection) :
    fault.code ≠ rejection.code := by
  cases fault <;> cases rejection <;> simp [code, Rejection.code]

namespace FieldEntry

theorem leaf_or_fault (hread : ∀ place value, FailsWithin place (read place value))
    (name : String) (entry : FieldEntry) :
    (∃ rules, entry.leaf? read [name] = some (entry.path, rules) ∧
        entry.fault? read [name] = none) ∨
      ∃ fault rest, entry.leaf? read [name] = none ∧ entry.fault? read [name] = some fault ∧
        fault.place.text = String.intercalate "." (name :: entry.path) ++ rest := by
  have htext : (⟨name :: entry.path, []⟩ : Place).text =
      String.intercalate "." (name :: entry.path) := String.append_empty
  rw [← htext, leaf?, fault?]
  cases entry with
  | strayKey here => exact .inr ⟨_, "", rfl, rfl, String.append_empty.symm⟩
  | field path value =>
      have hwithin := RuleReader.failsWithin_leaf hread ⟨name :: path, []⟩ value
      rw [outcome]
      cases hleaf : read.leaf ⟨[name] ++ path, []⟩ value with
      | ok rules => exact .inl ⟨rules, rfl, rfl⟩
      | error fault =>
          obtain ⟨rest, hrest⟩ := (hwithin fault hleaf).exists_text
          exact .inr ⟨fault, rest, rfl, rfl, hrest⟩

theorem exists_first_of_fault? (hread : ∀ place value, FailsWithin place (read place value))
    {name : String} {path : FieldPath} {items : List Yaml} {fault : Fault} (hitems : items ≠ [])
    (hfault : (field path (.seq items)).fault? read [name] = some fault) :
    ∃ (first : Nat) (item : Yaml), items[first]? = some item ∧
      read ⟨name :: path, [.element first]⟩ item = .error fault ∧
      Place.Encloses ⟨name :: path, [.element first]⟩ fault.place ∧
      ∀ earlier < first, ∀ other, items[earlier]? = some other →
        ∃ rule, read ⟨name :: path, [.element earlier]⟩ other = .ok rule := by
  have hleaf : read.leaf ⟨name :: path, []⟩ (.seq items) = .error fault := by
    rw [fault?, outcome] at hfault
    cases hleaf : read.leaf ⟨[name] ++ path, []⟩ (.seq items) with
    | ok rules =>
        rw [hleaf] at hfault
        cases hfault
    | error other =>
        rw [hleaf] at hfault
        cases hfault
        exact hleaf
  rw [read.leaf_chain hitems] at hleaf
  rcases Except.bind_eq_error_iff.mp hleaf with hchain | ⟨_, -, ⟨⟩⟩
  obtain ⟨first, bad, hbad, hfirst, hearlier⟩ := read.exists_first_of_chain_eq_error hchain
  simp only [Nat.zero_add] at hfirst hearlier
  exact ⟨first, bad, hbad, hfirst, hread _ bad fault hfirst, hearlier⟩

end FieldEntry

/-- The account of a section: what its schema keeps and what is reported. -/
structure Accounts (read : RuleReader ρ) (name : String) (entries : Yaml.Mapping)
    (schema : Schema ρ) (reported : List Fault) : Prop where
  leaves : schema.leaves =
    (FieldEntry.ofEntries [] entries).filterMap (FieldEntry.leaf? read [name])
  faults : reported =
    (FieldEntry.ofEntries [] entries).filterMap (FieldEntry.fault? read [name])
  /-- No entry is lost or counted twice, and faults say where they belong. -/
  once : ∀ entry ∈ FieldEntry.ofEntries [] entries,
    (∃ rules, entry.leaf? read [name] = some (entry.path, rules) ∧
        entry.fault? read [name] = none) ∨
      ∃ fault rest, entry.leaf? read [name] = none ∧ entry.fault? read [name] = some fault ∧
        fault.place.text = String.intercalate "." (name :: entry.path) ++ rest
  distinct : schema.leafPaths.Nodup
  fieldFaults : ∀ fault ∈ reported, ∀ rejection : Rejection, fault.code ≠ rejection.code
  /-- A chain is reported at its first element that is no rule. -/
  first : ∀ path items, .field path (.seq items) ∈ FieldEntry.ofEntries [] entries →
    ∀ fault, (FieldEntry.field path (.seq items)).fault? read [name] = some fault → items ≠ [] →
      ∃ (first : Nat) (item : Yaml), items[first]? = some item ∧
        read ⟨name :: path, [.element first]⟩ item = .error fault ∧
        Place.Encloses ⟨name :: path, [.element first]⟩ fault.place ∧
        ∀ earlier < first, ∀ other, items[earlier]? = some other →
          ∃ rule, read ⟨name :: path, [.element earlier]⟩ other = .ok rule
  filled : schema.Filled

theorem accounts_compileEntries (hread : ∀ place value, FailsWithin place (read place value))
    {entries : Yaml.Mapping} (hentries : entries.DistinctNames) (name : String) :
    Accounts read name entries (read.compileEntries [name] entries).schema
      (read.compileEntries [name] entries).faults where
  leaves := RuleReader.leavesFrom_schema_compileEntries hentries [name] []
  faults := RuleReader.faults_compileEntries_eq [name] [] entries
  once entry _ := entry.leaf_or_fault hread name
  distinct := Schema.nodup_leafPaths (RuleReader.distinctKeys_schema_compileEntries [name] entries)
  fieldFaults fault _ := fault.code_ne_code
  first _ _ _ _ hfault hitems := FieldEntry.exists_first_of_fault? hread hitems hfault
  filled := RuleReader.filled_schema_compileEntries [name] entries

namespace Document

/-- The whole report, with the faults of the conversions first. -/
theorem compile_accounts [PatternEngine] [Yaml.JsonForm] {document : Document}
    (htransformation : document.transformation.DistinctNames)
    (hvalidation : document.validation.DistinctNames) :
    ∃ conversionFaults checkFaults,
      document.compile.faults = conversionFaults ++ checkFaults ∧
        Accounts Conversion.ofYaml "transform" document.transformation
          document.compile.transformation conversionFaults ∧
        Accounts Check.ofYaml "validate" document.validation
          document.compile.validation checkFaults :=
  ⟨_, _, rfl, accounts_compileEntries Conversion.failsWithin_ofYaml htransformation "transform",
    accounts_compileEntries Check.failsWithin_ofYaml hvalidation "validate"⟩

/-- A chain with an unknown rule, and a nested object with a key that is no string. -/
theorem compile_accounts_mixed :
    let document : Document :=
      { transformation :=
          [(.str "name", .seq [.str "trim", .str "shout"]),
            (.str "address", .map [(.str "city", .str "trim"), (.null, .str "trim")])]
        validation := [(.str "age", .map [(.str "rule", .str "required")])] }
    document.transformation.DistinctNames ∧ document.validation.DistinctNames ∧
      ∃ conversionFaults checkFaults,
        document.compile.faults = conversionFaults ++ checkFaults ∧
          Accounts Conversion.ofYaml "transform" document.transformation
            document.compile.transformation conversionFaults ∧
          Accounts Check.ofYaml "validate" document.validation
            document.compile.validation checkFaults := by
  intro document
  have haddress : Yaml.Mapping.DistinctNames
      [(.str "city", .str "trim"), (.null, .str "trim")] := by
    refine .intro (by decide) ?_
    simp [Yaml.nested?]
  have htransformation : document.transformation.DistinctNames := by
    refine .intro (by decide) ?_
    simpa [document, Yaml.nested?, Yaml.Mapping.get?] using haddress
  have hvalidation : document.validation.DistinctNames := by
    refine .intro (by decide) ?_
    simp [document, Yaml.nested?, Yaml.Mapping.get?]
  exact ⟨htransformation, hvalidation, compile_accounts htransformation hvalidation⟩

end Document

end SubjectRules
