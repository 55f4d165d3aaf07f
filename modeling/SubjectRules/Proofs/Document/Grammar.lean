import SubjectRules.Proofs.Document.Accounting

/-!
# The grammar of rule documents

An entry is a rule, a sequence of rules that is not empty, or a nested object whose keys are
strings and whose values are entries.  A section holds entries under strings.  Compiling a
document reports no fault exactly when both sections follow the grammar.
-/

namespace SubjectRules

mutual

inductive IsEntry (IsRule : Yaml → Prop) : Yaml → Prop
  | rule {value : Yaml} : IsRule value → IsEntry IsRule value
  | chain {items : List Yaml} :
      items ≠ [] → (∀ item ∈ items, IsRule item) → IsEntry IsRule (.seq items)
  | nested {entries : Yaml.Mapping} :
      entries.get? "rule" = none → IsSection IsRule entries → IsEntry IsRule (.map entries)

inductive IsSection (IsRule : Yaml → Prop) : Yaml.Mapping → Prop
  | intro {entries : Yaml.Mapping} : (∀ entry ∈ entries, entry.1.text?.isSome = true) →
      (∀ entry ∈ entries, IsEntry IsRule entry.2) → IsSection IsRule entries

end

theorem Yaml.Calls.nested?_eq_none {value : Yaml} {name : String} {arguments : Yaml.Mapping}
    (hcalls : value.Calls name arguments) : value.nested? = none := by
  cases hcalls with
  | alone => rfl
  | mapped hrule =>
      rw [nested?, hrule]
      rfl

theorem Yaml.Calls.ne_seq {value : Yaml} {name : String} {arguments : Yaml.Mapping}
    (hcalls : value.Calls name arguments) (items : List Yaml) : value ≠ .seq items := by
  rintro rfl
  cases hcalls

variable {ρ : Type} {read : RuleReader ρ} {IsRule : Yaml → Prop}

/-- A reader that succeeds, wherever it is, on the rules. -/
structure RuleReader.Recognizes (read : RuleReader ρ) (IsRule : Yaml → Prop) : Prop where
  ok_iff : ∀ place value, (∃ rule, read place value = .ok rule) ↔ IsRule value
  calls : ∀ value, IsRule value → ∃ name arguments, value.Calls name arguments

theorem Conversion.recognizes [Yaml.JsonForm] :
    RuleReader.Recognizes ofYaml fun value => ∃ conversion, SpelledBy value conversion where
  ok_iff _ _ := exists_congr fun _ => ofYaml_eq_ok_iff
  calls _ := fun ⟨_, hcalls, _⟩ => ⟨_, _, hcalls⟩

theorem Check.recognizes [PatternEngine] [Yaml.JsonForm] :
    RuleReader.Recognizes ofYaml fun value => ∃ check, SpelledBy value check where
  ok_iff _ _ := exists_congr fun _ => ofYaml_eq_ok_iff
  calls _ := fun ⟨_, hcalls, _⟩ => ⟨_, _, hcalls⟩

/-! ## Entries by their form -/

section

variable (hrules : ∀ value, IsRule value → ∃ name arguments, value.Calls name arguments)

include hrules

theorem isEntry_seq_iff {items : List Yaml} :
    IsEntry IsRule (.seq items) ↔ items ≠ [] ∧ ∀ item ∈ items, IsRule item := by
  constructor
  · rintro (hrule | ⟨hne, hitems⟩)
    · obtain ⟨_, _, hcalls⟩ := hrules _ hrule
      exact absurd rfl (hcalls.ne_seq items)
    · exact ⟨hne, hitems⟩
  · rintro ⟨hne, hitems⟩
    exact .chain hne hitems

theorem isEntry_iff_isSection {value : Yaml} {inner : Yaml.Mapping}
    (hvalue : value.nested? = some inner) : IsEntry IsRule value ↔ IsSection IsRule inner := by
  obtain ⟨rfl, hrule⟩ := Yaml.nested?_eq_some_iff.mp hvalue
  constructor
  · rintro (hentry | _ | ⟨_, hinner⟩)
    · obtain ⟨_, _, hcalls⟩ := hrules _ hentry
      cases hvalue.symm.trans hcalls.nested?_eq_none
    · exact hinner
  · exact IsEntry.nested hrule

end

theorem isSection_iff {entries : Yaml.Mapping} :
    IsSection IsRule entries ↔
      ∀ entry ∈ entries, entry.1.text?.isSome = true ∧ IsEntry IsRule entry.2 := by
  constructor
  · rintro ⟨hkeys, hvalues⟩ entry hentry
    exact ⟨hkeys entry hentry, hvalues entry hentry⟩
  · intro hentries
    exact .intro (fun entry hentry => (hentries entry hentry).1)
      fun entry hentry => (hentries entry hentry).2

theorem isEntry_iff_isRule {value : Yaml} (hvalue : value.nested? = none)
    (hseq : ∀ items, value ≠ .seq items) : IsEntry IsRule value ↔ IsRule value := by
  constructor
  · rintro (hrule | _ | ⟨hnone, _⟩)
    · exact hrule
    · exact absurd rfl (hseq _)
    · cases hvalue.symm.trans (Yaml.nested?_eq_some_iff.mpr ⟨rfl, hnone⟩)
  · exact IsEntry.rule

/-! ## Reading entries -/

namespace RuleReader

theorem chain_ok_iff (hread : read.Recognizes IsRule) (place : Place) (index : Nat)
    {items : List Yaml} :
    (∃ rules, read.chain place index items = .ok rules) ↔ ∀ item ∈ items, IsRule item := by
  induction items generalizing index with
  | nil => simp [chain]
  | cons item rest ih =>
      rw [List.forall_mem_cons, ← hread.ok_iff (place.step (.element index)),
        ← ih (index + 1)]
      simp only [chain, Except.bind_eq_ok_iff]
      constructor
      · rintro ⟨_, rule, hrule, rules, hrules, -⟩
        exact ⟨⟨rule, hrule⟩, rules, hrules⟩
      · rintro ⟨⟨rule, hrule⟩, rules, hrules⟩
        exact ⟨_, rule, hrule, rules, hrules, rfl⟩

theorem leaf_ok_iff (hread : read.Recognizes IsRule) {place : Place} {value : Yaml}
    (hvalue : value.nested? = none) :
    (∃ rules, read.leaf place value = .ok rules) ↔ IsEntry IsRule value := by
  rcases read.leaf_cases place value with
    ⟨rfl, hleaf⟩ | ⟨items, hne, rfl, hleaf⟩ | ⟨hseq, hleaf⟩
  all_goals rw [hleaf]
  · simp [isEntry_seq_iff hread.calls]
  · rw [isEntry_seq_iff hread.calls, and_iff_right hne, ← chain_ok_iff hread place 0]
    exact Except.exists_bind_pure_eq_ok_iff
  · rw [isEntry_iff_isRule hvalue hseq, ← hread.ok_iff place]
    exact Except.exists_bind_pure_eq_ok_iff

end RuleReader

theorem FieldEntry.fault?_field_eq_none_iff {root path : FieldPath} {value : Yaml} :
    (field path value).fault? read root = none ↔
      ∃ rules, read.leaf ⟨root ++ path, []⟩ value = .ok rules := by
  rw [fault?, outcome]
  cases read.leaf ⟨root ++ path, []⟩ value <;> simp [bind, Except.bind, pure, Except.pure]

theorem forall_fault?_eq_none_iff (hread : read.Recognizes IsRule) (root here : FieldPath)
    (entries : Yaml.Mapping) :
    (∀ entry ∈ FieldEntry.ofEntries here entries, entry.fault? read root = none) ↔
      IsSection IsRule entries := by
  induction entries using Yaml.Mapping.nestedInduction generalizing here with
  | step entries ih =>
      rw [FieldEntry.ofEntries_eq_flatMap, List.forall_mem_flatMap, isSection_iff]
      refine forall₂_congr fun entry hentry => ?_
      rw [FieldEntry.ofKeyed]
      cases entry.1.text? with
      | none => simp [FieldEntry.fault?, FieldEntry.outcome]
      | some key =>
          dsimp only
          rw [FieldEntry.ofValue_eq, Option.isSome_some, and_iff_right rfl]
          cases hnested : entry.2.nested? with
          | some inner =>
              rw [isEntry_iff_isSection hread.calls hnested]
              exact ih entry hentry inner hnested (here ++ [key])
          | none =>
              rw [List.forall_mem_singleton, FieldEntry.fault?_field_eq_none_iff]
              exact RuleReader.leaf_ok_iff hread hnested

namespace Document

/-- A document compiles without a fault exactly when its sections follow the grammar. -/
theorem compile_faults_eq_nil_iff [PatternEngine] [Yaml.JsonForm] (document : Document) :
    document.compile.faults = [] ↔
      IsSection (fun value => ∃ conversion, Conversion.SpelledBy value conversion)
          document.transformation ∧
        IsSection (fun value => ∃ check, Check.SpelledBy value check) document.validation := by
  have hconversions := forall_fault?_eq_none_iff Conversion.recognizes ["transform"] []
    document.transformation
  have hchecks := forall_fault?_eq_none_iff Check.recognizes ["validate"] []
    document.validation
  rw [← List.filterMap_eq_nil_iff, ← RuleReader.faults_compileEntries_eq] at hconversions hchecks
  rw [← hconversions, ← hchecks]
  exact List.append_eq_nil_iff

end Document

end SubjectRules
