import Mathlib.Data.List.Basic
import SubjectRules.Proofs.Validation.Early
import SubjectRules.Proofs.Walk.Trace

/-!
# What a validation sees of its subject

A walk looks at its subject in two ways only: a leaf is asked about the value at its
path, and a branch is pruned for the value at its path.  Subjects that agree in both
are walked alike.  Validation prunes a branch for nothing but whether the value there is
missing or null.  So a subject can be told from another by the values at the leaves and
by which branches are absent: not by the order of its keys, not by fields without a
rule, and not by what stands at a branch instead of an object.
-/

namespace SubjectRules

variable {ε ρ α : Type}

namespace Schema

/-! ## Subjects that agree -/

/-- Two subjects agree on a schema: they hold the same, or both nothing, at every leaf path,
and the same branches are missing or null. -/
structure Agree (s : Schema ρ) (one other : Json.Fields) : Prop where
  leaves : ∀ path ∈ s.leafPaths, Json.Fields.lookup path one = Json.Fields.lookup path other
  branches : ∀ path ∈ s.branchPaths,
    isNothing (Json.Fields.lookup path one) = isNothing (Json.Fields.lookup path other)

variable {s : Schema ρ} {one other : Json.Fields}

theorem Agree.visit? (hagree : s.Agree one other) {site : Site ρ} (hsite : site ∈ s.sites) :
    site.visit? (some one) = site.visit? (some other) := by
  cases hnode : site.node with
  | branch sub => simp [Site.visit?, hnode]
  | leaf rules =>
      have hvalue := hagree.leaves site.path (path_mem_leafPaths hsite hnode)
      simp only [Site.visit?, hnode, valueAt, Option.bind_some, hvalue]

theorem Agree.isOpen (hagree : s.Agree one other) {site : Site ρ} (hsite : site ∈ s.sites) :
    site.isOpen (fun _ value => isNothing value) (some one) =
      site.isOpen (fun _ value => isNothing value) (some other) := by
  rw [Bool.eq_iff_iff, Site.isOpen, nonePruned, List.all_eq_true, Site.isOpen, nonePruned,
    List.all_eq_true]
  refine forall₂_congr fun branch hbranch => ?_
  have hbranch := hagree.branches branch.1 (mem_branchPaths_of_mem_around hsite hbranch)
  simp only [valueAt, Option.bind_some, hbranch]

theorem Agree.reached (hagree : s.Agree one other) :
    s.reached (fun _ value => isNothing value) (some one) =
      s.reached (fun _ value => isNothing value) (some other) :=
  List.filter_congr fun _ hsite => hagree.isOpen hsite

theorem Agree.visitsBeside (hagree : s.Agree one other) :
    s.visitsBeside one = s.visitsBeside other := by
  rw [Schema.visitsBeside, visits, Schema.visitsBeside, visits, ← hagree.reached]
  exact List.filterMap_congr fun site hsite => hagree.visit? (List.mem_of_mem_filter hsite)

/-! ## What subjects may differ in -/

theorem Agree.refl (s : Schema ρ) (subject : Json.Fields) : s.Agree subject subject :=
  ⟨fun _ _ => rfl, fun _ _ => rfl⟩

theorem agree_leaf_iff {key : String} {rules : Leaf ρ} {rest : Schema ρ} :
    (Schema.leaf key rules rest).Agree one other ↔
      one.get? key = other.get? key ∧ rest.Agree one other := by
  constructor
  · intro ⟨hleaves, hbranches⟩
    obtain ⟨hkey, hrest⟩ := List.forall_mem_cons.mp hleaves
    exact ⟨hkey, hrest, hbranches⟩
  · intro ⟨hkey, hleaves, hbranches⟩
    exact ⟨List.forall_mem_cons.mpr ⟨hkey, hleaves⟩, hbranches⟩

theorem agree_branch_iff {key : String} {sub rest : Schema ρ} :
    (Schema.branch key sub rest).Agree one other ↔
      isNothing (one.get? key) = isNothing (other.get? key) ∧
        sub.Agree (one.objectAt key) (other.objectAt key) ∧ rest.Agree one other := by
  have hleaf : ∀ path ∈ sub.leafPaths, ∀ fields : Json.Fields,
      Json.Fields.lookup (key :: path) fields = Json.Fields.lookup path (fields.objectAt key) :=
    fun _ hpath => Json.Fields.lookup_cons key (ne_nil_of_mem_leafPaths hpath)
  have hbranch : ∀ path ∈ sub.branchPaths, ∀ fields : Json.Fields,
      Json.Fields.lookup (key :: path) fields = Json.Fields.lookup path (fields.objectAt key) :=
    fun _ hpath => Json.Fields.lookup_cons key (ne_nil_of_mem_branchPaths hpath)
  constructor
  · intro ⟨hleaves, hbranches⟩
    rw [leafPaths_branch, List.forall_mem_append, List.forall_mem_map] at hleaves
    rw [branchPaths, List.forall_mem_cons, List.forall_mem_append, List.forall_mem_map]
      at hbranches
    obtain ⟨hkey, hbelow, hothers⟩ := hbranches
    refine ⟨hkey, ⟨fun path hpath => ?_, fun path hpath => ?_⟩, hleaves.2, hothers⟩
    · rw [← hleaf path hpath, ← hleaf path hpath, hleaves.1 path hpath]
    · rw [← hbranch path hpath, ← hbranch path hpath, hbelow path hpath]
  · intro ⟨hkey, ⟨hleaves, hbranches⟩, hrest⟩
    constructor
    · rw [leafPaths_branch, List.forall_mem_append, List.forall_mem_map]
      refine ⟨fun path hpath => ?_, hrest.leaves⟩
      rw [hleaf path hpath, hleaf path hpath, hleaves path hpath]
    · rw [branchPaths, List.forall_mem_cons, List.forall_mem_append, List.forall_mem_map]
      refine ⟨hkey, fun path hpath => ?_, hrest.branches⟩
      rw [hbranch path hpath, hbranch path hpath, hbranches path hpath]

theorem agree_objectAt {key : String} (hkey : one.get? key = other.get? key) (sub : Schema ρ) :
    sub.Agree (one.objectAt key) (other.objectAt key) := by
  have hobject : one.objectAt key = other.objectAt key := by
    rw [Json.Fields.objectAt, hkey, Json.Fields.objectAt]
  rw [hobject]
  exact Agree.refl sub _

theorem Agree.of_get? (h : ∀ key ∈ s.keys, one.get? key = other.get? key) : s.Agree one other := by
  induction s with
  | nil => exact ⟨nofun, nofun⟩
  | leaf key rules rest ih =>
      obtain ⟨hkey, hrest⟩ := List.forall_mem_cons.mp h
      exact agree_leaf_iff.mpr ⟨hkey, ih hrest⟩
  | branch key sub rest _ ih =>
      obtain ⟨hkey, hrest⟩ := List.forall_mem_cons.mp h
      exact agree_branch_iff.mpr ⟨congrArg isNothing hkey, agree_objectAt hkey sub, ih hrest⟩

theorem Agree.insert_branch (hs : s.DistinctKeys) {key : String} {sub : Schema ρ}
    (hsub : s.get? key = some (.branch sub)) {subject : Json.Fields} {value : Json}
    (hnothing : isNothing (subject.get? key) = value.isNull)
    (hinner : sub.Agree (subject.objectAt key) (value.fields?.getD [])) :
    s.Agree subject (subject.insert key value) := by
  have hother : ∀ k, key ≠ k → subject.get? k = (subject.insert key value).get? k := by
    intro k hne
    rw [Json.Fields.get?_insert, if_neg hne]
  induction s with
  | nil => cases hsub
  | leaf k rules rest ih =>
      rw [get?] at hsub
      split at hsub
      · cases hsub
      · rename_i hne
        exact agree_leaf_iff.mpr ⟨hother k (Ne.symm hne), ih hs.2 hsub⟩
  | branch k below rest _ ih =>
      obtain ⟨hk, -, hrest⟩ := hs
      rw [get?] at hsub
      split at hsub
      · rename_i heq
        subst heq
        cases hsub
        have hself : (subject.insert k value).get? k = some value := by
          rw [Json.Fields.get?_insert, if_pos rfl]
        refine agree_branch_iff.mpr ⟨?_, ?_, .of_get? fun other hmem => ?_⟩
        · rw [hself, hnothing]
          rfl
        · rw [Json.Fields.objectAt, Json.Fields.objectAt, hself]
          exact hinner
        · exact hother other fun heq => hk (heq ▸ hmem)
      · rename_i hne
        have hkey := hother k (Ne.symm hne)
        exact agree_branch_iff.mpr
          ⟨congrArg isNothing hkey, agree_objectAt hkey below, ih hrest hsub⟩

end Schema

/-! ## Walking beside subjects that agree -/

variable {schema : Schema (Validator ε)} {one other : Json.Fields}

theorem visit_validation_congr (hagree : schema.Agree one other) (abortEarly : Bool)
    {site : Site (Validator ε)} (hsite : site ∈ schema.sites) :
    (validation one abortEarly).visit site = (validation other abortEarly).visit site := by
  rw [Walk.visit, Walk.visit]
  cases hnode : site.node with
  | branch sub => rfl -- the values here may differ, but pruning logs nothing
  | leaf rules =>
      have hvalue : valueAt (some one) site.path = valueAt (some other) site.path :=
        hagree.leaves site.path (Schema.path_mem_leafPaths hsite hnode)
      exact congrArg ((validation one abortEarly).collectLeaf site.path rules) hvalue

theorem collect_validation_congr (hagree : schema.Agree one other) (abortEarly : Bool) :
    (validation one abortEarly).collect [] (some one) schema =
      (validation other abortEarly).collect [] (some other) schema :=
  let w := validation (ε := ε) one abortEarly
  let w' := validation (ε := ε) other abortEarly
  calc w.collect [] w.related schema
    _ = Walk.sweep w.visit (w.reached schema) := w.collect_eq_sweep_reached schema
    _ = Walk.sweep w'.visit (w.reached schema) := Walk.sweep_congr fun _ hsite =>
        visit_validation_congr hagree abortEarly (List.mem_of_mem_filter hsite)
    _ = Walk.sweep w'.visit (w'.reached schema) := congrArg _ hagree.reached
    _ = w'.collect [] w'.related schema := (w'.collect_eq_sweep_reached schema).symm

theorem settle_validation (one other : Json.Fields) (abortEarly : Bool)
    (slots : List (Slot ε Failure)) :
    (validation one abortEarly).settle slots = (validation other abortEarly).settle slots := by
  rw [Walk.settle, Walk.settle]
  simp only [Walk.siftLater_eq_sweep]
  rfl

theorem run_validation_congr (hagree : schema.Agree one other) (abortEarly : Bool) :
    (validation one abortEarly).run schema = (validation other abortEarly).run schema := by
  have hpass := collect_validation_congr hagree abortEarly
  -- behind its pass, a validation does not look at its subject
  have hawait := settle_validation (ε := ε) one other abortEarly
  simp only [Walk.run, validation] at hpass hawait ⊢
  simp only [hpass, hawait]
  rfl

theorem asked_validation_congr (hagree : schema.Agree one other) (abortEarly : Bool) :
    (validation one abortEarly).asked schema = (validation other abortEarly).asked schema := by
  have hvisits : (validation one abortEarly).visits schema =
      (validation other abortEarly).visits schema := hagree.visitsBeside
  rw [Walk.asked_eq_upTo, Walk.asked_eq_upTo, hvisits]
  rfl

theorem validate_congr (hagree : schema.Agree one other) (abortEarly : Bool) :
    validate one schema abortEarly = validate other schema abortEarly := by
  rw [validate, validate, run_validation_congr hagree]

theorem validate_congr_of_get? (h : ∀ key ∈ schema.keys, one.get? key = other.get? key)
    (abortEarly : Bool) : validate one schema abortEarly = validate other schema abortEarly :=
  validate_congr (.of_get? h) abortEarly

theorem validate_insert_flat (hschema : schema.DistinctKeys) {key : String}
    {sub : Schema (Validator ε)} (hsub : schema.get? key = some (.branch sub))
    {subject : Json.Fields} {old value : Json} (hold : subject.get? key = some old)
    (hflat : old.fields? = none ∧ value.fields? = none) (hnull : old.isNull = value.isNull)
    (abortEarly : Bool) :
    validate subject schema abortEarly =
      validate (subject.insert key value) schema abortEarly := by
  have hinner : sub.Agree (subject.objectAt key) (value.fields?.getD []) := by
    rw [Json.Fields.objectAt, hold, Option.bind_some, hflat.1, hflat.2]
    exact .refl sub []
  exact validate_congr (.insert_branch hschema hsub (by rw [hold]; exact hnull) hinner) abortEarly

def Walk.calls (w : Walk ε ρ α) (s : Schema ρ) : List (Walk.Call ρ α) :=
  w.passCalls s ++ w.awaitCalls s

theorem Walk.asked_calls (w : Walk ε ρ α) (s : Schema ρ) :
    (w.calls s).filterMap Walk.Call.asked? =
      (w.asked s).map fun visit => (visit.rules, visit.value) := by
  rw [Walk.calls, List.filterMap_append, (w.passCalls_order s).asks, (w.awaitCalls_order s).asks,
    List.append_nil]

/-- Subjects with the same values at the leaves of a schema, and the same of its branches
missing or null, are validated alike: every leaf is asked the same in the same order, and
the answer is the same with all its events, down to the order of the keys in the report. -/
theorem validate_sees_leaves_and_branches {schema : Schema (Validator ε)}
    {one other : Json.Fields}
    (hleaves : ∀ path ∈ schema.leafPaths,
      Json.Fields.lookup path one = Json.Fields.lookup path other)
    (hbranches : ∀ path ∈ schema.branchPaths,
      isNothing (Json.Fields.lookup path one) = isNothing (Json.Fields.lookup path other))
    (abortEarly : Bool) :
    validate one schema abortEarly = validate other schema abortEarly ∧
      ((validation one abortEarly).calls schema).filterMap Walk.Call.asked? =
        ((validation other abortEarly).calls schema).filterMap Walk.Call.asked? := by
  have hagree : schema.Agree one other := ⟨hleaves, hbranches⟩
  constructor
  · exact validate_congr hagree abortEarly
  · rw [Walk.asked_calls, Walk.asked_calls, asked_validation_congr hagree]

theorem validate_sees_leaves_and_branches_reordered :
    let schema : Schema (Validator Unit) :=
      .branch "inner" (.leaf "code" (.single (lateCheck "a")) .nil)
        (.branch "flat" (.leaf "code" (.single (promptCheck "b")) .nil)
          (.leaf "name" (.single (lateCheck "c")) .nil))
    let one : Json.Fields := [("more", .bool true), ("name", .str "x"), ("flat", .str "text"),
      ("inner", .obj [("more", .null), ("code", .null)])]
    let other : Json.Fields := [("inner", .obj [("code", .null), ("rest", .arr [])]),
      ("flat", .arr [.null]), ("name", .str "x")]
    (∀ abortEarly, validate one schema abortEarly = validate other schema abortEarly) ∧
      ∃ report, (validate one schema false).value.value = some report ∧
        report.leafPaths = [["flat", "code"]] := by
  intro schema one other
  have hinner : (Schema.leaf "code" (.single (lateCheck "a")) .nil).Agree
      [("more", .null), ("code", .null)] [("code", .null), ("rest", .arr [])] :=
    .of_get? (List.forall_mem_cons.mpr ⟨rfl, nofun⟩)
  have hname : (Schema.leaf "name" (.single (lateCheck "c")) .nil).Agree one other :=
    .of_get? (List.forall_mem_cons.mpr ⟨rfl, nofun⟩)
  have hflat : (Schema.leaf "code" (.single (promptCheck "b")) .nil).Agree [] [] := .refl _ []
  have hagree : schema.Agree one other := Schema.agree_branch_iff.mpr
    ⟨rfl, hinner, Schema.agree_branch_iff.mpr ⟨rfl, hflat, hname⟩⟩
  refine ⟨fun abortEarly => ?_, _, rfl, rfl⟩
  exact (validate_sees_leaves_and_branches hagree.leaves hagree.branches abortEarly).1

end SubjectRules
