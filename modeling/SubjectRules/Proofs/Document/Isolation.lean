import SubjectRules.Proofs.Document.Accounting
import SubjectRules.Proofs.Document.Stack

/-!
# Entries do not affect each other

A section whose names are distinct compiles part by part: its schema and its faults are those of
the parts, one after another.  So what one entry comes to, at any depth, stands between what the
others come to, and another value there changes nothing around it.
-/

namespace SubjectRules

/-! ## Mappings with an open place -/

namespace Yaml

/-- A mapping in which one value is left open, its own or that of a mapping it holds. -/
inductive Hole where
  | entry (before : Mapping) (key : Yaml) (after : Mapping)
  | inside (before : Mapping) (key : Yaml) (inner : Hole) (after : Mapping)

namespace Hole

def fill (value : Yaml) : Hole → Mapping
  | .entry before key after => before ++ (key, value) :: after
  | .inside before key inner after => before ++ (key, .map (inner.fill value)) :: after

def key : Hole → Yaml
  | .entry _ key _ => key
  | .inside _ _ inner _ => inner.key

def keys : Hole → List Yaml
  | .entry before key after | .inside before key _ after =>
      before.map Prod.fst ++ key :: after.map Prod.fst

/-- The hole lies in the object at a path: nested objects lead there, under distinct names. -/
inductive LiesIn : Hole → FieldPath → Prop
  | entry {before : Mapping} {key : Yaml} {after : Mapping} : LiesIn (.entry before key after) []
  | inside {before : Mapping} {key : Yaml} {inner : Hole} {after : Mapping} {name : String}
      {path : FieldPath} : key.text? = some name → .str "rule" ∉ inner.keys →
        (inner.keys.filterMap text?).Nodup → inner.LiesIn path →
          LiesIn (.inside before key inner after) (name :: path)

theorem map_fst_fill (hole : Hole) (value : Yaml) : (hole.fill value).map Prod.fst = hole.keys := by
  cases hole <;> simp [fill, keys]

theorem nodup_names_fill_iff {hole : Hole} (value : Yaml) :
    ((hole.fill value).filterMap fun entry => entry.1.text?).Nodup ↔
      (hole.keys.filterMap text?).Nodup := by
  rw [← map_fst_fill hole value, List.filterMap_map]
  rfl

theorem nested?_fill {hole : Hole} (hrule : .str "rule" ∉ hole.keys) (value : Yaml) :
    (Yaml.map (hole.fill value)).nested? = some (hole.fill value) := by
  refine nested?_eq_some_iff.mpr ⟨rfl, ?_⟩
  rw [Option.eq_none_iff_forall_ne_some]
  intro written hwritten
  have hmem := List.mem_map_of_mem (f := Prod.fst) (Mapping.mem_of_get? hwritten)
  rw [map_fst_fill] at hmem
  exact hrule hmem

end Hole

end Yaml

variable {ρ : Type} {read : RuleReader ρ}

namespace RuleReader

/-! ## Parts of a section -/

theorem compileEntries_append (read : RuleReader ρ) (here : FieldPath)
    (first second : Yaml.Mapping) :
    read.compileEntries here (first ++ second) =
      (read.compileEntries here first).append (read.compileEntries here second) := by
  induction first with
  | nil => rfl
  | cons entry rest ih =>
      have hcons : ∀ others, read.compileEntries here (entry :: others) =
          (read.compileKeyed here entry).append (read.compileEntries here others) := fun _ => rfl
      rw [List.cons_append, hcons, hcons, ih]
      simp [Compiled.append]

theorem exists_name_of_mem_leavesFrom {here path : FieldPath} {entry : Yaml × Yaml}
    {leaf : FieldPath × Leaf ρ} (hleaf : leaf ∈ (read.compileKeyed here entry).leavesFrom path) :
    ∃ name, entry.1.text? = some name ∧ path ++ [name] <+: leaf.1 := by
  obtain ⟨⟨name, node⟩, hnode, hbelow⟩ := List.mem_flatMap.mp hleaf
  have hname := (read.keys_compileKeyed here entry).mem (List.mem_map_of_mem hnode)
  refine ⟨name, Option.mem_toList.mp hname, ?_⟩
  cases node with
  | leaf rules =>
      obtain rfl := List.mem_singleton.mp hbelow
      exact List.prefix_refl _
  | branch sub =>
      have hpath := List.mem_map_of_mem (f := Prod.fst) hbelow
      rw [Schema.Node.leavesFrom, Schema.map_fst_leavesFrom] at hpath
      obtain ⟨rest, -, heq⟩ := List.mem_map.mp hpath
      exact ⟨rest, heq⟩

theorem incomparable_of_mem_leaves {here path : FieldPath} {before after : Yaml.Mapping}
    {key : Yaml} {name : String} (hname : key.text? = some name)
    (hnames : ((before.map Prod.fst ++ key :: after.map Prod.fst).filterMap Yaml.text?).Nodup)
    {leaf : FieldPath × Leaf ρ}
    (hleaf : leaf ∈ (before ++ after).flatMap fun entry =>
      (read.compileKeyed here entry).leavesFrom path) (below : FieldPath) :
    Incomparable leaf.1 (path ++ name :: below) := by
  obtain ⟨entry, hentry, hleaf⟩ := List.mem_flatMap.mp hleaf
  obtain ⟨other, hother, more, hmore⟩ := exists_name_of_mem_leavesFrom hleaf
  have hnames : (((key :: (before ++ after).map Prod.fst)).filterMap Yaml.text?).Nodup := by
    rw [List.map_append]
    exact (List.perm_middle.filterMap _).nodup_iff.mp hnames
  rw [List.filterMap_cons_some hname, List.nodup_cons, List.filterMap_map] at hnames
  have hne : other ≠ name := by
    rintro rfl
    exact hnames.1 (List.mem_filterMap.mpr ⟨entry, hentry, hother⟩)
  rw [← hmore, List.append_assoc, List.singleton_append]
  simp only [Incomparable, List.prefix_append_right_inj]
  exact incomparable_cons_iff.mpr (.inl hne)

theorem exists_around_hole {hole : Yaml.Hole} {inside : FieldPath} (hlies : hole.LiesIn inside)
    (hnames : (hole.keys.filterMap Yaml.text?).Nodup) (here path : FieldPath) :
    ∃ leavesBefore leavesAfter faultsBefore faultsAfter,
      (∀ name, hole.key.text? = some name → ∀ leaf ∈ leavesBefore ++ leavesAfter,
        Incomparable leaf.1 (path ++ (inside ++ [name]))) ∧
      ∀ value,
        let whole := read.compileEntries here (hole.fill value)
        let own := read.compileKeyed (here ++ inside) (hole.key, value)
        whole.schema.leavesFrom path =
            leavesBefore ++ own.leavesFrom (path ++ inside) ++ leavesAfter ∧
          whole.faults = faultsBefore ++ own.faults ++ faultsAfter := by
  -- on the way to the hole the siblings at each level join the parts found further inside
  induction hlies generalizing here path with
  | @entry before key after =>
      refine ⟨before.flatMap fun entry => (read.compileKeyed here entry).leavesFrom path,
        after.flatMap fun entry => (read.compileKeyed here entry).leavesFrom path,
        before.flatMap fun entry => (read.compileKeyed here entry).faults,
        after.flatMap fun entry => (read.compileKeyed here entry).faults, ?_, ?_⟩
      · intro name hname leaf hleaf
        rw [← List.flatMap_append] at hleaf
        exact incomparable_of_mem_leaves hname hnames hleaf []
      · intro value
        dsimp only
        rw [leavesFrom_schema_eq_flatMap ((Yaml.Hole.nodup_names_fill_iff value).mpr hnames),
          faults_compileEntries]
        simp [Yaml.Hole.fill, Yaml.Hole.key]
  | @inside before key inner after name more hkey hrule hinner _ ih =>
      obtain ⟨leavesBefore, leavesAfter, faultsBefore, faultsAfter, hothers, hwhole⟩ :=
        ih hinner (here ++ [name]) (path ++ [name])
      let leavesOf := fun entry => (read.compileKeyed here entry).leavesFrom path
      let faultsOf := fun entry => (read.compileKeyed here entry).faults
      refine ⟨before.flatMap leavesOf ++ leavesBefore, leavesAfter ++ after.flatMap leavesOf,
        before.flatMap faultsOf ++ faultsBefore, faultsAfter ++ after.flatMap faultsOf, ?_, ?_⟩
      · intro last hlast leaf hleaf
        have hwhere : leaf ∈ (before ++ after).flatMap leavesOf ∨
            leaf ∈ leavesBefore ++ leavesAfter := by
          simp only [List.mem_append, List.flatMap_append] at hleaf ⊢
          tauto
        rcases hwhere with hbeside | hinside
        · exact incomparable_of_mem_leaves hkey hnames hbeside (more ++ [last])
        · simpa using hothers last hlast leaf hinside
      · intro value
        have hcompiled : read.compileKeyed here (key, .map (inner.fill value)) =
            (read.compileEntries (here ++ [name]) (inner.fill value)).asBranch name := by
          rw [compileKeyed, hkey]
          dsimp only
          rw [compileEntry_eq, Yaml.Hole.nested?_fill hrule]
        obtain ⟨hleaves, hfaults⟩ := hwhole value
        dsimp only
        rw [leavesFrom_schema_eq_flatMap ((Yaml.Hole.nodup_names_fill_iff value).mpr hnames),
          faults_compileEntries, Yaml.Hole.fill, List.flatMap_append, List.flatMap_cons,
          List.flatMap_append, List.flatMap_cons, hcompiled, leavesFrom_asBranch, hleaves,
          Compiled.asBranch, hfaults]
        simp [leavesOf, faultsOf, Yaml.Hole.key]

/-- A section compiles part by part and leaves the stack as it was.  Whatever value one of its
entries has, the other entries keep their leaves and faults, in the same order. -/
theorem compileEntries_isolates (read : RuleReader ρ) (here : FieldPath) {entries : Yaml.Mapping}
    (hnames : (entries.filterMap fun entry => entry.1.text?).Nodup) :
    (∀ first second, entries = first ++ second →
      (read.compileEntries here entries).schema.entries =
          (read.compileEntries here first).schema.entries ++
            (read.compileEntries here second).schema.entries ∧
        (read.compileEntries here entries).faults =
          (read.compileEntries here first).faults ++ (read.compileEntries here second).faults) ∧
    (∀ faults, (passEntries read .nil entries).run ⟨here, faults⟩ =
      ((read.compileEntries here entries).schema,
        ⟨here, faults ++ (read.compileEntries here entries).faults⟩)) ∧
    ∀ (hole : Yaml.Hole) (inside : FieldPath) (written : Yaml),
      entries = hole.fill written → hole.LiesIn inside →
      ∃ leavesBefore leavesAfter faultsBefore faultsAfter,
        (∀ name, hole.key.text? = some name → ∀ leaf ∈ leavesBefore ++ leavesAfter,
          Incomparable leaf.1 (inside ++ [name])) ∧
        ∀ value,
          let whole := read.compileEntries here (hole.fill value)
          let own := read.compileKeyed (here ++ inside) (hole.key, value)
          whole.schema.leaves = leavesBefore ++ own.leavesFrom inside ++ leavesAfter ∧
            whole.faults = faultsBefore ++ own.faults ++ faultsAfter ∧
            ∀ leaf ∈ own.leavesFrom inside,
              ∃ name, hole.key.text? = some name ∧ inside ++ [name] <+: leaf.1 := by
  refine ⟨?_, ?_, ?_⟩
  · rintro first second rfl
    have hparts := hnames
    rw [List.filterMap_append, List.nodup_append] at hparts
    rw [entries_schema_compileEntries hnames, entries_schema_compileEntries hparts.1,
      entries_schema_compileEntries hparts.2.1, compileEntries_append]
    exact ⟨rfl, rfl⟩
  · intro faults
    exact passAgrees entries [] ⟨here, faults⟩
  · rintro hole inside written rfl hlies
    obtain ⟨leavesBefore, leavesAfter, faultsBefore, faultsAfter, hothers, hwhole⟩ :=
      exists_around_hole hlies ((Yaml.Hole.nodup_names_fill_iff written).mp hnames) here []
    refine ⟨leavesBefore, leavesAfter, faultsBefore, faultsAfter, hothers, fun value => ?_⟩
    obtain ⟨hleaves, hfaults⟩ := hwhole value
    exact ⟨hleaves, hfaults, fun leaf hleaf => exists_name_of_mem_leavesFrom hleaf⟩

/-- An entry of a nested object, between a chain that is empty and a key that is no string. -/
theorem compileEntries_isolates_nested :
    let before : Yaml.Mapping := [(.str "name", .str "trim"), (.str "tags", .seq [])]
    let after : Yaml.Mapping := [(.null, .str "trim"), (.str "age", .str "shout")]
    let zip : Yaml.Hole := .entry [(.str "city", .str "trim")] (.str "zip") []
    let hole : Yaml.Hole := .inside before (.str "address") zip after
    let entries := hole.fill (.str "lowercase")
    let compile := RuleReader.compileEntries Conversion.ofYaml ["transform"]
    (entries.filterMap fun entry => entry.1.text?).Nodup ∧ hole.LiesIn ["address"] ∧
      (compile entries).faults =
        (compile before).faults ++ (compile (entries.drop 2)).faults ∧
      ((passEntries Conversion.ofYaml .nil entries).run ⟨["transform"], []⟩).2.path =
        ["transform"] ∧
      ∃ leavesBefore leavesAfter, ∀ value,
        (compile (hole.fill value)).schema.leaves = leavesBefore ++
          (compileKeyed Conversion.ofYaml ["transform", "address"] (.str "zip", value)).leavesFrom
            ["address"] ++ leavesAfter := by
  intro before after zip hole entries compile
  have hnames : (entries.filterMap fun entry => entry.1.text?).Nodup := by decide
  have hlies : hole.LiesIn ["address"] :=
    .inside rfl (by simp [zip, Yaml.Hole.keys]) (by decide) .entry
  obtain ⟨hparts, hrun, hholes⟩ :=
    compileEntries_isolates Conversion.ofYaml ["transform"] hnames
  obtain ⟨leavesBefore, leavesAfter, _, _, -, hwhole⟩ := hholes hole _ _ rfl hlies
  refine ⟨hnames, hlies, (hparts before (entries.drop 2) rfl).2, ?_, leavesBefore, leavesAfter,
    fun value => (hwhole value).1⟩
  rw [hrun]

end RuleReader

end SubjectRules
