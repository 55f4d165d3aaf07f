import SubjectRules.Proofs.Document.Entries

/-!
# Compiling with a stack

A section can also be compiled in one pass over a state: the keys on the way to the current
entry, where a key is pushed before its value is looked at and popped afterwards, and one list
that every fault goes to.  Whatever the pass finds, it leaves the stack as it was, adds the faults
of the section to the list, and comes to the same schema.
-/

namespace SubjectRules

theorem Schema.isEmpty_ofEntries {ρ : Type} (added : List (String × Schema.Node ρ)) :
    (Schema.ofEntries added).isEmpty = added.isEmpty := by
  cases added with
  | nil => rfl
  | cons entry rest =>
      have hne := Schema.ofEntries_ne_nil (List.cons_ne_nil entry rest)
      cases hschema : Schema.ofEntries (entry :: rest) with
      | nil => exact absurd hschema hne
      | leaf | branch => rfl

namespace RuleReader

variable {ρ : Type}

/-- The keys on the way to the current entry, and the faults so far. -/
structure Progress where
  path : FieldPath
  faults : List Fault
  deriving DecidableEq, Repr

namespace Progress

def push (key : String) (p : Progress) : Progress := { p with path := p.path ++ [key] }

def pop (p : Progress) : Progress := { p with path := p.path.dropLast }

def report (faults : List Fault) (p : Progress) : Progress :=
  { p with faults := p.faults ++ faults }

@[simp] theorem path_push (key : String) (p : Progress) : (p.push key).path = p.path ++ [key] :=
  rfl

@[simp] theorem path_report (faults : List Fault) (p : Progress) :
    (p.report faults).path = p.path := rfl

@[simp] theorem report_nil (p : Progress) : p.report [] = p := by
  simp [report]

@[simp] theorem report_report (first second : List Fault) (p : Progress) :
    (p.report first).report second = p.report (first ++ second) := by
  simp [report]

@[simp] theorem pop_push (key : String) (p : Progress) : (p.push key).pop = p := by
  simp [push, pop]

@[simp] theorem pop_report_push (key : String) (faults : List Fault) (p : Progress) :
    ((p.push key).report faults).pop = p.report faults := by
  simp [push, pop, report]

end Progress

/-! ## The pass -/

def passLeaf (read : RuleReader ρ) (value : Yaml) :
    StateM Progress (Except Fault (Option (Schema.Node ρ))) := do
  let progress ← get
  return (read.leaf ⟨progress.path, []⟩ value).map fun rules => some (.leaf rules)

def keep (schema : Schema ρ) (key : String) :
    Except Fault (Option (Schema.Node ρ)) → StateM Progress (Schema ρ)
  | .ok (some node) => return schema.insert key node
  | .ok none => return schema
  | .error fault => do
      modify (·.report [fault])
      return schema

mutual

def passNode (read : RuleReader ρ) :
    Yaml → StateM Progress (Except Fault (Option (Schema.Node ρ)))
  | .map entries =>
      match EntryForm.ofYaml (.map entries) with
      | .nested _ => do
          let sub ← passEntries read .nil entries
          return .ok (if sub.isEmpty then none else some (.branch sub))
      | _ => passLeaf read (.map entries)
  | value => passLeaf read value

def passEntries (read : RuleReader ρ) (schema : Schema ρ) :
    List (Yaml × Yaml) → StateM Progress (Schema ρ)
  | [] => return schema
  | (key, value) :: rest =>
      match key.text? with
      | none => do
          let progress ← get
          modify (·.report [.malformedEntry ⟨progress.path, []⟩ .keyNotText])
          passEntries read schema rest
      | some key => do
          modify (·.push key)
          let node ← passNode read value
          let schema ← keep schema key node
          modify (·.pop)
          passEntries read schema rest

end

/-! ## What the pass comes to -/

@[simp] theorem run_keep_node (schema : Schema ρ) (key : String) (node : Schema.Node ρ)
    (p : Progress) : (keep schema key (.ok (some node))).run p = (schema.insert key node, p) :=
  rfl

@[simp] theorem run_keep_none (schema : Schema ρ) (key : String) (p : Progress) :
    (keep schema key (.ok none)).run p = (schema, p) := rfl

@[simp] theorem run_keep_error (schema : Schema ρ) (key : String) (fault : Fault)
    (p : Progress) : (keep schema key (.error fault)).run p = (schema, p.report [fault]) := rfl

variable (read : RuleReader ρ)

theorem run_passNode (value : Yaml) (p : Progress) :
    (passNode read value).run p =
      match value.nested? with
      | some inner =>
          let (sub, after) := (passEntries read .nil inner).run p
          (.ok (if sub.isEmpty then none else some (.branch sub)), after)
      | none => ((read.leaf ⟨p.path, []⟩ value).map fun rules => some (.leaf rules), p) := by
  cases value with
  | map entries =>
      rw [passNode, EntryForm.ofYaml, Yaml.nested?]
      cases Yaml.Mapping.get? "rule" entries with
      | none => rfl
      | some written => cases written <;> rfl
  | _ => rfl

/-- The pass through entries comes to what the entries compile to, behind what the schema and
the faults hold already. -/
def PassAgrees (entries : Yaml.Mapping) : Prop :=
  ∀ (front : List (String × Schema.Node ρ)) (p : Progress),
    (passEntries read (Schema.ofEntries front) entries).run p =
      (Schema.ofEntries (front ++ (read.compileEntries p.path entries).entries),
        p.report (read.compileEntries p.path entries).faults)

variable {read}

theorem run_keep_passNode {value : Yaml}
    (hinner : ∀ inner, value.nested? = some inner → read.PassAgrees inner)
    (front : List (String × Schema.Node ρ)) (key : String) (p : Progress) :
    (passNode read value >>= keep (Schema.ofEntries front) key).run (p.push key) =
      (Schema.ofEntries (front ++ (read.compileEntry p.path key value).entries),
        (p.push key).report (read.compileEntry p.path key value).faults) := by
  have hbind : (passNode read value >>= keep (Schema.ofEntries front) key).run (p.push key) =
      (keep (Schema.ofEntries front) key ((passNode read value).run (p.push key)).1).run
        ((passNode read value).run (p.push key)).2 := rfl
  rw [hbind, run_passNode, compileEntry_eq]
  cases hnested : value.nested? with
  | none =>
      cases hleaf : read.leaf ⟨p.path ++ [key], []⟩ value with
      | ok rules => simp [hleaf, Except.map, Compiled.ofLeaf, Schema.ofEntries_concat]
      | error fault => simp [hleaf, Except.map, Compiled.ofLeaf, Compiled.ofFault]
  | some inner =>
      have hpass := hinner inner hnested [] (p.push key)
      rw [List.nil_append, Progress.path_push] at hpass
      change (passEntries read .nil inner).run (p.push key) = _ at hpass
      dsimp only
      rw [hpass, Compiled.asBranch]
      dsimp only
      rw [Schema.isEmpty_ofEntries]
      cases (read.compileEntries (p.path ++ [key]) inner).entries.isEmpty with
      | true => simp
      | false => simp [Schema.ofEntries_concat, Compiled.schema]

theorem run_passEntries_cons {entry : Yaml × Yaml}
    (hinner : ∀ inner, entry.2.nested? = some inner → read.PassAgrees inner)
    (front : List (String × Schema.Node ρ)) (rest : Yaml.Mapping) (p : Progress) :
    (passEntries read (Schema.ofEntries front) (entry :: rest)).run p =
      (passEntries read (Schema.ofEntries (front ++ (read.compileKeyed p.path entry).entries))
        rest).run (p.report (read.compileKeyed p.path entry).faults) := by
  obtain ⟨key, value⟩ := entry
  rw [passEntries, compileKeyed]
  cases key.text? with
  | none => simp [Compiled.ofFault]
  | some name =>
      have hstep : (do
            modify (·.push name)
            let node ← passNode read value
            let schema ← keep (Schema.ofEntries front) name node
            modify (·.pop)
            passEntries read schema rest : StateM Progress (Schema ρ)).run p =
          let (schema, after) :=
            (passNode read value >>= keep (Schema.ofEntries front) name).run (p.push name)
          (passEntries read schema rest).run after.pop := rfl
      rw [run_keep_passNode hinner] at hstep
      simpa using hstep

theorem passAgrees (entries : Yaml.Mapping) : read.PassAgrees entries := by
  induction entries using Yaml.Mapping.nestedInduction with
  | step entries hinner =>
      induction entries with
      | nil =>
          intro front p
          simp only [compileEntries, List.append_nil, Progress.report_nil]
          rfl
      | cons entry rest ih =>
          intro front p
          obtain ⟨hentry, hrest⟩ := List.forall_mem_cons.mp hinner
          have hcons : read.compileEntries p.path (entry :: rest) =
            (read.compileKeyed p.path entry).append (read.compileEntries p.path rest) := rfl
          rw [run_passEntries_cons hentry, ih hrest, hcons]
          simp [Compiled.append]

end RuleReader

end SubjectRules
