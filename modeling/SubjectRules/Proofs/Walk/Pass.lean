import Mathlib.Data.List.Basic
import SubjectRules.Proofs.Schema.Site
import SubjectRules.Proofs.Walk.Sweep

/-!
# The pass of a walk

The pass is a recursion over nested schemas that leaves every frame when a match is
found.  Here it is shown to be one sweep over the sites that no pruned branch
encloses, which asks each leaf about the value at its path.
-/

namespace SubjectRules.Walk

variable {ε ρ α β : Type}

def prunes (w : Walk ε ρ α) (sub : Schema ρ) (value : Option Json) : Bool :=
  (w.prune sub value).value

def visit (w : Walk ε ρ α) (site : Site ρ) : Step ε α (List (Slot ε α)) :=
  match site.node with
  | .leaf rules => w.collectLeaf site.path rules (valueAt w.related site.path)
  | .branch sub => do
      let _ ← w.prune sub (valueAt w.related site.path)
      return []

def reached (w : Walk ε ρ α) (s : Schema ρ) : List (Site ρ) := s.reached w.prunes w.related

def visits (w : Walk ε ρ α) (s : Schema ρ) : List (Visit ρ) := s.visits w.prunes w.related

private theorem filter_isOpen_cons {w : Walk ε ρ α} {around : List (FieldPath × Schema ρ)}
    (hopen : nonePruned w.prunes w.related around = true) (path : FieldPath)
    (node : Schema.Node ρ) (sites : List (Site ρ)) :
    (⟨path, node, around⟩ :: sites).filter (Site.isOpen w.prunes w.related) =
      ⟨path, node, around⟩ :: sites.filter (Site.isOpen w.prunes w.related) :=
  List.filter_cons_of_pos hopen

private theorem filter_isOpen_of_pruned {w : Walk ε ρ α} {here : FieldPath}
    {around : List (FieldPath × Schema ρ)} {sub : Schema ρ}
    (hpruned : nonePruned w.prunes w.related around = false) :
    (sub.sitesFrom here around).filter (Site.isOpen w.prunes w.related) = [] := by
  rw [List.filter_eq_nil_iff]
  intro site hsite hopen
  obtain ⟨more, hmore⟩ := Schema.around_prefix_of_mem_sitesFrom hsite
  rw [Site.isOpen, ← hmore, nonePruned, List.all_append, Bool.and_eq_true] at hopen
  simp [nonePruned, hopen.1] at hpruned

/-- The recursion over the schema at `here` sweeps over the sites below that are open. -/
theorem collect_eq_sweep (w : Walk ε ρ α) (here : FieldPath) (related : Option Json.Fields)
    (around : List (FieldPath × Schema ρ)) (s : Schema ρ)
    (hvalue : ∀ key rest, valueAt w.related (here ++ key :: rest) = valueAt related (key :: rest))
    (hopen : nonePruned w.prunes w.related around = true) :
    w.collect here related s =
      sweep w.visit ((s.sitesFrom here around).filter (Site.isOpen w.prunes w.related)) := by
  induction s generalizing here related around with
  | nil => rfl
  | leaf key rules rest ih =>
      have hkey : valueAt w.related (here ++ [key]) = related.bind (·.get? key) := by
        rw [hvalue]
        rfl
      rw [Schema.sitesFrom, filter_isOpen_cons hopen, sweep, ← ih here related around hvalue hopen]
      simp only [visit, hkey, collect]
  | branch key sub rest ihSub ihRest =>
      have hkey : valueAt w.related (here ++ [key]) = related.bind (·.get? key) := by
        rw [hvalue]
        rfl
      have hbelow : ∀ next rest, valueAt w.related ((here ++ [key]) ++ next :: rest) =
          valueAt ((related.bind (·.get? key)).bind Json.fields?) (next :: rest) := by
        intro next rest
        rw [List.append_assoc, List.singleton_append, hvalue, valueAt_cons_cons]
      rw [Schema.sitesFrom, filter_isOpen_cons hopen, List.filter_append, sweep, sweep_append,
        ← ihRest here related around hvalue hopen]
      simp only [collect, visit, hkey]
      cases hprune : (w.prune sub (related.bind (·.get? key))).value with
      | true =>
          -- every site in the branch has it around, so none of them is open
          have hclosed : nonePruned w.prunes w.related
              (around ++ [(here ++ [key], sub)]) = false := by
            simp [nonePruned_concat, hkey, prunes, hprune]
          rw [filter_isOpen_of_pruned hclosed, Step.lift_bind, hprune]
          simp [sweep]
      | false =>
          have hstill : nonePruned w.prunes w.related
              (around ++ [(here ++ [key], sub)]) = true := by
            simp [nonePruned_concat, hopen, hkey, prunes, hprune]
          rw [← ihSub _ _ _ hbelow hstill, Step.lift_bind, hprune]
          simp

theorem collect_eq_sweep_reached (w : Walk ε ρ α) (s : Schema ρ) :
    w.collect [] w.related s = sweep w.visit (w.reached s) :=
  w.collect_eq_sweep [] w.related [] s (fun _ _ => rfl) rfl

/-! ## Results -/

def finds (w : Walk ε ρ α) (result : α) : Bool := (w.isMatch result).value

def keeps (w : Walk ε ρ α) (result : α) : Bool := (w.keep result).value

def sift (w : Walk ε ρ α) (entry : FieldPath → α → β) (path : FieldPath) (result : α) :
    Step ε α (List β) := do
  if ← w.isMatch result then throw (path, result)
  if ← w.keep result then return [entry path result] else return []

theorem siftNow_eq (w : Walk ε ρ α) (path : FieldPath) (result : α) :
    w.siftNow path result = w.sift Slot.kept path result := rfl

theorem value_sift (w : Walk ε ρ α) (entry : FieldPath → α → β) (path : FieldPath) (result : α) :
    (w.sift entry path result).run.value =
      if w.finds result then .error (path, result)
      else .ok (if w.keeps result then [entry path result] else []) := by
  have hfinds : (w.isMatch result).value = w.finds result := rfl
  have hkeeps : (w.keep result).value = w.keeps result := rfl
  rw [sift, Step.value_lift_bind, hfinds]
  cases w.finds result with
  | true => rfl
  | false =>
      rw [if_neg Bool.false_ne_true, if_neg Bool.false_ne_true, Step.value_lift_bind, hkeeps]
      cases w.keeps result <;> rfl

theorem log_sift (w : Walk ε ρ α) (entry : FieldPath → α → β) (path : FieldPath) (result : α) :
    (w.sift entry path result).run.log =
      (w.isMatch result).log ++ if w.finds result then [] else (w.keep result).log := by
  have hfinds : (w.isMatch result).value = w.finds result := rfl
  have hkeeps : (w.keep result).value = w.keeps result := rfl
  rw [sift, Step.log_lift_bind, hfinds]
  cases w.finds result with
  | true => rfl
  | false =>
      rw [if_neg Bool.false_ne_true, if_neg Bool.false_ne_true, Step.log_lift_bind, hkeeps]
      cases w.keeps result <;> exact congrArg _ (List.append_nil _)

def answer (w : Walk ε ρ α) (visit : Visit ρ) : Answer ε (Option α) :=
  (w.ask visit.rules visit.value).value

def hitNow (w : Walk ε ρ α) (visit : Visit ρ) : Option (FieldPath × α) :=
  match w.answer visit with
  | .now (some result) => if w.finds result then some (visit.path, result) else none
  | _ => none

def slot? (w : Walk ε ρ α) (visit : Visit ρ) : Option (Slot ε α) :=
  match w.answer visit with
  | .now none => none
  | .now (some result) =>
      if !w.finds result && w.keeps result then some (.kept visit.path result) else none
  | .later promise => some (.promised visit.path promise)

theorem collectLeaf_eq (w : Walk ε ρ α) (visit : Visit ρ) :
    (w.collectLeaf visit.path visit.rules visit.value).hit? = w.hitNow visit ∧
      (w.collectLeaf visit.path visit.rules visit.value).left = (w.slot? visit).toList := by
  rw [Step.hit?, Step.left, collectLeaf, Step.value_lift_bind, hitNow, slot?, answer]
  cases (w.ask visit.rules visit.value).value with
  | later promise => exact ⟨rfl, rfl⟩
  | now result? =>
      cases result? with
      | none => exact ⟨rfl, rfl⟩
      | some result =>
          simp only [siftNow_eq, value_sift]
          cases hfinds : w.finds result <;> cases hkeeps : w.keeps result <;> exact ⟨rfl, rfl⟩

def siftLog (w : Walk ε ρ α) (result : α) : List ε :=
  (w.isMatch result).log ++ if w.finds result then [] else (w.keep result).log

theorem log_collectLeaf (w : Walk ε ρ α) (visit : Visit ρ) :
    (w.collectLeaf visit.path visit.rules visit.value).run.log =
      (w.ask visit.rules visit.value).log ++
        match w.answer visit with
        | .now (some result) => w.siftLog result
        | _ => [] := by
  rw [collectLeaf, Step.log_lift_bind, answer]
  cases (w.ask visit.rules visit.value).value with
  | later promise => rfl
  | now result? =>
      cases result? with
      | none => rfl
      | some result => exact congrArg _ (w.log_sift Slot.kept visit.path result)

theorem visit_eq (w : Walk ε ρ α) (site : Site ρ) :
    (w.visit site).hit? = (site.visit? w.related).bind w.hitNow ∧
      (w.visit site).left = ((site.visit? w.related).bind w.slot?).toList := by
  obtain ⟨path, node, around⟩ := site
  cases node with
  | branch sub => exact ⟨rfl, rfl⟩
  | leaf rules => exact w.collectLeaf_eq ⟨path, rules, valueAt w.related path⟩

/-- The pass ends with the first match that is there at once, or leaves the slots of all
visits. -/
theorem value_collect (w : Walk ε ρ α) (s : Schema ρ) :
    (w.collect [] w.related s).run.value =
      match (w.visits s).findSome? w.hitNow with
      | some hit => .error hit
      | none => .ok ((w.visits s).filterMap w.slot?) := by
  have hhits : ((w.reached s).findSome? fun site => (w.visit site).hit?) =
      (w.visits s).findSome? w.hitNow := by
    simp only [visits, Schema.visits, ← List.head?_filterMap, List.filterMap_filterMap, visit_eq]
    rfl
  have hleft : ((w.reached s).flatMap fun site => (w.visit site).left) =
      (w.visits s).filterMap w.slot? := by
    simp only [visits, Schema.visits, List.filterMap_filterMap, visit_eq]
    exact (List.filterMap_eq_flatMap_toList _ _).symm
  have hsweep := value_sweep w.visit (w.reached s)
  rw [hhits, hleft] at hsweep
  rw [collect_eq_sweep_reached]
  exact hsweep

end SubjectRules.Walk
