import SubjectRules.Proofs.Json.Path
import SubjectRules.Proofs.Walk.Pass

/-!
# The outcome of a walk

What a walk resolves to is settled by the results at the leaves that it visits: the
first match that is there at once, else the first promised match, else all results that
are kept, in traversal order.  Which answers are promised, and for how long, decides
only between matches and whether the outcome is there at once.
-/

namespace SubjectRules.Walk

variable {ε ρ α : Type}

/-! ## Sorting out awaited results -/

def replay (w : Walk ε ρ α) : Slot ε α × Option α → Step ε α (List (FieldPath × α))
  | (_, none) => return []
  | (.kept path _, some result) => return [(path, result)]
  | (.promised path _, some result) => w.sift Prod.mk path result

theorem siftLater_eq_sweep (w : Walk ε ρ α) (results : List (Slot ε α × Option α)) :
    w.siftLater results = sweep w.replay results := by
  induction results with
  | nil => rfl
  | cons item rest ih =>
      obtain ⟨slot, result?⟩ := item
      cases result? with
      | none => simp [siftLater, sweep, replay, ih]
      | some result =>
          cases slot with
          | kept path kept => simp [siftLater, sweep, replay, ih]
          | promised path promise =>
              simp only [siftLater, sweep, replay, sift, ih, bind_assoc]
              refine Step.lift_bind_congr ?_
              cases (w.isMatch result).value with
              | true => simp
              | false =>
                  simp only [Bool.false_eq_true, if_false, bind_assoc]
                  refine Step.lift_bind_congr ?_
                  cases (w.keep result).value <;> simp

def hitLater (w : Walk ε ρ α) (visit : Visit ρ) : Option (FieldPath × α) :=
  match w.answer visit with
  | .now _ => none
  | .later promise => (promise.value.filter w.finds).map (visit.path, ·)

def entryAt (w : Walk ε ρ α) (visit : Visit ρ) : Option (FieldPath × α) :=
  ((w.answer visit).value.filter w.keeps).map (visit.path, ·)

def settled (slot : Slot ε α) : Slot ε α × Option α := (slot, slot.promise.value)

theorem hit?_replay_slot (w : Walk ε ρ α) (visit : Visit ρ) :
    ((w.slot? visit).bind fun slot => (w.replay (settled slot)).hit?) = w.hitLater visit := by
  rw [slot?, hitLater]
  cases w.answer visit with
  | now result? =>
      cases result? with
      | none => rfl
      | some result =>
          cases hfinds : w.finds result <;> cases hkeeps : w.keeps result <;>
            simp [hfinds, hkeeps, settled, Slot.promise, Promise.value, replay, Step.hit?]
  | later promise =>
      cases hvalue : promise.value with
      | none => simp [settled, Slot.promise, hvalue, replay, Step.hit?]
      | some result =>
          simp only [settled, Slot.promise, hvalue, replay, Step.hit?, value_sift, Option.bind_some]
          cases hfinds : w.finds result <;> simp [hfinds, Option.filter_some]

def entryOf (w : Walk ε ρ α) : Slot ε α → Option (FieldPath × α)
  | .kept path result => some (path, result)
  | .promised path promise =>
      (promise.value.filter fun result => !w.finds result && w.keeps result).map (path, ·)

theorem left_replay (w : Walk ε ρ α) (slot : Slot ε α) :
    (w.replay (settled slot)).left = (w.entryOf slot).toList := by
  cases slot with
  | kept path result => rfl
  | promised path promise =>
      cases hvalue : promise.value with
      | none => simp [settled, Slot.promise, hvalue, replay, Step.left, entryOf]
      | some result =>
          simp only [settled, Slot.promise, hvalue, replay, Step.left, value_sift, entryOf]
          cases hfinds : w.finds result <;> cases hkeeps : w.keeps result <;>
            simp [hfinds, hkeeps, Option.filter_some]

theorem entryOf_slot {w : Walk ε ρ α} {visit : Visit ρ} (hnow : w.hitNow visit = none)
    (hlater : w.hitLater visit = none) : (w.slot? visit).bind w.entryOf = w.entryAt visit := by
  rw [hitNow] at hnow
  rw [hitLater] at hlater
  rw [slot?, entryAt]
  cases hanswer : w.answer visit with
  | now result? =>
      cases result? with
      | none => rfl
      | some result =>
          have hfinds : w.finds result = false := by simpa [hanswer] using hnow
          cases hkeeps : w.keeps result <;>
            simp [hfinds, hkeeps, entryOf, Answer.value, Answer.promise, Promise.value,
              Option.filter_some]
  | later promise =>
      cases hvalue : promise.value with
      | none => simp [entryOf, hvalue]
      | some result =>
          have hfinds : w.finds result = false := by
            simpa [hanswer, hvalue, Option.filter_some] using hlater
          cases hkeeps : w.keeps result <;>
            simp [hfinds, hkeeps, entryOf, hvalue, Option.filter_some]

theorem value_siftLater (w : Walk ε ρ α) (visits : List (Visit ρ))
    (hnow : visits.findSome? w.hitNow = none) :
    (w.siftLater ((visits.filterMap w.slot?).map settled)).run.value =
      match visits.findSome? w.hitLater with
      | some hit => .error hit
      | none => .ok (visits.filterMap w.entryAt) := by
  have hhits : (((visits.filterMap w.slot?).map settled).findSome? fun item =>
      (w.replay item).hit?) = visits.findSome? w.hitLater := by
    simp only [← List.head?_filterMap, List.filterMap_map, List.filterMap_filterMap,
      ← hit?_replay_slot]
    rfl
  have hleft : (((visits.filterMap w.slot?).map settled).flatMap fun item =>
      (w.replay item).left) = visits.filterMap fun visit => (w.slot? visit).bind w.entryOf := by
    rw [List.flatMap_map, ← List.filterMap_filterMap]
    simp only [left_replay]
    exact (List.filterMap_eq_flatMap_toList _ _).symm
  rw [siftLater_eq_sweep, value_sweep, hhits, hleft]
  cases hlater : visits.findSome? w.hitLater with
  | some hit => rfl
  | none =>
      rw [List.findSome?_eq_none_iff] at hnow hlater
      have hentries : visits.filterMap (fun visit => (w.slot? visit).bind w.entryOf) =
          visits.filterMap w.entryAt :=
        List.filterMap_congr fun visit hvisit =>
          entryOf_slot (hnow visit hvisit) (hlater visit hvisit)
      rw [hentries]

/-! ## The run -/

theorem value_siftLater_of_kept (w : Walk ε ρ α) {slots : List (Slot ε α)}
    (hkept : slots.any Slot.isPromised = false) :
    (w.siftLater (slots.map settled)).run.value = .ok (slots.filterMap Slot.kept?) := by
  induction slots with
  | nil => rfl
  | cons slot rest ih =>
      cases slot with
      | kept path result =>
          have hrest := ih (by simpa [Slot.isPromised] using hkept)
          rw [List.map_cons, settled, Slot.promise, Promise.value, siftLater,
            Step.value_run_bind, hrest]
          rfl
      | promised path promise => simp [Slot.isPromised] at hkept

theorem zip_settled (slots : List (Slot ε α)) :
    slots.zip ((slots.map Slot.promise).map Promise.value) = slots.map settled := by
  rw [List.map_map, ← List.map_prod_left_eq_zip]
  rfl

theorem value_settle (w : Walk ε ρ α) (slots : List (Slot ε α)) :
    (w.settle slots).value = w.outcome (w.siftLater (slots.map settled)).run.value := by
  rw [settle, Promise.value_mapLogged, Promise.value_all, zip_settled, Logged.value_map]

/-- The results of a walk: the match that ends it, or the entries that are kept. -/
def resolved (w : Walk ε ρ α) (s : Schema ρ) :
    Except (FieldPath × α) (List (FieldPath × α)) :=
  match (w.visits s).findSome? w.hitNow with
  | some hit => .error hit
  | none =>
      match (w.visits s).findSome? w.hitLater with
      | some hit => .error hit
      | none => .ok ((w.visits s).filterMap w.entryAt)

theorem value_run (w : Walk ε ρ α) (s : Schema ρ) :
    (w.run s).value =
      match (w.visits s).findSome? w.hitNow with
      | some hit => .now (w.outcome (.error hit))
      | none =>
          let slots := (w.visits s).filterMap w.slot?
          if slots.any Slot.isPromised then .later (w.settle slots)
          else .now (w.written (slots.filterMap Slot.kept?)) := by
  rw [run, Logged.value_bind, value_collect]
  cases (w.visits s).findSome? w.hitNow with
  | some hit => rfl
  | none => dsimp only; split <;> rfl

/-- What a walk resolves to does not depend on when its leaves answer, except that a match
that is there at once goes before a promised one. -/
theorem resolve_run (w : Walk ε ρ α) (s : Schema ρ) :
    (w.run s).value.value = w.outcome (w.resolved s) := by
  rw [value_run, resolved]
  cases hnow : (w.visits s).findSome? w.hitNow with
  | some hit => rfl
  | none =>
      have hsift := w.value_siftLater (w.visits s) hnow
      dsimp only
      split
      · rw [Answer.value_later, value_settle, hsift]
      · rename_i hpromised
        rw [value_siftLater_of_kept w (by simpa using hpromised)] at hsift
        rw [Answer.value_now, ← hsift]
        rfl

/-! ## Walks without a match -/

theorem resolve_run_of_never {w : Walk ε ρ α} (hnever : ∀ result, w.finds result = false)
    (s : Schema ρ) : (w.run s).value.value = w.written ((w.visits s).filterMap w.entryAt) := by
  have hnow : (w.visits s).findSome? w.hitNow = none := by
    rw [List.findSome?_eq_none_iff]
    intro visit _
    rw [hitNow]
    split <;> simp [hnever]
  have hlater : (w.visits s).findSome? w.hitLater = none := by
    rw [List.findSome?_eq_none_iff]
    intro visit _
    rw [hitLater]
    split
    · rfl
    · rename_i promise _
      cases promise.value <;> simp [hnever, Option.filter_some]
  rw [resolve_run, resolved, hnow, hlater]
  rfl

def keptResults {σ : Type} (results : Leaf σ → Option Json → Option α)
    (prune : Schema σ → Option Json → Bool) (keep : α → Bool) (related : Option Json.Fields)
    (s : Schema σ) : List (FieldPath × α) :=
  (s.visits prune related).filterMap fun visit =>
    ((results visit.rules visit.value).filter keep).map (visit.path, ·)

/-- A walk without a match resolves to the kept results, assigned in traversal order to the
seed.  Beside what `forget` leaves of them, the rules may carry anything that decides whether
and for how long their answers are deferred. -/
theorem run_resolves_to_kept_results {σ : Type} (forget : ρ → σ)
    (results : Leaf σ → Option Json → Option α) (prune : Schema σ → Option Json → Bool)
    (keep : α → Bool) (w : Walk ε ρ α)
    (hresults : ∀ rules value, (w.ask rules value).value.value = results (rules.map forget) value)
    (hprune : ∀ sub value, (w.prune sub value).value = prune (sub.map forget) value)
    (hkeep : ∀ result, (w.keep result).value = keep result)
    (hnever : ∀ result, (w.isMatch result).value = false) (s : Schema ρ) :
    (w.run s).value.value =
      let kept := keptResults results prune keep w.related (s.map forget)
      if w.seed = none ∧ kept = [] then none
      else some (Json.Fields.assignAll (w.seed.getD [])
        (kept.map fun (path, result) => (path, w.encode result))) := by
  have hkept : keptResults results prune keep w.related (s.map forget) =
      (w.visits s).filterMap w.entryAt := by
    have hvisits : (s.map forget).visits prune w.related = (w.visits s).map (Visit.map forget) :=
      Schema.visits_map forget hprune w.related s
    have hkeeps : keep = w.keeps := funext fun result => (hkeep result).symm
    rw [keptResults, hvisits, List.filterMap_map]
    refine List.filterMap_congr fun visit _ => ?_
    rw [entryAt, answer, hresults, hkeeps]
    rfl
  rw [resolve_run_of_never hnever, written, ← hkept]
  simp [Option.isNone_iff_eq_none]

/-- A walk whose rules hold their results and the number of polls these take. -/
def polled : Walk Unit (String × Nat) String where
  ask rules _ :=
    match rules with
    | .single (text, 0) => pure (.now (some text))
    | .single (text, polls + 1) => pure (.later (.after polls (.settled [()] (some text))))
    | .chain _ => pure (.now none)
  encode := .str
  keep text := pure (text != "")
  prune _ value := pure (value.any Json.isNull)
  related := some [("gone", .null)]

theorem run_resolves_to_kept_results_polled :
    (polled.run (.leaf "late" (.single ("x", 2)) (.branch "inner"
      (.leaf "empty" (.single ("", 1)) (.leaf "soon" (.single ("y", 0)) .nil))
      (.branch "gone" (.leaf "never" (.single ("z", 0)) .nil) .nil)))).value.value =
        some [("late", .str "x"), ("inner", .obj [("soon", .str "y")])] := by
  have hresults : ∀ rules value, (polled.ask rules value).value.value =
      match rules.map Prod.fst with
      | .single text => some text
      | .chain _ => none := by
    intro rules value
    cases rules with
    | chain rules => rfl
    | single rule =>
        obtain ⟨text, polls⟩ := rule
        cases polls with
        | zero => rfl
        | succ polls => exact Promise.value_after polls _
  exact run_resolves_to_kept_results Prod.fst (fun rules _ => match rules with
      | .single text => some text
      | .chain _ => none) (fun _ value => value.any Json.isNull) (fun text => text != "") polled
    hresults (fun _ _ => rfl) (fun _ => rfl) (fun _ => rfl) _

/-! ## Walks with a match -/

theorem any_isPromised (w : Walk ε ρ α) (visits : List (Visit ρ)) :
    (visits.filterMap w.slot?).any Slot.isPromised =
      visits.any fun visit => !(w.answer visit).isNow := by
  rw [List.any_filterMap]
  congr 1
  funext visit
  rw [slot?]
  cases w.answer visit with
  | later promise => rfl
  | now result? =>
      cases result? with
      | none => rfl
      | some result =>
          cases hfinds : w.finds result <;> cases hkeeps : w.keeps result <;>
            simp [hfinds, hkeeps, Slot.isPromised, Answer.isNow]

/-- A walk that looks for a match ends at the first one that is there at once, whatever was
promised before it; else it resolves to the first promised match; else to what it would
resolve to without looking. -/
theorem run_resolves_to_first_match (w : Walk ε ρ α) (s : Schema ρ) :
    ((w.run s).value.value =
      match (w.visits s).findSome? w.hitNow with
      | some (path, result) => some (Json.Fields.single path (w.encode result))
      | none =>
          match (w.visits s).findSome? w.hitLater with
          | some (path, result) => some (Json.Fields.single path (w.encode result))
          | none => ({ w with isMatch := fun _ => pure false }.run s).value.value) ∧
    ((w.run s).value.isNow = true ↔
      (∃ hit, (w.visits s).findSome? w.hitNow = some hit) ∨
        ∀ visit ∈ w.visits s, (w.answer visit).isNow = true) := by
  have halone : ∀ path result, w.outcome (.error (path, result)) =
      some (Json.Fields.single path (w.encode result)) := fun path result =>
    congrArg some (Json.Fields.assign_nil_fields path (w.encode result))
  constructor
  · rw [resolve_run, resolved]
    cases hnow : (w.visits s).findSome? w.hitNow with
    | some hit => exact halone hit.1 hit.2
    | none =>
        dsimp only
        cases (w.visits s).findSome? w.hitLater with
        | some hit => exact halone hit.1 hit.2
        | none =>
            have hnever : ∀ result,
                ({ w with isMatch := fun _ => pure false } : Walk ε ρ α).finds result = false :=
              fun _ => rfl
            exact (resolve_run_of_never hnever s).symm
  · rw [value_run]
    cases hnow : (w.visits s).findSome? w.hitNow with
    | some hit => simp [Answer.isNow]
    | none =>
        have hall : (∀ visit ∈ w.visits s, (w.answer visit).isNow = true) ↔
            ((w.visits s).any fun visit => !(w.answer visit).isNow) = false := by
          simp
        dsimp only
        rw [any_isPromised, hall]
        cases (w.visits s).any fun visit => !(w.answer visit).isNow <;> simp [Answer.isNow]

end SubjectRules.Walk
