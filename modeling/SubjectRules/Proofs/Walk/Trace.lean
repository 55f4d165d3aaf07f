import SubjectRules.Proofs.Promise
import SubjectRules.Proofs.Walk.Outcome

/-!
# The calls of a walk

The functions that a walk is given are called in a fixed order.  During the pass a
branch that is reached is tested for pruning and a leaf that is reached is asked; a
result that is there at once is tested right away for a match, and then for whether it
is kept.  A match is the last call of all.  While the outcome is awaited, only promised
results are tested, in traversal order and up to the first match.
-/

namespace SubjectRules.Walk

variable {ε ρ α : Type}

inductive Call (ρ α : Type) where
  | prune (sub : Schema ρ) (value : Option Json)
  | ask (rules : Leaf ρ) (value : Option Json)
  | test (result : α)
  | keep (result : α)

namespace Call

def pruned? : Call ρ α → Option (Schema ρ × Option Json)
  | .prune sub value => some (sub, value)
  | _ => none

def asked? : Call ρ α → Option (Leaf ρ × Option Json)
  | .ask rules value => some (rules, value)
  | _ => none

def tested? : Call ρ α → Option α
  | .test result => some result
  | _ => none

def kept? : Call ρ α → Option α
  | .keep result => some result
  | _ => none

end Call

def callLog (w : Walk ε ρ α) : Call ρ α → List ε
  | .prune sub value => (w.prune sub value).log
  | .ask rules value => (w.ask rules value).log
  | .test result => (w.isMatch result).log
  | .keep result => (w.keep result).log

/-- The calls that sort out a result: only one that is no match is tested for keeping. -/
def siftCalls (w : Walk ε ρ α) (result : α) : List (Call ρ α) :=
  .test result :: if w.finds result then [] else [.keep result]

def resultNow? (w : Walk ε ρ α) (visit : Visit ρ) : Option α :=
  match w.answer visit with
  | .now result => result
  | .later _ => none

def promise? (w : Walk ε ρ α) (visit : Visit ρ) : Option (Promise ε (Option α)) :=
  match w.answer visit with
  | .now _ => none
  | .later promise => some promise

/-! ## The pass -/

def siteCalls (w : Walk ε ρ α) (site : Site ρ) : List (Call ρ α) :=
  match site.node with
  | .branch sub => [.prune sub (valueAt w.related site.path)]
  | .leaf rules =>
      let value := valueAt w.related site.path
      .ask rules value :: (w.resultNow? ⟨site.path, rules, value⟩).toList.flatMap w.siftCalls

def endsAt (w : Walk ε ρ α) (site : Site ρ) : Bool :=
  ((site.visit? w.related).bind w.hitNow).isSome

def passed (w : Walk ε ρ α) (s : Schema ρ) : List (Site ρ) := upTo w.endsAt (w.reached s)

def asked (w : Walk ε ρ α) (s : Schema ρ) : List (Visit ρ) :=
  (w.passed s).filterMap (Site.visit? w.related)

def passCalls (w : Walk ε ρ α) (s : Schema ρ) : List (Call ρ α) :=
  (w.passed s).flatMap w.siteCalls

theorem asked_eq_upTo (w : Walk ε ρ α) (s : Schema ρ) :
    w.asked s = upTo (fun visit => (w.hitNow visit).isSome) (w.visits s) := by
  rw [asked, passed, visits, Schema.visits]
  refine filterMap_upTo (fun site => ?_) (w.reached s)
  rw [endsAt]
  cases site.visit? w.related <;> rfl

theorem flatMap_siftCalls (w : Walk ε ρ α) (result : α) :
    (w.siftCalls result).flatMap w.callLog = w.siftLog result := by
  cases hfinds : w.finds result <;> simp [siftCalls, siftLog, callLog, hfinds]

theorem log_visit (w : Walk ε ρ α) (site : Site ρ) :
    (w.visit site).run.log = (w.siteCalls site).flatMap w.callLog := by
  obtain ⟨path, node, around⟩ := site
  cases node with
  | branch sub =>
      refine (Step.log_lift_bind _ _).trans ?_
      simp [siteCalls, callLog]
  | leaf rules =>
      refine (w.log_collectLeaf ⟨path, rules, valueAt w.related path⟩).trans ?_
      rw [siteCalls, List.flatMap_cons, resultNow?]
      congr 1
      cases w.answer ⟨path, rules, valueAt w.related path⟩ with
      | later promise => rfl
      | now result? =>
          cases result? with
          | none => rfl
          | some result => simp [flatMap_siftCalls]

theorem log_collect (w : Walk ε ρ α) (s : Schema ρ) :
    (w.collect [] w.related s).run.log = (w.passCalls s).flatMap w.callLog := by
  have hsweep := log_sweep w.visit (w.reached s)
  simp only [visit_eq, log_visit] at hsweep
  rw [collect_eq_sweep_reached, passCalls, List.flatMap_assoc]
  exact hsweep

theorem log_run (w : Walk ε ρ α) (s : Schema ρ) :
    (w.run s).log = (w.passCalls s).flatMap w.callLog := by
  rw [run, Logged.log_bind, log_collect]
  cases (w.collect [] w.related s).run.value with
  | error hit => exact List.append_nil _
  | ok slots =>
      dsimp only
      split <;> exact List.append_nil _

/-! ## Awaiting -/

/-- The promises that are awaited: none when a match has ended the pass. -/
def awaited (w : Walk ε ρ α) (s : Schema ρ) : List (Promise ε (Option α)) :=
  match (w.visits s).findSome? w.hitNow with
  | some _ => []
  | none => (w.visits s).filterMap w.promise?

def tested (w : Walk ε ρ α) (s : Schema ρ) : List α :=
  upTo w.finds ((w.awaited s).filterMap Promise.value)

def awaitCalls (w : Walk ε ρ α) (s : Schema ρ) : List (Call ρ α) :=
  (w.tested s).flatMap w.siftCalls

private theorem flatMap_filterMap {β γ δ : Type} (f : β → Option γ) (g : γ → List δ)
    (items : List β) :
    (items.filterMap f).flatMap g = items.flatMap fun item => (f item).toList.flatMap g := by
  rw [List.filterMap_eq_flatMap_toList, List.flatMap_assoc]

def promisedResult? : Slot ε α × Option α → Option α
  | (.kept .., _) => none
  | (.promised .., result?) => result?

theorem hit?_replay (w : Walk ε ρ α) (item : Slot ε α × Option α) :
    (w.replay item).hit?.isSome = (promisedResult? item).any w.finds := by
  obtain ⟨slot, result?⟩ := item
  cases slot with
  | kept path kept => cases result? <;> rfl
  | promised path promise =>
      cases result? with
      | none => rfl
      | some result =>
          rw [replay, Step.hit?, value_sift, promisedResult?, Option.any_some]
          cases w.finds result <;> rfl

theorem log_replay (w : Walk ε ρ α) (item : Slot ε α × Option α) :
    (w.replay item).run.log = (promisedResult? item).toList.flatMap w.siftLog := by
  obtain ⟨slot, result?⟩ := item
  cases slot with
  | kept path kept => cases result? <;> rfl
  | promised path promise =>
      cases result? with
      | none => rfl
      | some result =>
          refine (w.log_sift Prod.mk path result).trans ?_
          simp [promisedResult?, siftLog]

theorem log_siftLater (w : Walk ε ρ α) (visits : List (Visit ρ)) :
    (w.siftLater ((visits.filterMap w.slot?).map settled)).run.log =
      (upTo w.finds ((visits.filterMap w.promise?).filterMap Promise.value)).flatMap w.siftLog := by
  have hresults : ((visits.filterMap w.slot?).map settled).filterMap promisedResult? =
      (visits.filterMap w.promise?).filterMap Promise.value := by
    rw [List.filterMap_map, List.filterMap_filterMap, List.filterMap_filterMap]
    refine List.filterMap_congr fun visit _ => ?_
    rw [slot?, promise?]
    cases w.answer visit with
    | later promise => rfl
    | now result? =>
        cases result? with
        | none => rfl
        | some result =>
            cases hfinds : w.finds result <;> cases hkeeps : w.keeps result <;>
              simp [hfinds, hkeeps, settled, promisedResult?]
  rw [siftLater_eq_sweep, log_sweep, ← hresults, ← filterMap_upTo w.hit?_replay]
  simp only [log_replay]
  exact (flatMap_filterMap promisedResult? w.siftLog _).symm

/-- Results that were there at once do not take part in the polling. -/
theorem log_all_slots (w : Walk ε ρ α) (visits : List (Visit ρ)) :
    (Promise.all ((visits.filterMap w.slot?).map Slot.promise)).log =
      (Promise.all (visits.filterMap w.promise?)).log := by
  rw [Promise.log_eq_flatten_rounds, Promise.log_eq_flatten_rounds]
  congr 1
  induction visits with
  | nil => rfl
  | cons visit rest ih =>
      cases hanswer : w.answer visit with
      | later promise =>
          have hslot : w.slot? visit = some (.promised visit.path promise) := by
            rw [slot?, hanswer]
          have hpromise : w.promise? visit = some promise := by rw [promise?, hanswer]
          rw [List.filterMap_cons_some hslot, List.filterMap_cons_some hpromise, List.map_cons,
            Slot.promise, Promise.rounds_all_cons, Promise.rounds_all_cons, ih]
      | now result? =>
          have hpromise : w.promise? visit = none := by rw [promise?, hanswer]
          rw [List.filterMap_cons_none hpromise, ← ih]
          cases hslot : w.slot? visit with
          | none => rw [List.filterMap_cons_none hslot]
          | some slot =>
              cases slot with
              | kept path result =>
                  rw [List.filterMap_cons_some hslot, List.map_cons, Slot.promise,
                    Promise.rounds_all_settled]
              | promised path promise =>
                  rw [slot?, hanswer] at hslot
                  split at hslot <;> simp_all

theorem log_settle (w : Walk ε ρ α) (visits : List (Visit ρ)) :
    (w.settle (visits.filterMap w.slot?)).log =
      (Promise.all (visits.filterMap w.promise?)).log ++
        (upTo w.finds ((visits.filterMap w.promise?).filterMap Promise.value)).flatMap
          w.siftLog := by
  rw [settle, Promise.log_mapLogged, Promise.value_all, zip_settled, Logged.log_map,
    log_siftLater, log_all_slots]

theorem awaitLog_run (w : Walk ε ρ α) (s : Schema ρ) :
    (w.run s).value.awaitLog =
      (Promise.all (w.awaited s)).log ++ (w.awaitCalls s).flatMap w.callLog := by
  rw [awaitCalls, List.flatMap_assoc]
  simp only [flatMap_siftCalls]
  rw [value_run, tested, awaited]
  cases hnow : (w.visits s).findSome? w.hitNow with
  | some hit => rfl
  | none =>
      dsimp only
      rw [any_isPromised]
      cases hany : (w.visits s).any fun visit => !(w.answer visit).isNow with
      | true => exact w.log_settle (w.visits s)
      | false =>
          have hnone : (w.visits s).filterMap w.promise? = [] := by
            rw [List.filterMap_eq_nil_iff]
            intro visit hvisit
            have hisNow := List.any_eq_false.mp hany visit hvisit
            rw [promise?]
            cases hanswer : w.answer visit with
            | now result => rfl
            | later promise => simp [hanswer, Answer.isNow] at hisNow
          rw [hnone]
          rfl

/-! ## The order of the calls -/

/-- The calls of the pass, function by function.  It asks a prefix of the leaves that it can
reach: all of them, or those up to the first that gives a match at once. -/
structure PassOrder (w : Walk ε ρ α) (s : Schema ρ) (calls : List (Call ρ α)) : Prop where
  asks : calls.filterMap Call.asked? = (w.asked s).map fun visit => (visit.rules, visit.value)
  asks_prefix : w.asked s <+: w.visits s
  prunes : calls.filterMap Call.pruned? = (w.passed s).filterMap (Site.branch? w.related)
  tests : calls.filterMap Call.tested? = (w.asked s).filterMap w.resultNow?
  keeps : calls.filterMap Call.kept? =
    ((w.asked s).filterMap w.resultNow?).filter fun result => !w.finds result
  whole : (w.visits s).findSome? w.hitNow = none → w.passed s = w.reached s
  cut : ∀ hit, (w.visits s).findSome? w.hitNow = some hit →
    ∃ before last after visit, w.reached s = before ++ last :: after ∧
      w.passed s = before ++ [last] ∧ last.visit? w.related = some visit ∧
      w.hitNow visit = some hit ∧ (∀ site ∈ before, w.endsAt site = false) ∧
      calls.getLast? = some (.test hit.2)

/-- The calls while the outcome is awaited, function by function. -/
structure AwaitOrder (w : Walk ε ρ α) (s : Schema ρ) (calls : List (Call ρ α)) : Prop where
  asks : calls.filterMap Call.asked? = []
  prunes : calls.filterMap Call.pruned? = []
  tests : calls.filterMap Call.tested? = w.tested s
  keeps : calls.filterMap Call.kept? = (w.tested s).filter fun result => !w.finds result

theorem siftCalls_views (w : Walk ε ρ α) (result : α) :
    (w.siftCalls result).filterMap Call.pruned? = [] ∧
      (w.siftCalls result).filterMap Call.asked? = [] ∧
      (w.siftCalls result).filterMap Call.tested? = [result] ∧
      (w.siftCalls result).filterMap Call.kept? =
        [result].filter fun result => !w.finds result := by
  cases hfinds : w.finds result <;>
    simp [siftCalls, hfinds, List.filterMap_cons, Call.pruned?, Call.asked?, Call.tested?,
      Call.kept?]

private theorem flatMap_filter_singleton {β : Type} (p : β → Bool) (items : List β) :
    (items.flatMap fun item => [item].filter p) = items.filter p := by
  induction items with
  | nil => rfl
  | cons item rest ih =>
      rw [List.flatMap_cons, ih]
      cases hitem : p item <;> simp [hitem]

theorem flatMap_siftCalls_views (w : Walk ε ρ α) (results : List α) :
    (results.flatMap w.siftCalls).filterMap Call.pruned? = [] ∧
      (results.flatMap w.siftCalls).filterMap Call.asked? = [] ∧
      (results.flatMap w.siftCalls).filterMap Call.tested? = results ∧
      (results.flatMap w.siftCalls).filterMap Call.kept? =
        results.filter fun result => !w.finds result := by
  simp only [List.filterMap_flatMap, siftCalls_views]
  exact ⟨by simp, by simp, by simp, flatMap_filter_singleton _ results⟩

theorem awaitCalls_order (w : Walk ε ρ α) (s : Schema ρ) : w.AwaitOrder s (w.awaitCalls s) := by
  obtain ⟨hprunes, hasks, htests, hkeeps⟩ := w.flatMap_siftCalls_views (w.tested s)
  exact ⟨hasks, hprunes, htests, hkeeps⟩

theorem siteCalls_views (w : Walk ε ρ α) (site : Site ρ) :
    (w.siteCalls site).filterMap Call.pruned? = (site.branch? w.related).toList ∧
      (w.siteCalls site).filterMap Call.asked? =
        ((site.visit? w.related).map fun visit => (visit.rules, visit.value)).toList ∧
      (w.siteCalls site).filterMap Call.tested? =
        ((site.visit? w.related).bind w.resultNow?).toList ∧
      (w.siteCalls site).filterMap Call.kept? =
        ((site.visit? w.related).bind w.resultNow?).toList.filter fun result =>
          !w.finds result := by
  obtain ⟨path, node, around⟩ := site
  cases node with
  | branch sub => exact ⟨rfl, rfl, rfl, rfl⟩
  | leaf rules =>
      obtain ⟨hprunes, hasks, htests, hkeeps⟩ := w.flatMap_siftCalls_views
        (w.resultNow? ⟨path, rules, valueAt w.related path⟩).toList
      refine ⟨?_, ?_, ?_, ?_⟩
      · exact (List.filterMap_cons_none rfl).trans hprunes
      · exact congrArg ((rules, valueAt w.related path) :: ·) hasks
      · exact (List.filterMap_cons_none rfl).trans htests
      · exact (List.filterMap_cons_none rfl).trans hkeeps

theorem getLast?_siteCalls {w : Walk ε ρ α} {site : Site ρ} {visit : Visit ρ}
    {hit : FieldPath × α} (hvisit : site.visit? w.related = some visit)
    (hhit : w.hitNow visit = some hit) : (w.siteCalls site).getLast? = some (.test hit.2) := by
  obtain ⟨path, node, around⟩ := site
  cases node with
  | branch sub => cases hvisit
  | leaf rules =>
      cases hvisit
      rw [hitNow] at hhit
      cases hanswer : w.answer ⟨path, rules, valueAt w.related path⟩ with
      | later promise => simp [hanswer] at hhit
      | now result? =>
          cases result? with
          | none => simp [hanswer] at hhit
          | some result =>
              cases hfinds : w.finds result with
              | false => simp [hanswer, hfinds] at hhit
              | true =>
                  simp only [hanswer, hfinds, if_true, Option.some.injEq] at hhit
                  subst hhit
                  simp [siteCalls, resultNow?, hanswer, siftCalls, hfinds]

theorem findSome?_reached (w : Walk ε ρ α) (s : Schema ρ) :
    (w.visits s).findSome? w.hitNow =
      (w.reached s).findSome? fun site => (site.visit? w.related).bind w.hitNow := by
  simp only [visits, Schema.visits, ← List.head?_filterMap, List.filterMap_filterMap]
  rfl

theorem passCalls_order (w : Walk ε ρ α) (s : Schema ρ) : w.PassOrder s (w.passCalls s) := by
  constructor
  case asks =>
    rw [passCalls, List.filterMap_flatMap, asked]
    simp only [siteCalls_views]
    rw [← List.filterMap_eq_flatMap_toList, List.map_filterMap]
  case asks_prefix => exact (upTo_prefix_self _ _).filterMap _
  case prunes =>
    rw [passCalls, List.filterMap_flatMap]
    simp only [siteCalls_views]
    exact (List.filterMap_eq_flatMap_toList _ _).symm
  case tests =>
    rw [passCalls, List.filterMap_flatMap, asked, List.filterMap_filterMap]
    simp only [siteCalls_views]
    exact (List.filterMap_eq_flatMap_toList _ _).symm
  case keeps =>
    rw [passCalls, List.filterMap_flatMap, asked, List.filterMap_filterMap]
    simp only [siteCalls_views]
    rw [List.filterMap_eq_flatMap_toList, List.filter_flatMap]
  case whole =>
    intro hnone
    rw [findSome?_reached, List.findSome?_eq_none_iff] at hnone
    exact upTo_eq_self fun site hsite => by rw [endsAt, hnone site hsite]; rfl
  case cut =>
    intro hit hfound
    rw [findSome?_reached, List.findSome?_eq_some_iff] at hfound
    obtain ⟨before, last, after, hreached, hlast, hbefore⟩ := hfound
    obtain ⟨visit, hvisit, hhit⟩ := Option.bind_eq_some_iff.mp hlast
    have hnone : ∀ site ∈ before, w.endsAt site = false := by
      intro site hsite
      rw [endsAt, hbefore site hsite]
      rfl
    have hends : w.endsAt last = true := by
      rw [endsAt, hlast]
      rfl
    have hpassed : w.passed s = before ++ [last] := by
      rw [passed, hreached, upTo_append_cons after hnone hends]
    refine ⟨before, last, after, visit, hreached, hpassed, hvisit, hhit, hnone, ?_⟩
    rw [passCalls, hpassed, List.flatMap_append, List.getLast?_append]
    simp [getLast?_siteCalls hvisit hhit]

theorem visits_eq_leaves (w : Walk ε ρ α) (s : Schema ρ) :
    (w.visits s).map (fun visit => (visit.path, visit.rules)) =
      (s.sites.filter (Site.isOpen w.prunes w.related)).filterMap Site.leaf? := by
  rw [visits, Schema.visits, Schema.reached, List.map_filterMap]
  refine List.filterMap_congr fun site _ => ?_
  obtain ⟨path, node, around⟩ := site
  cases node <;> rfl

theorem value_eq_of_mem_visits {w : Walk ε ρ α} {s : Schema ρ} {visit : Visit ρ}
    (hvisit : visit ∈ w.visits s) : visit.value = valueAt w.related visit.path := by
  obtain ⟨⟨path, node, around⟩, -, hsite⟩ := List.mem_filterMap.mp hvisit
  cases node with
  | branch sub => cases hsite
  | leaf rules =>
      cases hsite
      rfl

/-- The events of a run are those of the calls of its pass, and while it is awaited those of
the promises and then of the calls on what they settled with.  The leaves are asked about the
values at their paths. -/
theorem run_calls_in_order (w : Walk ε ρ α) (s : Schema ρ) :
    ((w.run s).log = (w.passCalls s).flatMap w.callLog ∧ w.PassOrder s (w.passCalls s)) ∧
      ((w.run s).value.awaitLog =
          (Promise.all (w.awaited s)).log ++ (w.awaitCalls s).flatMap w.callLog ∧
        w.AwaitOrder s (w.awaitCalls s)) ∧
      s.sites.filterMap Site.leaf? = s.leaves ∧
      (w.visits s).map (fun visit => (visit.path, visit.rules)) =
        (s.sites.filter (Site.isOpen w.prunes w.related)).filterMap Site.leaf? ∧
      ∀ visit ∈ w.visits s, visit.value = valueAt w.related visit.path := by
  refine ⟨⟨w.log_run s, w.passCalls_order s⟩, ⟨w.awaitLog_run s, w.awaitCalls_order s⟩, ?_, ?_, ?_⟩
  · exact Schema.filterMap_leaf?_sitesFrom [] [] s
  · exact w.visits_eq_leaves s
  · exact fun visit hvisit => value_eq_of_mem_visits hvisit

end SubjectRules.Walk
