import SubjectRules.CommandLine.Report
import SubjectRules.Proofs.Failure
import SubjectRules.Proofs.Validation.Early

/-!
# The names of fields in print

A report has a line for each field that failed, with the name of the field.  The name is
built up key by key and starts anew after an empty name.  So empty keys in front are left
out of it, and it is the path with dots between its keys, as in a listing of the fields
with rules, unless the path starts with an empty key and goes on.
-/

namespace SubjectRules.CommandLine

variable {ε : Type}

/-! ## Names -/

theorem label_empty (key : String) : label "" key = key := rfl

theorem label_of_ne_empty {outer : String} (houter : outer ≠ "") (key : String) :
    label outer key = outer ++ "." ++ key := by
  simp [label, houter]

theorem foldl_label {outer : String} (houter : outer ≠ "") (path : FieldPath) :
    path.foldl label outer = pathLabel (outer :: path) := by
  induction path generalizing outer with
  | nil => rw [List.foldl_nil, pathLabel, String.intercalate_singleton]
  | cons key rest ih =>
      have hnext : outer ++ "." ++ key ≠ "" := by simp
      rw [List.foldl_cons, label_of_ne_empty houter, ih hnext, pathLabel, pathLabel,
        String.intercalate_cons_append, String.intercalate_cons_cons]

theorem dropWhile_isEmpty_cons (rest : FieldPath) :
    ("" :: rest).dropWhile String.isEmpty = rest.dropWhile String.isEmpty := rfl

theorem foldl_label_empty (path : FieldPath) :
    path.foldl label "" = pathLabel (path.dropWhile String.isEmpty) := by
  induction path with
  | nil => exact String.intercalate_nil.symm
  | cons key rest ih =>
      rw [List.foldl_cons, label_empty]
      by_cases hkey : key = ""
      · rw [hkey, ih, dropWhile_isEmpty_cons]
      · rw [foldl_label hkey]
        simp [hkey]

theorem length_pathLabel_empty_cons {rest : FieldPath} (hrest : rest ≠ []) :
    (pathLabel ("" :: rest)).length = 1 + (pathLabel rest).length := by
  have hcons : pathLabel ("" :: rest) = "." ++ pathLabel rest := by
    rw [pathLabel, String.intercalate_cons_of_ne_nil hrest]
    rfl
  rw [hcons, String.length_append]
  rfl

theorem length_pathLabel_dropWhile_le (path : FieldPath) :
    (pathLabel (path.dropWhile String.isEmpty)).length ≤ (pathLabel path).length := by
  induction path with
  | nil => exact Nat.le_refl _
  | cons key rest ih =>
      by_cases hkey : key = ""
      · rw [hkey, dropWhile_isEmpty_cons]
        by_cases hrest : rest = []
        · rw [hrest]
          exact Nat.le_refl _
        · rw [length_pathLabel_empty_cons hrest]
          omega
      · simp [hkey]

theorem pathLabel_dropWhile_eq_iff (path : FieldPath) :
    pathLabel (path.dropWhile String.isEmpty) = pathLabel path ↔
      (path.head? = some "" → path = [""]) := by
  cases path with
  | nil => simp
  | cons key rest =>
      by_cases hkey : key = ""
      · subst hkey
        rw [dropWhile_isEmpty_cons]
        by_cases hrest : rest = []
        · subst hrest
          exact ⟨fun _ _ => rfl, fun _ => rfl⟩
        · -- the name in the listing has a dot that the one in the report has not
          have hshorter := length_pathLabel_dropWhile_le rest
          have hlonger := length_pathLabel_empty_cons hrest
          constructor
          · intro hsame
            rw [hsame] at hshorter
            omega
          · intro halone
            exact absurd (List.cons.inj (halone rfl)).2 hrest
      · simp [hkey]

/-! ## Lines -/

def reportLine (name : String) (codes : List String) : String :=
  "  " ++ name ++ ": " ++ String.intercalate ", " codes

mutual

theorem failureLine_eq (name : String) : ∀ value : Json, failureLine name value =
    value.leaves.map fun leaf => reportLine (leaf.1.foldl label name) (wireCodes leaf.2)
  | .obj fields => by rw [failureLine, Json.leaves, failureLines_eq name fields]
  | .null | .bool _ | .num _ | .str _ | .arr _ => by
      rw [failureLine, Json.leaves] <;> simp [reportLine]

theorem failureLines_eq (outer : String) : ∀ fields : List (String × Json),
    failureLines outer fields = (Json.fieldLeaves fields).map fun leaf =>
      reportLine (leaf.1.foldl label outer) (wireCodes leaf.2)
  | [] => by rw [failureLines, Json.fieldLeaves, List.map_nil]
  | (key, value) :: rest => by
      rw [failureLines, Json.fieldLeaves, failureLine_eq (label outer key) value,
        failureLines_eq outer rest, List.map_append, List.map_map]
      rfl

end

theorem failureLines_fields (report : FailureTree) :
    failureLines "" report.fields = report.leaves.map fun leaf =>
      reportLine (pathLabel (leaf.1.dropWhile String.isEmpty)) (wireCodes leaf.2) := by
  rw [failureLines_eq]
  exact List.map_congr_left fun leaf _ => by rw [foldl_label_empty]

theorem map_pathLabel_sublist_rulesReport [PatternEngine] {rules : Rules} {paths : List FieldPath}
    (hpaths : paths.Sublist rules.validation.leafPaths) :
    (paths.map fun path => "  " ++ pathLabel path).Sublist (rulesReport .pretty rules).output := by
  have hlines : (paths.map fun path => "  " ++ pathLabel path).Sublist
      ((rules.validation.leafPaths.map pathLabel).map ("  " ++ ·)) := by
    rw [List.map_map]
    exact hpaths.map _
  exact (hlines.trans (List.sublist_cons_self _ _)).trans (List.sublist_append_right _ _)

/-- A line does not always have the name in the listing: below an empty key the dot in front is
missing. -/
theorem not_failureLines_labelled_by_path :
    ¬ ∀ (schema : Schema (Validator Unit)), schema.DistinctKeys →
      ∀ (subject : Json.Fields) (abortEarly : Bool) (report : FailureTree),
        (validate subject schema abortEarly).value.value = some report →
        failureLines "" report.fields =
          (schema.reported subject abortEarly).map fun (path, failure) =>
            reportLine (pathLabel path) failure.codes := by
  intro hclaim
  have hkeys : (Schema.branch "" (.leaf "a" (.single (promptCheck "required")) .nil)
      .nil).DistinctKeys := by decide
  have hlines := hclaim _ hkeys [("", .obj [])] false _ rfl
  exact absurd hlines (by decide +kernel)

/-- A report has one line for each leaf that it holds, in depth-first order: for every leaf that
fails, or for the one that a validation with a stop finds.  A line has the codes of the failure and
the name under which the listing of rules has the field, less the empty keys in front; so the two
names differ when the path starts with an empty key and goes on, and only then. -/
theorem failureLines_of_validate [PatternEngine] {schema : Schema (Validator ε)}
    (hschema : schema.DistinctKeys) {subject : Json.Fields} {abortEarly : Bool} {report : FailureTree}
    (hreport : (validate subject schema abortEarly).value.value = some report) :
    let reported := schema.reported subject abortEarly
    failureLines "" report.fields = reported.map (fun (path, failure) =>
        reportLine (pathLabel (path.dropWhile String.isEmpty)) failure.codes) ∧
      report.leafPaths = reported.map Prod.fst ∧
      (failureLines "" report.fields).length = report.fieldCount ∧
      (∀ path ∈ report.leafPaths, pathLabel (path.dropWhile String.isEmpty) = pathLabel path ↔
        (path.head? = some "" → path = [""])) ∧
      ∀ rules : Rules, rules.validation.leafPaths = schema.leafPaths →
        (report.leafPaths.map fun path => "  " ++ pathLabel path).Sublist
          (rulesReport .pretty rules).output := by
  intro reported
  have hleaves : report.leaves = reported.map fun (path, failure) => (path, failure.toJson) :=
    leaves_of_validate hschema hreport
  have hpaths : report.leafPaths = reported.map Prod.fst := by
    rw [report.leafPaths_eq, hleaves, List.map_map]
    rfl
  refine ⟨?_, hpaths, ?_, fun path _ => pathLabel_dropWhile_eq_iff path, fun rules hrules => ?_⟩
  · rw [failureLines_fields, hleaves, List.map_map]
    refine List.map_congr_left fun entry _ => ?_
    rw [Function.comp_apply, entry.2.wireCodes_toJson]
  · rw [failureLines_fields, List.length_map, report.fieldCount_eq, report.leafPaths_eq,
      List.length_map]
  · refine map_pathLabel_sublist_rulesReport ?_
    rw [hrules, hpaths]
    exact map_fst_reported_sublist subject abortEarly schema

theorem failureLines_of_validate_below_empty :
    let schema : Schema (Validator Unit) :=
      .branch "" (.leaf "a" (.chain [lateCheck "required"]) .nil)
        (.branch "b" (.leaf "" (.single (promptCheck "missing")) .nil) .nil)
    ∃ report, (validate [("", .obj []), ("b", .obj [])] schema false).value.value = some report ∧
      failureLines "" report.fields = ["  a: required", "  b.: missing"] ∧
      report.leafPaths = [["", "a"], ["b", ""]] ∧
      pathLabel (["", "a"].dropWhile String.isEmpty) ≠ pathLabel ["", "a"] ∧
      pathLabel (["b", ""].dropWhile String.isEmpty) = pathLabel ["b", ""] := by
  intro schema
  have hschema : schema.DistinctKeys := by decide
  obtain ⟨hlines, hpaths, -, hnames, -⟩ := failureLines_of_validate hschema
    (rfl : (validate [("", .obj []), ("b", .obj [])] schema false).value.value = some _)
  have hfirst := hnames ["", "a"] (hpaths ▸ by decide)
  have hsecond := hnames ["b", ""] (hpaths ▸ by decide)
  exact ⟨_, rfl, hlines.trans (by decide +kernel), hpaths.trans (by decide +kernel),
    fun hsame => absurd (hfirst.mp hsame rfl) (by decide), hsecond.mpr (by decide)⟩

end SubjectRules.CommandLine
