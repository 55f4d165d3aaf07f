import SubjectRules.Proofs.Json.KeyOrder
import SubjectRules.Proofs.Json.Reordered

/-!
# Assigning and looking up

Assigning at a path and looking it up obey the laws of a lens, down to the order of the keys.
What is assigned is found at the path and below it; objects are found on the way; nothing changes
elsewhere.  The last of two assignments counts, and assigning what is there already changes
nothing.
-/

namespace SubjectRules.Json.Fields

/-! ## Assigning what is there -/

theorem insert_eq_self {key : String} {value : Json} {fields : Fields}
    (hvalue : fields.get? key = some value) : insert key value fields = fields := by
  induction fields with
  | nil => cases hvalue
  | cons field rest ih =>
      obtain ⟨k, v⟩ := field
      rw [get?] at hvalue
      rw [insert]
      split at hvalue
      · rename_i hkey
        cases hvalue
        rw [if_pos hkey]
      · rename_i hkey
        rw [if_neg hkey, ih hvalue]

theorem exists_object_of_lookup {path more : FieldPath} (hpath : path ≠ []) (hmore : more ≠ [])
    {fields : Fields} {value : Json} (hvalue : lookup (path ++ more) fields = some value) :
    ∃ inner, lookup path fields = some (.obj inner) ∧ lookup more inner = some value := by
  rw [lookup_append hpath, Option.bind_eq_some_iff] at hvalue
  obtain ⟨found, hfound, hvalue⟩ := hvalue
  rw [at?_eq_bind_lookup hmore, Option.bind_eq_some_iff] at hvalue
  obtain ⟨inner, hinner, hvalue⟩ := hvalue
  rw [fields?_eq_some_iff.mp hinner] at hfound
  exact ⟨inner, hfound, hvalue⟩

theorem assign_eq_self {path : FieldPath} {value : Json} {fields : Fields}
    (hvalue : lookup path fields = some value) : assign path value fields = fields := by
  induction path generalizing fields with
  | nil => rfl
  | cons key rest ih =>
      cases rest with
      | nil => exact insert_eq_self hvalue
      | cons next rest =>
          obtain ⟨inner, hinner, hrest⟩ := exists_object_of_lookup (List.cons_ne_nil key [])
            (List.cons_ne_nil next rest) hvalue
          have hobject : fields.objectAt key = inner := by
            rw [lookup] at hinner
            rw [objectAt, hinner]
            rfl
          rw [assign, hobject, ih hrest]
          exact insert_eq_self hinner

theorem assignAll_eq_self {entries : List (FieldPath × Json)} {fields : Fields}
    (hentries : ∀ entry ∈ entries, lookup entry.1 fields = some entry.2) :
    fields.assignAll entries = fields := by
  induction entries with
  | nil => rfl
  | cons entry rest ih =>
      obtain ⟨hentry, hrest⟩ := List.forall_mem_cons.mp hentries
      rw [assignAll, List.foldl_cons, assign_eq_self hentry]
      exact ih hrest

/-! ## Assigning twice -/

theorem assign_assign (path : FieldPath) (value other : Json) (fields : Fields) :
    assign path other (assign path value fields) = assign path other fields := by
  induction path generalizing fields with
  | nil => rfl
  | cons key rest ih =>
      cases rest with
      | nil => exact insert_insert key value other fields
      | cons next rest => simp only [assign, objectAt_insert_self, insert_insert, ih]

/-! ## Looking up around an assignment -/

theorem lookup_append_assign {path more : FieldPath} (hpath : path ≠ []) (hmore : more ≠ [])
    (value : Json) (fields : Fields) :
    lookup (path ++ more) (assign path value fields) = value.fields?.bind (lookup more) := by
  rw [lookup_append hpath, lookup_assign_self path hpath, Option.bind_some,
    at?_eq_bind_lookup hmore]

theorem exists_lookup_assign_append {here more : FieldPath} (hhere : here ≠ [])
    (hmore : more ≠ []) (value : Json) (fields : Fields) :
    ∃ inner, lookup here (assign (here ++ more) value fields) = some (.obj inner) := by
  have hself := lookup_assign_self (here ++ more)
    (List.append_ne_nil_of_left_ne_nil hhere more) value fields
  obtain ⟨inner, hinner, -⟩ := exists_object_of_lookup hhere hmore hself
  exact ⟨inner, hinner⟩

/-! ## Keys on the way of an assignment -/

theorem getD_objectAt?_cons (key : String) (here : FieldPath) (fields : Fields) :
    (objectAt? (key :: here) fields).getD [] = (objectAt? here (fields.objectAt key)).getD [] := by
  rw [objectAt?, objectAt]
  cases (fields.get? key).bind Json.fields? with
  | some inner => rfl
  | none => cases here <;> rfl

theorem exists_objectAt?_assign (here : FieldPath) (key : String) (rest : FieldPath)
    (value : Json) (fields : Fields) :
    ∃ written, objectAt? here (assign (here ++ key :: rest) value fields) = some written ∧
      keys written =
        let old := (objectAt? here fields).getD []
        if key ∈ keys old then keys old else keys old ++ [key] := by
  induction here generalizing fields with
  | nil => exact ⟨_, rfl, keys_assign rfl value fields⟩
  | cons first here ih =>
      obtain ⟨written, hwritten, hkeys⟩ := ih (fields.objectAt first)
      refine ⟨written, ?_, ?_⟩
      · obtain ⟨next, more, hmore⟩ := List.exists_cons_of_ne_nil
          (List.append_ne_nil_of_right_ne_nil here (List.cons_ne_nil key rest))
        rw [hmore] at hwritten
        rw [List.cons_append, hmore, assign, objectAt?, get?_insert, if_pos rfl]
        exact hwritten
      · rw [getD_objectAt?_cons]
        exact hkeys

/-! ## The laws -/

/-- The laws of assigning and looking up, for an object with fields in any order. -/
theorem assign_lawful {p : FieldPath} (hp : p ≠ []) (a b : Json) (fields : Fields) :
    lookup p (assign p a fields) = some a ∧
      (∀ more ≠ [], lookup (p ++ more) (assign p a fields) = a.fields?.bind (lookup more)) ∧
      (∀ here more, here ≠ [] → more ≠ [] → p = here ++ more →
        ∃ inner, lookup here (assign p a fields) = some (.obj inner)) ∧
      (∀ q, Incomparable p q → lookup q (assign p a fields) = lookup q fields) ∧
      assign p b (assign p a fields) = assign p b fields ∧
      (lookup p fields = some a → assign p a fields = fields) ∧
      (∀ here key rest, p = here ++ key :: rest →
        ∃ written, objectAt? here (assign p a fields) = some written ∧
          keys written =
            let old := (objectAt? here fields).getD []
            if key ∈ keys old then keys old else keys old ++ [key]) ∧
      (∀ q, Incomparable p q →
        Reordered (assign p a (assign q b fields)) (assign q b (assign p a fields))) ∧
      assign [] a fields = fields := by
  refine ⟨lookup_assign_self p hp a fields, ?_, ?_, ?_, assign_assign p a b fields,
    assign_eq_self, ?_, ?_, rfl⟩
  · intro more hmore
    exact lookup_append_assign hp hmore a fields
  · rintro here more hhere hmore rfl
    exact exists_lookup_assign_append hhere hmore a fields
  · intro q hq
    exact lookup_assign_of_incomparable hq a fields
  · rintro here key rest rfl
    exact exists_objectAt?_assign here key rest a fields
  · intro q hq
    exact reordered_assign_comm hq a b fields

theorem assign_lawful_over_text :
    let fields : Fields := [("a", .null), ("b", .str "text")]
    let written := assign ["b", "c"] (.bool true) fields
    lookup ["b", "c"] written = some (.bool true) ∧
      (∃ inner, lookup ["b"] written = some (.obj inner)) ∧
      lookup ["a"] written = some .null ∧
      assign ["b", "c"] .null written = assign ["b", "c"] .null fields ∧
      Reordered (assign ["b", "c"] (.bool true) (assign ["b", "d"] .null fields))
        (assign ["b", "d"] .null written) := by
  intro fields written
  obtain ⟨hfound, -, hway, helsewhere, hlast, -, -, hcomm, -⟩ :=
    assign_lawful (p := ["b", "c"]) (by decide) (.bool true) .null fields
  refine ⟨hfound, hway ["b"] ["c"] (by decide) (by decide) rfl, ?_, hlast,
    hcomm ["b", "d"] (by decide)⟩
  exact helsewhere ["a"] (by decide)

end SubjectRules.Json.Fields
