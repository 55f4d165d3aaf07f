import SubjectRules.Json.Path

/-!
# Laws of paths

What lies at a path is found along any of its fronts.  Assigning at a path changes what is
found there and nothing at paths that neither lead to it nor go on from it.  Entries whose
first keys are new go to the end of an object, as if they were assigned to an empty one.
-/

namespace SubjectRules

/-- Neither path leads to the other. -/
def Incomparable (p q : FieldPath) : Prop := ¬ p <+: q ∧ ¬ q <+: p

instance (p q : FieldPath) : Decidable (Incomparable p q) :=
  inferInstanceAs (Decidable (¬ p <+: q ∧ ¬ q <+: p))

theorem Incomparable.symm {p q : FieldPath} (h : Incomparable p q) : Incomparable q p :=
  ⟨h.2, h.1⟩

theorem incomparable_cons_iff {key key' : String} {p q : FieldPath} :
    Incomparable (key :: p) (key' :: q) ↔ key ≠ key' ∨ Incomparable p q := by
  by_cases hkey : key = key'
  · subst hkey
    simp [Incomparable, List.cons_prefix_cons]
  · simp [Incomparable, List.cons_prefix_cons, hkey, Ne.symm hkey]

namespace Json.Fields

@[simp] theorem lookup_nil (path : FieldPath) : lookup path [] = none := by
  match path with
  | [] => rfl
  | [_] => rfl
  | _ :: _ :: _ => rfl

theorem lookup_objectAt (key next : String) (rest : FieldPath) (fields : Fields) :
    lookup (next :: rest) (fields.objectAt key) = lookup (key :: next :: rest) fields := by
  rw [objectAt, lookup]
  cases (fields.get? key).bind Json.fields? <;> simp

theorem lookup_congr {key : String} {fields others : Fields}
    (hkey : fields.get? key = others.get? key) (rest : FieldPath) :
    lookup (key :: rest) fields = lookup (key :: rest) others := by
  cases rest <;> simp [lookup, hkey]

theorem lookup_cons (key : String) {path : FieldPath} (hpath : path ≠ []) (fields : Fields) :
    lookup (key :: path) fields = lookup path (fields.objectAt key) := by
  cases path with
  | nil => contradiction
  | cons next rest => exact (lookup_objectAt key next rest fields).symm

theorem objectAt_insert_self (key : String) (inner fields : Fields) :
    objectAt key (insert key (.obj inner) fields) = inner := by
  simp [objectAt, get?_insert, Json.fields?]

end Json.Fields

/-! ## Values at paths -/

namespace Json

def at? : FieldPath → Json → Option Json
  | [], value => some value
  | key :: rest, value => (value.field? key).bind (at? rest)

theorem at?_obj {path : FieldPath} (hpath : path ≠ []) (fields : Fields) :
    at? path (.obj fields) = Fields.lookup path fields := by
  induction path generalizing fields with
  | nil => contradiction
  | cons key rest ih =>
      cases rest with
      | nil => simp [at?, field?, fields?, Fields.lookup]
      | cons next rest =>
          rw [at?, Fields.lookup, field?, fields?, Option.bind_some, Option.bind_assoc]
          refine congrArg _ (funext fun value => ?_)
          cases value with
          | obj inner => exact ih (List.cons_ne_nil next rest) inner
          | _ => rfl

theorem at?_eq_bind_lookup {path : FieldPath} (hpath : path ≠ []) (value : Json) :
    at? path value = value.fields?.bind (Fields.lookup path) := by
  cases value with
  | obj fields => exact at?_obj hpath fields
  | _ =>
      obtain ⟨key, rest, rfl⟩ := List.exists_cons_of_ne_nil hpath
      rfl

theorem at?_append (path more : FieldPath) (value : Json) :
    at? (path ++ more) value = (at? path value).bind (at? more) := by
  induction path generalizing value with
  | nil => rfl
  | cons key rest ih =>
      rw [List.cons_append, at?, at?, Option.bind_assoc]
      exact congrArg _ (funext ih)

theorem Fields.lookup_append {path : FieldPath} (hpath : path ≠ []) (more : FieldPath)
    (fields : Fields) : lookup (path ++ more) fields = (lookup path fields).bind (at? more) := by
  rw [← at?_obj (List.append_ne_nil_of_left_ne_nil hpath more), at?_append, at?_obj hpath]

end Json

namespace Json.Fields

/-! ## Looking up what was assigned -/

theorem lookup_assign_self (path : FieldPath) (hpath : path ≠ []) (value : Json)
    (fields : Fields) : lookup path (assign path value fields) = some value := by
  induction path generalizing fields with
  | nil => contradiction
  | cons key rest ih =>
      cases rest with
      | nil => simp [assign, lookup, get?_insert]
      | cons next rest => simp [assign, lookup, get?_insert, Json.fields?, ih]

theorem lookup_assign_of_incomparable {p q : FieldPath} (h : Incomparable p q) (value : Json)
    (fields : Fields) : lookup q (assign p value fields) = lookup q fields := by
  induction p generalizing q fields with
  | nil => exact absurd List.nil_prefix h.1
  | cons key rest ih =>
      cases q with
      | nil => exact absurd List.nil_prefix h.2
      | cons key' rest' =>
          by_cases hkey : key = key'
          · subst hkey
            have hrest : Incomparable rest rest' :=
              (incomparable_cons_iff.mp h).resolve_left (· rfl)
            cases rest with
            | nil => exact absurd List.nil_prefix hrest.1
            | cons next rest =>
                cases rest' with
                | nil => exact absurd List.nil_prefix hrest.2
                | cons next' rest' =>
                    rw [← lookup_objectAt, assign, ← lookup_objectAt key, objectAt_insert_self,
                      ih hrest]
          · have hother : ∀ inner, lookup (key' :: rest') (fields.insert key inner) =
                lookup (key' :: rest') fields := by
              intro inner
              cases rest' <;> simp [lookup, get?_insert, hkey]
            cases rest <;> exact hother _

theorem lookup_assignAll_of_incomparable {q : FieldPath} {entries : List (FieldPath × Json)}
    (h : ∀ entry ∈ entries, Incomparable entry.1 q) (fields : Fields) :
    lookup q (fields.assignAll entries) = lookup q fields := by
  induction entries generalizing fields with
  | nil => rfl
  | cons entry rest ih =>
      have hrest := ih (fun other hother => h other (List.mem_cons_of_mem _ hother))
        (fields.assign entry.1 entry.2)
      have hentry := lookup_assign_of_incomparable (h entry List.mem_cons_self) entry.2 fields
      exact hrest.trans hentry

theorem lookup_assignAll_of_mem {entries : List (FieldPath × Json)}
    (hpaths : entries.Pairwise fun a b => Incomparable a.1 b.1) {path : FieldPath} {value : Json}
    (hpath : path ≠ []) (hmem : (path, value) ∈ entries) (fields : Fields) :
    lookup path (fields.assignAll entries) = some value := by
  induction entries generalizing fields with
  | nil => contradiction
  | cons entry rest ih =>
      obtain ⟨hentry, hrest⟩ := List.pairwise_cons.mp hpaths
      rcases List.mem_cons.mp hmem with rfl | hmem
      · have hlater := lookup_assignAll_of_incomparable
          (fun other hother => (hentry other hother).symm) (fields.assign path value)
        exact hlater.trans (lookup_assign_self path hpath value fields)
      · exact ih hrest hmem (fields.assign entry.1 entry.2)

/-! ## Entries under new keys -/

def single : FieldPath → Json → Fields
  | [], _ => []
  | [key], value => [(key, value)]
  | key :: next :: rest, value => [(key, .obj (single (next :: rest) value))]

theorem assign_nil_fields (path : FieldPath) (value : Json) :
    assign path value [] = single path value := by
  induction path with
  | nil => rfl
  | cons key rest ih =>
      cases rest with
      | nil => rfl
      | cons next rest =>
          rw [assign, single, ← ih]
          rfl

theorem insert_append {key : String} {fields : Fields} (hkey : key ∉ keys fields) (value : Json)
    (others : Fields) :
    insert key value (fields ++ others) = fields ++ insert key value others := by
  induction fields with
  | nil => rfl
  | cons field rest ih =>
      obtain ⟨k, v⟩ := field
      have hne : k ≠ key := fun h => hkey (by simp [keys, h])
      have hrest : key ∉ keys rest := fun h => hkey (List.mem_cons_of_mem _ h)
      simp [insert, hne, ih hrest]

theorem get?_append {key : String} {fields : Fields} (hkey : key ∉ keys fields)
    (others : Fields) : get? key (fields ++ others) = get? key others := by
  induction fields with
  | nil => rfl
  | cons field rest ih =>
      obtain ⟨k, v⟩ := field
      have hne : k ≠ key := fun h => hkey (by simp [keys, h])
      have hrest : key ∉ keys rest := fun h => hkey (List.mem_cons_of_mem _ h)
      simp [get?, hne, ih hrest]

theorem assign_append {path : FieldPath} {fields : Fields}
    (hpath : ∀ key ∈ path.head?, key ∉ keys fields) (value : Json) (others : Fields) :
    assign path value (fields ++ others) = fields ++ assign path value others := by
  match path with
  | [] => rfl
  | [key] => exact insert_append (hpath key rfl) value others
  | key :: next :: rest =>
      have hkey := hpath key rfl
      have hobject : objectAt key (fields ++ others) = objectAt key others := by
        rw [objectAt, get?_append hkey, objectAt]
      rw [assign, hobject, insert_append hkey, assign]

theorem assignAll_append {entries : List (FieldPath × Json)} {fields : Fields}
    (hpaths : ∀ entry ∈ entries, ∀ key ∈ entry.1.head?, key ∉ keys fields) (others : Fields) :
    assignAll (fields ++ others) entries = fields ++ assignAll others entries := by
  induction entries generalizing others with
  | nil => rfl
  | cons entry rest ih =>
      have hentry := assign_append (hpaths entry List.mem_cons_self) entry.2 others
      have hrest := ih (fun other hother => hpaths other (List.mem_cons_of_mem _ hother))
        (others.assign entry.1 entry.2)
      rw [assignAll, List.foldl_cons, hentry]
      exact hrest

theorem assign_below (key : String) {path : FieldPath} (hpath : path ≠ []) (value : Json)
    (inner : Fields) :
    assign (key :: path) value [(key, .obj inner)] = [(key, .obj (assign path value inner))] := by
  cases path with
  | nil => contradiction
  | cons next rest => simp [assign, insert, objectAt, get?, Json.fields?]

theorem assignAll_below (key : String) {entries : List (FieldPath × Json)}
    (hpaths : ∀ entry ∈ entries, entry.1 ≠ []) (inner : Fields) :
    assignAll [(key, .obj inner)] (entries.map fun entry => (key :: entry.1, entry.2)) =
      [(key, .obj (assignAll inner entries))] := by
  induction entries generalizing inner with
  | nil => rfl
  | cons entry rest ih =>
      have hentry := assign_below key (hpaths entry List.mem_cons_self) entry.2 inner
      have hrest := ih (fun other hother => hpaths other (List.mem_cons_of_mem _ hother))
        (inner.assign entry.1 entry.2)
      rw [List.map_cons, assignAll, List.foldl_cons, hentry]
      exact hrest

theorem assignAll_nil_below (key : String) {entries : List (FieldPath × Json)}
    (hne : entries ≠ []) (hpaths : ∀ entry ∈ entries, entry.1 ≠ []) :
    assignAll [] (entries.map fun entry => (key :: entry.1, entry.2)) =
      [(key, .obj (assignAll [] entries))] := by
  cases entries with
  | nil => contradiction
  | cons entry rest =>
      have hfirst : assign (key :: entry.1) entry.2 [] =
          [(key, .obj (assign entry.1 entry.2 []))] := by
        obtain ⟨path, value⟩ := entry
        cases path with
        | nil => exact absurd rfl (hpaths _ List.mem_cons_self)
        | cons next rest => rfl
      have hrest := assignAll_below key
        (fun other hother => hpaths other (List.mem_cons_of_mem _ hother))
        (assign entry.1 entry.2 [])
      rw [List.map_cons, assignAll, List.foldl_cons, hfirst]
      exact hrest

end Json.Fields

end SubjectRules
