import SubjectRules.Proofs.Json.Path

/-!
# Objects on the way of an assignment

An assignment keeps the fields of every object on its way in order and puts a field that
is new behind them.  What it writes below a field that holds an object, it writes into that
object.
-/

namespace SubjectRules.Json

theorem fields?_eq_some_iff {value : Json} {fields : Fields} :
    value.fields? = some fields ↔ value = .obj fields := by
  cases value <;> simp [fields?]

namespace Fields

/-! ## Keys -/

theorem keys_assign {path : FieldPath} {key : String} (hhead : path.head? = some key)
    (value : Json) (fields : Fields) :
    keys (assign path value fields) =
      if key ∈ keys fields then keys fields else keys fields ++ [key] := by
  match path with
  | [] => cases hhead
  | [_] | _ :: _ :: _ =>
      cases hhead
      rw [assign, keys_insert]

theorem keys_assignAll_of_head {entries : List (FieldPath × Json)} {key : String}
    (hheads : ∀ entry ∈ entries, entry.1.head? = some key) (fields : Fields) :
    keys (fields.assignAll entries) =
      if entries = [] ∨ key ∈ keys fields then keys fields else keys fields ++ [key] := by
  induction entries generalizing fields with
  | nil => simp [assignAll]
  | cons entry rest ih =>
      have hrest := ih (fun other hother => hheads other (List.mem_cons_of_mem _ hother))
        (fields.assign entry.1 entry.2)
      rw [keys_assign (hheads entry List.mem_cons_self)] at hrest
      rw [assignAll, List.foldl_cons, ← assignAll, hrest]
      by_cases hkey : key ∈ keys fields <;> simp [hkey]

theorem keys_prefix_assignAll (fields : Fields) (entries : List (FieldPath × Json)) :
    keys fields <+: keys (fields.assignAll entries) := by
  induction entries generalizing fields with
  | nil => exact List.prefix_refl _
  | cons entry rest ih =>
      refine List.IsPrefix.trans ?_ (ih (fields.assign entry.1 entry.2))
      cases hhead : entry.1.head? with
      | none =>
          rw [List.head?_eq_none_iff.mp hhead]
          exact List.prefix_refl _
      | some key =>
          rw [keys_assign hhead]
          split
          · exact List.prefix_refl _
          · exact List.prefix_append _ _

/-! ## Objects at paths -/

/-- The object at a path; at the empty path it is the whole. -/
def objectAt? : FieldPath → Fields → Option Fields
  | [], fields => some fields
  | key :: rest, fields => ((fields.get? key).bind Json.fields?).bind (objectAt? rest)

theorem exists_objectAt?_of_lookup {path : FieldPath} {fields : Fields} {value : Json}
    (hvalue : lookup path fields = some value) :
    ∃ inner, objectAt? path.dropLast fields = some inner := by
  induction path generalizing fields with
  | nil => cases hvalue
  | cons key rest ih =>
      cases rest with
      | nil => exact ⟨fields, rfl⟩
      | cons next rest =>
          obtain ⟨object, hobject, hrest⟩ := Option.bind_eq_some_iff.mp hvalue
          obtain ⟨inner, hinner⟩ := ih hrest
          exact ⟨inner, by simpa [objectAt?, hobject] using hinner⟩

def restAfter? (key : String) : FieldPath → Option FieldPath
  | [] => none
  | first :: rest => if first = key then some rest else none

theorem restAfter?_eq_some_iff {key : String} {path rest : FieldPath} :
    restAfter? key path = some rest ↔ path = key :: rest := by
  cases path <;> simp [restAfter?]

def below (key : String) (entries : List (FieldPath × Json)) : List (FieldPath × Json) :=
  entries.filterMap fun entry => (restAfter? key entry.1).map (·, entry.2)

theorem map_fst_below (key : String) (entries : List (FieldPath × Json)) :
    (below key entries).map Prod.fst = (entries.map Prod.fst).filterMap (restAfter? key) := by
  simp [below, List.map_filterMap, List.filterMap_map, Function.comp_def]

theorem exists_mem_below_iff {key : String} {entries : List (FieldPath × Json)}
    {path : FieldPath} :
    (∃ entry ∈ below key entries, path <+: entry.1) ↔
      ∃ entry ∈ entries, key :: path <+: entry.1 := by
  constructor
  · rintro ⟨entry, hentry, hpath⟩
    obtain ⟨whole, hwhole, hbelow⟩ := List.mem_filterMap.mp hentry
    obtain ⟨rest, hrest, rfl⟩ := Option.map_eq_some_iff.mp hbelow
    refine ⟨whole, hwhole, ?_⟩
    rw [restAfter?_eq_some_iff.mp hrest]
    exact (List.prefix_cons_inj key).mpr hpath
  · rintro ⟨entry, hentry, more, hmore⟩
    have hrest : restAfter? key entry.1 = some (path ++ more) :=
      restAfter?_eq_some_iff.mpr hmore.symm
    exact ⟨(path ++ more, entry.2), List.mem_filterMap.mpr ⟨entry, hentry, by rw [hrest]; rfl⟩,
      List.prefix_append path more⟩

theorem get?_assign_below {key : String} {path : FieldPath} (hpath : path ≠ [])
    {fields inner : Fields} (hinner : fields.get? key = some (.obj inner)) (value : Json) :
    (assign (key :: path) value fields).get? key = some (.obj (assign path value inner)) := by
  cases path with
  | nil => contradiction
  | cons next rest => simp [assign, get?_insert, objectAt, hinner, Json.fields?]

theorem get?_assign_of_ne {key other : String} (hne : other ≠ key) (path : FieldPath)
    (value : Json) (fields : Fields) :
    (assign (other :: path) value fields).get? key = fields.get? key := by
  cases path <;> simp [assign, get?_insert, hne]

theorem get?_assignAll_below {key : String} {entries : List (FieldPath × Json)}
    (hentries : ∀ entry ∈ entries, entry.1 ≠ [key]) {fields inner : Fields}
    (hinner : fields.get? key = some (.obj inner)) :
    (fields.assignAll entries).get? key = some (.obj (inner.assignAll (below key entries))) := by
  induction entries generalizing fields inner with
  | nil => exact hinner
  | cons entry rest ih =>
      obtain ⟨path, value⟩ := entry
      have hrest : ∀ other ∈ rest, other.1 ≠ [key] := fun other hother =>
        hentries other (List.mem_cons_of_mem _ hother)
      match path with
      | [] => exact ih hrest hinner
      | first :: path =>
          by_cases hfirst : first = key
          · subst hfirst
            have hpath : path ≠ [] := fun hnil =>
              hentries _ List.mem_cons_self (by rw [hnil])
            have hstep := ih hrest (get?_assign_below hpath hinner value)
            simpa [assignAll, below, restAfter?] using hstep
          · have hstep := ih hrest ((get?_assign_of_ne hfirst path value fields).trans hinner)
            simpa [assignAll, below, restAfter?, hfirst] using hstep

theorem get?_assignAll_of_below_eq_nil {key : String} {entries : List (FieldPath × Json)}
    (hbelow : below key entries = []) (fields : Fields) :
    (fields.assignAll entries).get? key = fields.get? key := by
  induction entries generalizing fields with
  | nil => rfl
  | cons entry rest ih =>
      obtain ⟨path, value⟩ := entry
      match path with
      | [] => exact ih hbelow fields
      | first :: path =>
          by_cases hfirst : first = key
          · simp [below, restAfter?, hfirst] at hbelow
          · have hrest : below key rest = [] := by
              simpa [below, restAfter?, hfirst] using hbelow
            exact (ih hrest _).trans (get?_assign_of_ne hfirst path value fields)

theorem get?_assignAll_of_below_ne_nil {key : String} {entries : List (FieldPath × Json)}
    (hentries : ∀ entry ∈ entries, entry.1 ≠ [key]) (hbelow : below key entries ≠ [])
    (fields : Fields) :
    (fields.assignAll entries).get? key =
      some (.obj ((fields.objectAt key).assignAll (below key entries))) := by
  induction entries generalizing fields with
  | nil => contradiction
  | cons entry rest ih =>
      obtain ⟨hentry, hrest⟩ := List.forall_mem_cons.mp hentries
      obtain ⟨path, value⟩ := entry
      match path with
      | [] => exact ih hrest hbelow fields
      | first :: path =>
          by_cases hfirst : first = key
          · subst hfirst
            have hpath : path ≠ [] := fun hnil => hentry (by rw [hnil])
            obtain ⟨next, more, rfl⟩ := List.exists_cons_of_ne_nil hpath
            have hwritten : (fields.assign (first :: next :: more) value).get? first =
                some (.obj (assign (next :: more) value (fields.objectAt first))) := by
              simp [assign, get?_insert]
            have hstep := get?_assignAll_below hrest hwritten
            simpa [assignAll, below, restAfter?] using hstep
          · have hobject : (fields.assign (first :: path) value).objectAt key =
                fields.objectAt key := by
              rw [objectAt, get?_assign_of_ne hfirst, objectAt]
            have hlater : below key ((first :: path, value) :: rest) = below key rest := by
              simp [below, restAfter?, hfirst]
            rw [hlater] at hbelow ⊢
            exact (ih hrest hbelow _).trans (by rw [hobject])

end Fields

end SubjectRules.Json
