import SubjectRules.Proofs.Json.Path

/-!
# Objects up to the order of their keys

Two objects are reorderings of each other when swapping neighbours, here and in the objects
below, leads from one to the other.  Fields of one key never pass each other: no object has two
of them, and so writing respects reorderings of any list of fields.  Assignments at paths neither
of which leads to the other may change places.
-/

namespace SubjectRules.Json

namespace Fields

/-- Equality up to the order of keys, at every level of nested objects. -/
inductive Reordered : Fields → Fields → Prop
  | nil : Reordered [] []
  | cons (field : String × Json) {rest rest' : Fields} (hrest : Reordered rest rest') :
      Reordered (field :: rest) (field :: rest')
  | object (key : String) {inner inner' rest rest' : Fields} (hinner : Reordered inner inner')
      (hrest : Reordered rest rest') :
      Reordered ((key, .obj inner) :: rest) ((key, .obj inner') :: rest')
  | swap {key key' : String} (hne : key ≠ key') (value value' : Json) (rest : Fields) :
      Reordered ((key, value) :: (key', value') :: rest)
        ((key', value') :: (key, value) :: rest)
  | trans {fields fields' fields'' : Fields} (hfirst : Reordered fields fields')
      (hsecond : Reordered fields' fields'') : Reordered fields fields''

theorem Reordered.refl : ∀ fields : Fields, Reordered fields fields
  | [] => .nil
  | field :: rest => .cons field (refl rest)

end Fields

inductive Reordered : Json → Json → Prop
  | refl (value : Json) : Reordered value value
  | obj {inner inner' : Fields} (hinner : Fields.Reordered inner inner') :
      Reordered (.obj inner) (.obj inner')

namespace Fields

/-! ## Writing a field -/

theorem insert_insert (key : String) (value other : Json) (fields : Fields) :
    insert key other (insert key value fields) = insert key other fields := by
  induction fields with
  | nil => simp [insert]
  | cons field rest ih =>
      by_cases h : field.1 = key <;> simp [insert, h, ih]

theorem reordered_insert_comm {key other : String} (hne : key ≠ other) (value value' : Json)
    (fields : Fields) :
    Reordered (insert key value (insert other value' fields))
      (insert other value' (insert key value fields)) := by
  induction fields with
  | nil =>
      simp only [insert, if_neg hne, if_neg hne.symm]
      exact .swap hne.symm value' value []
  | cons field rest ih =>
      obtain ⟨first, found⟩ := field
      by_cases hkey : first = key
      · subst hkey
        simp only [insert, if_pos, if_neg hne]
        exact .refl _
      · by_cases hother : first = other
        · subst hother
          simp only [insert, if_pos, if_neg hkey]
          exact .refl _
        · simp only [insert, if_neg hkey, if_neg hother]
          exact .cons _ ih

theorem reordered_insert_value {value value' : Json} (hvalue : Json.Reordered value value')
    (key : String) (fields : Fields) :
    Reordered (insert key value fields) (insert key value' fields) := by
  have hhead : ∀ rest : Fields, Reordered ((key, value) :: rest) ((key, value') :: rest) := by
    intro rest
    cases hvalue with
    | refl => exact .refl _
    | obj hinner => exact .object key hinner (.refl rest)
  induction fields with
  | nil => exact hhead []
  | cons field rest ih =>
      obtain ⟨first, found⟩ := field
      by_cases hkey : first = key
      · subst hkey
        simpa only [insert, if_pos] using hhead rest
      · simp only [insert, if_neg hkey]
        exact .cons _ ih

theorem Reordered.insert {fields fields' : Fields} (h : Reordered fields fields') (key : String)
    (value : Json) :
    Reordered (fields.insert key value) (fields'.insert key value) := by
  induction h with
  | nil => exact .refl _
  | cons field hrest ih =>
      by_cases hkey : field.1 = key
      · simpa only [Fields.insert, if_pos hkey] using .cons _ hrest
      · simpa only [Fields.insert, if_neg hkey] using .cons _ ih
  | object first hinner hrest _ ih =>
      by_cases hkey : first = key
      · simpa only [Fields.insert, if_pos hkey] using .cons _ hrest
      · simpa only [Fields.insert, if_neg hkey] using .object _ hinner ih
  | @swap first second hne a b rest =>
      by_cases hfirst : first = key
      · have hsecond : second ≠ key := fun hsecond => hne (hfirst.trans hsecond.symm)
        simp only [Fields.insert, if_pos hfirst, if_neg hsecond]
        exact .swap hne _ _ _
      · by_cases hsecond : second = key
        · simp only [Fields.insert, if_pos hsecond, if_neg hfirst]
          exact .swap hne _ _ _
        · simp only [Fields.insert, if_neg hsecond, if_neg hfirst]
          exact .swap hne _ _ _
  | trans _ _ ih ih' => exact ih.trans ih'

/-! ## The object at a key -/

theorem objectAt_cons (key first : String) (value : Json) (rest : Fields) :
    objectAt key ((first, value) :: rest) =
      if first = key then value.fields?.getD [] else objectAt key rest := by
  by_cases h : first = key <;> simp [objectAt, get?, h]

theorem objectAt_insert_of_ne {key other : String} (hne : key ≠ other) (value : Json)
    (fields : Fields) : objectAt other (insert key value fields) = objectAt other fields := by
  simp [objectAt, get?_insert, hne]

theorem Reordered.objectAt {fields fields' : Fields} (h : Reordered fields fields')
    (key : String) : Reordered (fields.objectAt key) (fields'.objectAt key) := by
  induction h with
  | nil => exact .refl _
  | cons field _ ih =>
      rw [objectAt_cons, objectAt_cons]
      split
      · exact .refl _
      · exact ih
  | object first hinner _ _ ih =>
      rw [objectAt_cons, objectAt_cons]
      split
      · exact hinner
      · exact ih
  | @swap first second hne a b rest =>
      by_cases hfirst : first = key
      · have hsecond : second ≠ key := fun hsecond => hne (hfirst.trans hsecond.symm)
        simp only [objectAt_cons, if_pos hfirst, if_neg hsecond]
        exact .refl _
      · simp only [objectAt_cons, if_neg hfirst]
        exact .refl _
  | trans _ _ ih ih' => exact ih.trans ih'

/-! ## Assigning -/

def placed : FieldPath → Json → Fields → Json
  | [], value, _ => value
  | next :: rest, value, inner => .obj (assign (next :: rest) value inner)

theorem assign_cons (key : String) (path : FieldPath) (value : Json) (fields : Fields) :
    assign (key :: path) value fields =
      fields.insert key (placed path value (fields.objectAt key)) := by
  cases path <;> rfl

theorem Reordered.assign {fields fields' : Fields} (h : Reordered fields fields')
    (path : FieldPath) (value : Json) :
    Reordered (fields.assign path value) (fields'.assign path value) := by
  induction path generalizing fields fields' with
  | nil => exact h
  | cons key rest ih =>
      have hplaced : Json.Reordered (placed rest value (fields.objectAt key))
          (placed rest value (fields'.objectAt key)) := by
        cases rest with
        | nil => exact .refl value
        | cons next rest => exact .obj (ih (h.objectAt key))
      rw [assign_cons, assign_cons]
      exact (reordered_insert_value hplaced key fields).trans (h.insert key _)

theorem reordered_assign_comm {p q : FieldPath} (h : Incomparable p q) (a b : Json)
    (fields : Fields) :
    Reordered (assign p a (assign q b fields)) (assign q b (assign p a fields)) := by
  induction p generalizing q fields with
  | nil => exact absurd List.nil_prefix h.1
  | cons key rest ih =>
      cases q with
      | nil => exact absurd List.nil_prefix h.2
      | cons other others =>
          by_cases hkey : key = other
          · subst hkey
            have hrest := (incomparable_cons_iff.mp h).resolve_left (· rfl)
            cases rest with
            | nil => exact absurd List.nil_prefix hrest.1
            | cons next rest =>
                cases others with
                | nil => exact absurd List.nil_prefix hrest.2
                | cons next' others =>
                    simp only [assign, objectAt_insert_self, insert_insert]
                    exact reordered_insert_value (.obj (ih hrest _)) key fields
          · simp only [assign_cons, objectAt_insert_of_ne hkey,
              objectAt_insert_of_ne (Ne.symm hkey)]
            exact reordered_insert_comm hkey _ _ fields

theorem Reordered.assignAll {fields fields' : Fields} (h : Reordered fields fields')
    (entries : List (FieldPath × Json)) :
    Reordered (fields.assignAll entries) (fields'.assignAll entries) := by
  induction entries generalizing fields fields' with
  | nil => exact h
  | cons entry rest ih => exact ih (h.assign entry.1 entry.2)

theorem reordered_assignAll {entries entries' : List (FieldPath × Json)}
    (hperm : entries.Perm entries')
    (hpaths : entries.Pairwise fun a b => Incomparable a.1 b.1) (fields : Fields) :
    Reordered (fields.assignAll entries) (fields.assignAll entries') := by
  induction hperm generalizing fields with
  | nil => exact .refl fields
  | cons entry _ ih => exact ih (List.pairwise_cons.mp hpaths).2 _
  | swap first second rest =>
      have hne := (List.pairwise_cons.mp hpaths).1 first List.mem_cons_self
      exact (reordered_assign_comm hne.symm first.2 second.2 fields).assignAll rest
  | trans hfirst _ ih ih' =>
      have hmiddle := hfirst.pairwise hpaths fun h => h.symm
      exact (ih hpaths fields).trans (ih' hmiddle fields)

end Fields

end SubjectRules.Json
