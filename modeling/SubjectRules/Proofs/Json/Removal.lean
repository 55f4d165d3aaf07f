import SubjectRules.Proofs.Json.Path

/-!
# Taking data out of a value

Data is taken out of a value by dropping a key of an object in it, or by putting null for a value
in it.  The position where this is done may lead through arrays.  Whatever but null is then found
at a path was found there before, unless the position lies strictly below the path.
-/

namespace SubjectRules.Json

inductive Step where
  | key (key : String)
  | item (index : Nat)
  deriving DecidableEq

abbrev Position := List Step

def Fields.without (key : String) (fields : Fields) : Fields :=
  fields.filter fun field => field.1 ≠ key

theorem Fields.get?_without (key other : String) (fields : Fields) :
    get? other (without key fields) = if key = other then none else get? other fields := by
  induction fields with
  | nil => simp [without, get?]
  | cons field rest ih =>
      obtain ⟨first, value⟩ := field
      by_cases hfirst : first = key
      · subst hfirst
        rw [without, List.filter_cons_of_neg (by simp), ← without, ih, get?]
        split <;> rfl
      · rw [without, List.filter_cons_of_pos (by simpa using hfirst), ← without, get?, get?, ih]
        by_cases hother : first = other
        · rw [if_pos hother, if_pos hother, if_neg fun hkey => hfirst (hother.trans hkey.symm)]
        · rw [if_neg hother, if_neg hother]

/-- One removal at a position: of the key there, or of the value there for null. -/
inductive Removal : Position → Json → Json → Prop
  | null (value : Json) : Removal [] value .null
  | key (key : String) (fields : Fields) :
      Removal [.key key] (.obj fields) (.obj (fields.without key))
  | inField {position : Position} {fields : Fields} {key : String} {value value' : Json}
      (hvalue : fields.get? key = some value) (hbelow : Removal position value value') :
      Removal (.key key :: position) (.obj fields) (.obj (fields.insert key value'))
  | inItem {position : Position} {items : List Json} {index : Nat} {value value' : Json}
      (hvalue : items[index]? = some value) (hbelow : Removal position value value') :
      Removal (.item index :: position) (.arr items) (.arr (items.set index value'))

/-- What a removal leaves at a path that is not strictly above it was there before. -/
theorem Removal.at? {position : Position} {value value' : Json}
    (hremoval : Removal position value value') {path : FieldPath}
    (hpath : path.map Step.key <+: position → path.map Step.key = position) {found : Json}
    (hfound : at? path value' = some found) (hnull : found ≠ .null) :
    at? path value = some found := by
  induction hremoval generalizing path with
  | null value =>
      cases path with
      | nil => exact absurd (Option.some.inj hfound).symm hnull
      | cons key rest => cases hfound
  | key key fields =>
      cases path with
      | nil => cases hpath List.nil_prefix
      | cons first rest =>
          have hget : (fields.without key).get? first = fields.get? first := by
            rw [Fields.get?_without, if_neg]
            rintro rfl
            simp [Json.at?, field?, fields?, Fields.get?_without] at hfound
          rw [Json.at?, field?, fields?, Option.bind_some, hget] at hfound
          exact hfound
  | @inField position fields key value value' hvalue hbelow ih =>
      cases path with
      | nil => cases hpath List.nil_prefix
      | cons first rest =>
          rw [Json.at?, field?, fields?, Option.bind_some, Fields.get?_insert] at hfound
          rw [Json.at?, field?, fields?, Option.bind_some]
          by_cases hkey : key = first
          · subst hkey
            rw [if_pos rfl, Option.bind_some] at hfound
            rw [hvalue, Option.bind_some]
            refine ih (fun hprefix => ?_) hfound
            have hcons := hpath ((List.prefix_cons_inj _).mpr hprefix)
            exact (List.cons.inj hcons).2
          · rwa [if_neg hkey] at hfound
  | inItem hvalue hbelow =>
      cases path with
      | nil => cases hpath List.nil_prefix
      | cons first rest => cases hfound

end SubjectRules.Json
